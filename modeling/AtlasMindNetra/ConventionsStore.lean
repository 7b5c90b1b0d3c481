import AtlasMindNetra.CacheRules
import AtlasMindNetra.ResponseModels

/-!
# Learned team conventions

`JsonFileConventionsStore` of `memory/conventions_store.py`. The in-memory map
is updated before the file is written, so a failed write leaves the new
convention in memory only; `file` is the decoded content of the JSON file.
-/

namespace AtlasMindNetra.ConventionsStore

open AtlasMindNetra.PythonValues AtlasMindNetra.CacheRules

set_option autoImplicit false

def instanceDefaultProject : String := "_default"

/-- One learned interpretation: in `project`, `term` means `jqlHint`. -/
structure Convention where
  project : String
  term : String
  resolutionKey : String
  jqlHint : String
  learnedAt : String
  deriving DecidableEq

/-- Conventions in memory and in the JSON file (`none` when there is no file). -/
structure JsonFileConventionsStore where
  items : OrderedDict (String × String) Convention := ∅
  file : Option (List Convention) := none
  deriving DecidableEq

namespace JsonFileConventionsStore

section

variable (tables : TextTables)

def key (project term : String) : String × String := (tables.lower project, tables.lower term)

def defaultKey (term : String) : String × String := key tables instanceDefaultProject term

def ownKey (convention : Convention) : String × String := key tables convention.project convention.term

/-- `_load` on a file that decodes. -/
def load (conventions : List Convention) : JsonFileConventionsStore where
  items := conventions.foldl
    (fun items convention => items.set (key tables convention.project convention.term) convention) ∅
  file := some conventions

/-- A store as it is constructed: from its file, or empty without one. -/
def openFile : Option (List Convention) → JsonFileConventionsStore
  | some conventions => load tables conventions
  | none => {}

def get (store : JsonFileConventionsStore) (project term : String) : Option Convention :=
  match store.items.get? (key tables project term) with
  | some convention => some convention
  | none => store.items.get? (key tables instanceDefaultProject term)

/-- The part of `set` before the file is written. -/
def remember (store : JsonFileConventionsStore) (convention : Convention) : JsonFileConventionsStore :=
  { store with
    items := store.items.set (key tables convention.project convention.term) convention }

end

/-- `_persist` when every step of the write succeeds. -/
def persist (store : JsonFileConventionsStore) : JsonFileConventionsStore :=
  { store with file := some store.items.values }

/-- `delete` when the write succeeds: the exact key, no fallback. -/
def delete (tables : TextTables) (store : JsonFileConventionsStore) (project term : String) :
    Bool × JsonFileConventionsStore :=
  match store.items.get? (key tables project term) with
  | some _ =>
      (true, { store with items := store.items.erase (key tables project term) }.persist)
  | none => (false, store)

def listAll (store : JsonFileConventionsStore) : List Convention := store.items.values

variable {tables : TextTables}

/-- At the instance level the fallback looks at the same key again. -/
theorem get_default (store : JsonFileConventionsStore) (term : String) :
    store.get tables instanceDefaultProject term =
      store.items.get? (key tables instanceDefaultProject term) := by
  unfold get
  cases store.items.get? (key tables instanceDefaultProject term) <;> rfl

theorem get_remember_default (store : JsonFileConventionsStore) (convention : Convention) (term : String)
    (level : convention.project = instanceDefaultProject) :
    (store.remember tables convention).get tables instanceDefaultProject term =
      if tables.lower term = tables.lower convention.term then some convention
      else store.get tables instanceDefaultProject term := by
  simp only [get_default, remember, OrderedDict.get?_set, key, level, Prod.mk.injEq, true_and]

/-- Every convention is filed under its own key, and the file holds them all. -/
structure Filed (tables : TextTables) (store : JsonFileConventionsStore) : Prop where
  ownKeys : ∀ place convention, store.items.get? place = some convention →
    ownKey tables convention = place
  saved : ∀ place, (openFile tables store.file).items.get? place = store.items.get? place

theorem get?_load (conventions : List Convention) (place : String × String) :
    (load tables conventions).items.get? place =
      lastFiled (ownKey tables) conventions place := by
  have filed := get?_file_all (ownKey tables) id ∅ conventions place
  rw [Option.map_id, OrderedDict.get?_empty, Option.or_none] at filed
  exact filed

theorem filed_open (file : Option (List Convention)) : Filed tables (openFile tables file) := by
  cases file with
  | none =>
      constructor
      · intro place convention found
        cases found
      · exact fun _ => rfl
  | some conventions =>
      constructor
      · intro place convention found
        rw [openFile, get?_load] at found
        exact last_filed_key found
      · exact fun _ => rfl

theorem filed_persist (store : JsonFileConventionsStore)
    (ownKeys : ∀ place convention, store.items.get? place = some convention →
      ownKey tables convention = place) : Filed tables store.persist := by
  constructor
  · exact ownKeys
  · intro place
    rw [persist, openFile, get?_load]
    exact last_filed_own _ store.items ownKeys place

theorem filed_remember (store : JsonFileConventionsStore) (convention : Convention)
    (filed : Filed tables store) : Filed tables (store.remember tables convention).persist := by
  apply filed_persist
  intro place other found
  rw [remember, OrderedDict.get?_set] at found
  split_ifs at found with same
  · cases found
    exact same.symm
  · exact filed.ownKeys place other found

theorem filed_delete (store : JsonFileConventionsStore) (project term : String)
    (filed : Filed tables store) : Filed tables (store.delete tables project term).2 := by
  unfold delete
  cases store.items.get? (key tables project term) with
  | none => exact filed
  | some _ =>
      apply filed_persist
      intro place convention found
      exact filed.ownKeys place convention (get?_of_erase _ _ place convention found)

theorem get?_delete_other (store : JsonFileConventionsStore) (project term : String)
    (place : String × String) (other : place ≠ key tables project term) :
    (store.delete tables project term).2.items.get? place = store.items.get? place := by
  unfold delete
  cases store.items.get? (key tables project term) with
  | none => rfl
  | some _ =>
      rw [persist, OrderedDict.get?_erase, if_neg other]

end JsonFileConventionsStore

end AtlasMindNetra.ConventionsStore
