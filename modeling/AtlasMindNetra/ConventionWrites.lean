import AtlasMindNetra.ConventionsStore
import AtlasMindNetra.RunRules

/-!
# Overlapping writes of the conventions file

`set` and `delete` change the map in memory at once and hand the write to a
thread of its own: it reads the map, writes the one temporary file and renames
it onto the conventions file. All threads share map, temporary file and target,
and take their steps in any order.
-/

namespace AtlasMindNetra.ConventionWrites

open AtlasMindNetra.PythonValues AtlasMindNetra.CacheRules
open AtlasMindNetra.ConventionsStore AtlasMindNetra.ConventionsStore.JsonFileConventionsStore
open AtlasMindNetra.RunRules

set_option autoImplicit false

/-- Where a `_persist` thread stands. -/
inductive PersistPhase where
  /-- before it reads the map -/
  | starting
  /-- before it writes the temporary file -/
  | holding (payload : List Convention)
  /-- before it renames the temporary file -/
  | written
  | finished
  /-- the rename found no temporary file -/
  | failed
  deriving DecidableEq

structure StoreFiles where
  store : JsonFileConventionsStore
  tmp : Option (List Convention) := none
  threads : List PersistPhase := []
  deriving DecidableEq

inductive StoreInput where
  | set (convention : Convention)
  | delete (project term : String)
  /-- The thread with this number takes its next step. -/
  | advance (thread : Nat)
  deriving DecidableEq

section Machine

variable (tables : TextTables)

/-- The next step of a thread that stands at `phase`. -/
def persistStep (files : StoreFiles) (thread : Nat) : PersistPhase → StoreFiles
  | .starting =>
      { files with threads := files.threads.set thread (.holding files.store.items.values) }
  | .holding payload =>
      { files with tmp := some payload, threads := files.threads.set thread .written }
  | .written =>
      match files.tmp with
      | some payload =>
          { store := { files.store with file := some payload }
            tmp := none
            threads := files.threads.set thread .finished }
      | none => { files with threads := files.threads.set thread .failed }
  | .finished => files
  | .failed => files

/-- One step, and for a `delete` whether there was something to remove. -/
def storeStep (files : StoreFiles) : StoreInput → StoreFiles × Option Bool
  | .set convention =>
      ({ files with
          store := files.store.remember tables convention
          threads := files.threads ++ [.starting] }, none)
  | .delete project term =>
      match files.store.items.get? (key tables project term) with
      | some _ =>
          ({ files with
              store :=
                { files.store with items := files.store.items.erase (key tables project term) }
              threads := files.threads ++ [.starting] }, some true)
      | none => (files, some false)
  | .advance thread =>
      match files.threads[thread]? with
      | some phase => (persistStep files thread phase, none)
      | none => (files, none)

def Current (files : StoreFiles) (content : Option (List Convention)) : Prop :=
  ∀ place, (openFile tables content).items.get? place = files.store.items.get? place

/-- No write fails, and once all are done the file holds the map. -/
structure NothingLost (files : StoreFiles) : Prop where
  noneFailed : ∀ phase ∈ files.threads, phase ≠ .failed
  complete : (∀ phase ∈ files.threads, phase = .finished) → Current tables files files.store.file

def PersistPhase.Pending : PersistPhase → Prop
  | .starting | .holding _ => True
  | _ => False

/-- A thread writes the temporary file only if no other thread has still to
rename it, and only the current map unless another thread is yet to write. -/
def CleanWrite (files : StoreFiles) : StoreInput → Prop
  | .advance thread => ∀ payload, files.threads[thread]? = some (.holding payload) →
      .written ∉ files.threads ∧
        (Current tables files (some payload) ∨
          ∃ (other : Nat) (phase : PersistPhase), other ≠ thread ∧
            files.threads[other]? = some phase ∧ phase.Pending)
  | _ => True

/-- What clean writes keep: one thread at most owns the temporary file, and
with nobody left to write, the newest content is the map. -/
structure WritesInOrder (files : StoreFiles) : Prop where
  ownKeys : ∀ place convention, files.store.items.get? place = some convention →
    ownKey tables convention = place
  noneFailed : ∀ phase ∈ files.threads, phase ≠ .failed
  owner : ∀ thread other : Nat, files.threads[thread]? = some .written →
    files.threads[other]? = some .written → thread = other
  owned : PersistPhase.written ∈ files.threads → ∃ payload, files.tmp = some payload
  newestFile : (∀ phase ∈ files.threads, ¬phase.Pending) →
    PersistPhase.written ∉ files.threads → Current tables files files.store.file
  newestTmp : (∀ phase ∈ files.threads, ¬phase.Pending) →
    PersistPhase.written ∈ files.threads → Current tables files files.tmp

theorem in_order_nothing_lost
    (files : StoreFiles)
    (order : WritesInOrder tables files) : NothingLost tables files := by
  constructor
  · exact order.noneFailed
  · intro finished
    apply order.newestFile
    · intro phase member
      rw [finished phase member]
      exact id
    · intro written
      cases finished _ written

end Machine

section Steps

variable {tables : TextTables} (files : StoreFiles)

theorem in_order_started
    (store : JsonFileConventionsStore)
    (ownKeys : ∀ place convention, store.items.get? place = some convention →
      ownKey tables convention = place)
    (order : WritesInOrder tables files) :
    WritesInOrder tables { files with store := store, threads := files.threads ++ [.starting] } := by
  have started : ∀ phase ∈ files.threads ++ [.starting],
      phase ∈ files.threads ∨ phase = .starting := by
    intro phase member
    rw [List.mem_append, List.mem_singleton] at member
    exact member
  have index : ∀ thread : Nat, (files.threads ++ [.starting])[thread]? = some .written →
      files.threads[thread]? = some .written := by
    intro thread written
    rw [List.getElem?_append] at written
    split_ifs at written
    · exact written
    · have member := List.mem_of_getElem? written
      rw [List.mem_singleton] at member
      cases member
  have waits : ¬∀ phase ∈ files.threads ++ [.starting], ¬phase.Pending := by
    intro quiet
    exact quiet .starting (List.mem_append_right _ List.mem_cons_self) trivial
  constructor
  · exact ownKeys
  · intro phase member
    rcases started phase member with old | rfl
    · exact order.noneFailed phase old
    · simp
  · intro thread other first second
    exact order.owner thread other (index thread first) (index other second)
  · intro written
    rcases started _ written with old | new
    · exact order.owned old
    · cases new
  · exact fun quiet => absurd quiet waits
  · exact fun quiet => absurd quiet waits

variable {files} (thread : Nat)

theorem set_other
    (phase : PersistPhase)
    (other : Nat)
    (apart : other ≠ thread) :
    (files.threads.set thread phase)[other]? = files.threads[other]? :=
  List.getElem?_set_ne (Ne.symm apart)

theorem set_self
    (old phase : PersistPhase)
    (stands : files.threads[thread]? = some old) :
    (files.threads.set thread phase)[thread]? = some phase := by
  rcases List.getElem?_eq_some_iff.mp stands with ⟨bound, _⟩
  exact List.getElem?_set_self bound

theorem in_order_reads
    (stands : files.threads[thread]? = some .starting)
    (order : WritesInOrder tables files) :
    WritesInOrder tables (persistStep files thread .starting) := by
  have now := @set_self files thread .starting (.holding files.store.items.values) stands
  have index : ∀ other : Nat, (files.threads.set thread (.holding files.store.items.values))[other]? =
      some .written → files.threads[other]? = some .written := by
    intro other written
    by_cases same : other = thread
    · rw [same, now] at written
      cases written
    · rw [set_other thread _ other same] at written
      exact written
  have waits : ¬∀ phase ∈ files.threads.set thread (.holding files.store.items.values),
      ¬phase.Pending := by
    intro quiet
    exact quiet _ (List.mem_of_getElem? now) trivial
  constructor
  · exact order.ownKeys
  · intro phase member
    rcases List.mem_or_eq_of_mem_set member with old | rfl
    · exact order.noneFailed phase old
    · simp
  · intro first second held heldToo
    exact order.owner first second (index first held) (index second heldToo)
  · intro written
    rcases List.mem_or_eq_of_mem_set written with old | new
    · exact order.owned old
    · cases new
  · exact fun quiet => absurd quiet waits
  · exact fun quiet => absurd quiet waits

theorem in_order_writes
    (payload : List Convention)
    (stands : files.threads[thread]? = some (.holding payload))
    (clean : CleanWrite tables files (.advance thread))
    (order : WritesInOrder tables files) :
    WritesInOrder tables (persistStep files thread (.holding payload)) := by
  rcases clean payload stands with ⟨free, newest⟩
  have now := @set_self files thread (.holding payload) .written stands
  have index : ∀ other : Nat, (files.threads.set thread .written)[other]? = some .written →
      other = thread := by
    intro other written
    by_contra apart
    rw [set_other thread _ other apart] at written
    exact free (List.mem_of_getElem? written)
  constructor
  · exact order.ownKeys
  · intro phase member
    rcases List.mem_or_eq_of_mem_set member with old | rfl
    · exact order.noneFailed phase old
    · simp
  · intro first second held heldToo
    rw [index first held, index second heldToo]
  · intro _
    exact ⟨payload, rfl⟩
  · intro _ absent
    exact absurd (List.mem_of_getElem? now) absent
  · intro quiet _
    rcases newest with current | ⟨other, phase, apart, waiting, pending⟩
    · exact current
    · rw [← set_other thread .written other apart] at waiting
      exact absurd pending (quiet phase (List.mem_of_getElem? waiting))

theorem in_order_renames
    (stands : files.threads[thread]? = some .written)
    (order : WritesInOrder tables files) :
    WritesInOrder tables (persistStep files thread .written) := by
  have owns := List.mem_of_getElem? stands
  rcases order.owned owns with ⟨payload, held⟩
  have now := @set_self files thread .written .finished stands
  have released : PersistPhase.written ∉ files.threads.set thread .finished := by
    intro written
    rcases List.getElem?_of_mem written with ⟨other, stays⟩
    by_cases same : other = thread
    · rw [same, now] at stays
      cases stays
    · rw [set_other thread _ other same] at stays
      exact same (order.owner other thread stays stands)
  rw [persistStep, held]
  constructor
  · exact order.ownKeys
  · intro phase member
    rcases List.mem_or_eq_of_mem_set member with old | rfl
    · exact order.noneFailed phase old
    · simp
  · intro first second written _
    exact absurd (List.mem_of_getElem? written) released
  · exact fun written => absurd written released
  · intro quiet _
    have before : ∀ phase ∈ files.threads, ¬phase.Pending := by
      intro phase member pending
      rcases List.getElem?_of_mem member with ⟨other, stays⟩
      by_cases same : other = thread
      · rw [same, stands] at stays
        cases stays
        exact pending
      · rw [← set_other thread .finished other same] at stays
        exact quiet phase (List.mem_of_getElem? stays) pending
    have newest := order.newestTmp before owns
    rw [held] at newest
    exact newest
  · exact fun _ written => absurd written released

theorem in_order_step
    (input : StoreInput)
    (order : WritesInOrder tables files)
    (clean : CleanWrite tables files input) :
    WritesInOrder tables (storeStep tables files input).1 := by
  cases input with
  | set convention =>
      apply in_order_started files (files.store.remember tables convention) _ order
      intro place other found
      rw [remember, OrderedDict.get?_set] at found
      split_ifs at found with same
      · cases found
        exact same.symm
      · exact order.ownKeys place other found
  | delete project term =>
      rw [storeStep]
      cases files.store.items.get? (key tables project term) with
      | none => exact order
      | some _ =>
          apply in_order_started files _ _ order
          intro place convention found
          exact order.ownKeys place convention (get?_of_erase _ _ place convention found)
  | advance thread =>
      rw [storeStep]
      cases stands : files.threads[thread]? with
      | none => exact order
      | some phase =>
          cases phase with
          | starting => exact in_order_reads thread stands order
          | holding payload => exact in_order_writes thread payload stands clean order
          | written => exact in_order_renames thread stands order
          | finished => exact order
          | failed => exact order

end Steps

/-- A freshly started store; a temporary file may be left from earlier. -/
def startedStore (tables : TextTables) (file tmp : Option (List Convention)) : StoreFiles where
  store := openFile tables file
  tmp := tmp

theorem in_order_start
    (tables : TextTables)
    (file tmp : Option (List Convention)) :
    WritesInOrder tables (startedStore tables file tmp) := by
  have filed : Filed tables (openFile tables file) := filed_open file
  constructor
  · exact filed.ownKeys
  · exact fun _ absent => absurd absent List.not_mem_nil
  · intro _ _ written
    cases written
  · exact fun absent => absurd absent List.not_mem_nil
  · exact fun _ _ => filed.saved
  · exact fun _ absent => absurd absent List.not_mem_nil

/-- Any number of sets and deletes, with their steps in any order: if every
write of the temporary file is clean, nothing fails and nothing is lost. -/
theorem clean_writes_lose_nothing
    (tables : TextTables)
    (file tmp : Option (List Convention))
    (inputs : List StoreInput)
    (clean : EveryStep (storeStep tables) (CleanWrite tables) (startedStore tables file tmp)
      inputs) :
    NothingLost tables (run (storeStep tables) (startedStore tables file tmp) inputs).1 := by
  apply in_order_nothing_lost
  exact run_invariant (WritesInOrder tables)
    (fun state input order allowed => in_order_step input order allowed) _ inputs
    (in_order_start tables file tmp) clean

def clientConvention (term : String) : Convention where
  project := instanceDefaultProject
  term := term
  resolutionKey := term
  jqlHint := "hint"
  learnedAt := ""

/-- The first thread reads the map, then the second set changes it; the first
thread still renames the temporary file before the second one writes it. -/
def staleFirst : List StoreInput :=
  [.set (clientConvention "open"), .advance 0, .set (clientConvention "late"), .advance 0,
    .advance 1, .advance 0, .advance 1, .advance 1]

instance (phase : PersistPhase) : Decidable phase.Pending :=
  match phase with
  | .starting => .isTrue trivial
  | .holding _ => .isTrue trivial
  | .written => .isFalse id
  | .finished => .isFalse id
  | .failed => .isFalse id

def otherPending (files : StoreFiles) (thread : Nat) : Bool :=
  (List.range files.threads.length).any fun other =>
    decide (other ≠ thread) && files.threads[other]?.any fun phase => decide phase.Pending

theorem other_pending
    (files : StoreFiles)
    (thread : Nat)
    (found : otherPending files thread = true) :
    ∃ (other : Nat) (phase : PersistPhase), other ≠ thread ∧
      files.threads[other]? = some phase ∧ phase.Pending := by
  obtain ⟨other, _, holds⟩ := List.any_eq_true.mp found
  rw [Bool.and_eq_true, decide_eq_true_eq, Option.any_eq_true] at holds
  obtain ⟨apart, phase, stands, pending⟩ := holds
  exact ⟨other, phase, apart, stands, of_decide_eq_true pending⟩

def isCleanWrite (tables : TextTables) (files : StoreFiles) : StoreInput → Bool
  | .advance thread =>
      match files.threads[thread]? with
      | some (.holding payload) =>
          decide (PersistPhase.written ∉ files.threads) &&
            (decide ((openFile tables (some payload)).items = files.store.items) ||
              otherPending files thread)
      | _ => true
  | _ => true

theorem clean_write_of_test
    (tables : TextTables)
    (files : StoreFiles)
    (input : StoreInput)
    (clean : isCleanWrite tables files input = true) : CleanWrite tables files input := by
  cases input with
  | set convention => trivial
  | delete project term => trivial
  | advance thread =>
      intro payload stands
      rw [isCleanWrite, stands, Bool.and_eq_true, Bool.or_eq_true, decide_eq_true_eq,
        decide_eq_true_eq] at clean
      obtain ⟨unwritten, current | pending⟩ := clean
      · refine ⟨unwritten, Or.inl fun place => ?_⟩
        rw [current]
      · exact ⟨unwritten, Or.inr (other_pending files thread pending)⟩

theorem stale_first_loses_nothing :
    NothingLost asciiTables
      (run (storeStep asciiTables) (startedStore asciiTables none none) staleFirst).1 :=
  clean_writes_lose_nothing asciiTables none none staleFirst
    (every_step_mono (clean_write_of_test asciiTables) _ staleFirst (by decide +kernel))

def bothAtOnce : List StoreInput :=
  [.set (clientConvention "open"), .set (clientConvention "late"), .advance 0, .advance 1,
    .advance 0, .advance 1, .advance 0, .advance 1]

/-- The first thread reads before the second set and writes after the second thread. -/
def staleLast : List StoreInput :=
  [.set (clientConvention "open"), .advance 0, .set (clientConvention "late"), .advance 1,
    .advance 1, .advance 1, .advance 0, .advance 0]

/-- In the first run a rename fails, in the second a convention is lost. -/
theorem overlapping_writes_lose :
    (PersistPhase.failed ∈
        (run (storeStep asciiTables) (startedStore asciiTables none none) bothAtOnce).1.threads ∧
      ¬NothingLost asciiTables
        (run (storeStep asciiTables) (startedStore asciiTables none none) bothAtOnce).1) ∧
    (run (storeStep asciiTables) (startedStore asciiTables none none) staleLast).1.threads =
        [.finished, .finished] ∧
      ¬NothingLost asciiTables
        (run (storeStep asciiTables) (startedStore asciiTables none none) staleLast).1 := by
  have fails : PersistPhase.failed ∈
      (run (storeStep asciiTables) (startedStore asciiTables none none) bothAtOnce).1.threads := by
    decide +kernel
  have ends : (run (storeStep asciiTables) (startedStore asciiTables none none) staleLast).1.threads =
      [.finished, .finished] := by decide +kernel
  have lost : (openFile asciiTables
      (run (storeStep asciiTables) (startedStore asciiTables none none) staleLast).1.store.file).items.get?
        (defaultKey asciiTables "late") ≠
      (run (storeStep asciiTables) (startedStore asciiTables none none) staleLast).1.store.items.get?
        (defaultKey asciiTables "late") := by decide +kernel
  refine ⟨⟨fails, fun nothing => nothing.noneFailed _ fails rfl⟩, ends, fun nothing => ?_⟩
  apply lost
  apply nothing.complete
  rw [ends]
  simp

end AtlasMindNetra.ConventionWrites
