import AtlasMindNetra.ConventionsStore

/-!
# The conventions file and the store in memory

As long as every write succeeds, the file holds what the store holds, in the
order in which it holds it, and a lookup finds what was learned last and not
deleted since. An item that does not say when it was learned gets the time at
which it is loaded, until the file is written. A write that raises comes after
the change in memory: the file stays as it was and the store does not.
-/

namespace AtlasMindNetra.ConventionsStore

open AtlasMindNetra.PythonValues AtlasMindNetra.CacheRules

set_option autoImplicit false

namespace JsonFileConventionsStore

/-- The step of `_persist` that raises. The temporary file is read by nobody, so
what is left of it does not matter. -/
inductive PersistFault where
  | makeDirectory
  | writeTemporary
  | replaceFile
  deriving DecidableEq

inductive StoreCall where
  | set (convention : Convention)
  | delete (project term : String)

/-- `_persist`, raising at a step or not at all. -/
def persistWith (fault : Option PersistFault) (store : JsonFileConventionsStore) :
    Except PersistFault Unit × JsonFileConventionsStore :=
  match fault with
  | none => (.ok (), store.persist)
  | some step => (.error step, store)

section Calls

variable (tables : TextTables)

/-- One call, and for a `delete` whether there was something to remove. -/
def storeCall (fault : Option PersistFault) (store : JsonFileConventionsStore) :
    StoreCall → Except PersistFault (Option Bool) × JsonFileConventionsStore
  | .set convention =>
      let (written, after) := (store.remember tables convention).persistWith fault
      (written.map fun _ => none, after)
  | .delete project term =>
      match store.items.get? (key tables project term) with
      | some _ =>
          let (written, after) :=
            persistWith fault { store with items := store.items.erase (key tables project term) }
          (written.map fun _ => some true, after)
      | none => (.ok (some false), store)

inductive StoreEvent where
  | called (call : StoreCall)
  /-- The process ends, and the next one loads the file. -/
  | restarted

def afterEvent (store : JsonFileConventionsStore) : StoreEvent → JsonFileConventionsStore
  | .called call => (storeCall tables none store call).2
  | .restarted => openFile tables store.file

def afterEvents (file : Option (List Convention)) (events : List StoreEvent) :
    JsonFileConventionsStore :=
  events.foldl (afterEvent tables) (openFile tables file)

/-- Loading a convention is like setting it. -/
def changes (file : Option (List Convention)) (events : List StoreEvent) : List StoreCall :=
  (file.getD []).map .set ++ events.filterMap fun event =>
    match event with
    | .called call => some call
    | .restarted => none

def StoreCall.place : StoreCall → String × String
  | .set convention => ownKey tables convention
  | .delete project term => key tables project term

def lastLearned (past : List StoreCall) (place : String × String) : Option Convention :=
  match lastFiled (StoreCall.place tables) past place with
  | some (.set convention) => some convention
  | some (.delete _ _) | none => none

theorem last_learned_snoc
    (past : List StoreCall)
    (call : StoreCall)
    (place : String × String) :
    lastLearned tables (past ++ [call]) place =
      if call.place tables = place then
        match call with
        | .set convention => some convention
        | .delete _ _ => none
      else lastLearned tables past place := by
  unfold lastLearned
  rw [last_filed_snoc]
  split_ifs
  · cases call <;> rfl
  · rfl

theorem last_learned_loaded
    (conventions : List Convention)
    (place : String × String) :
    lastLearned tables (conventions.map .set) place =
      lastFiled (ownKey tables) conventions place := by
  induction conventions using List.reverseRecOn with
  | nil => rfl
  | append_singleton earlier last ih =>
      rw [List.map_append, List.map_cons, List.map_nil, last_learned_snoc, ih, last_filed_snoc]
      rfl

/-- The store is what its file loads to, with every convention under its own key. -/
structure Copied (store : JsonFileConventionsStore) : Prop where
  ownKeys : ∀ place convention, store.items.get? place = some convention →
    ownKey tables convention = place
  copy : (openFile tables store.file).items = store.items

/-- Loading the values of a map gives back the map, in its order. -/
theorem load_values
    (items : OrderedDict (String × String) Convention)
    (ownKeys : ∀ place convention, items.get? place = some convention →
      ownKey tables convention = place) : (load tables items.values).items = items := by
  have own : ∀ entry ∈ items.entries, ownKey tables entry.2 = entry.1 := by
    intro entry member
    exact ownKeys entry.1 entry.2 ((OrderedDict.mem_entries_iff items entry.1 entry.2).mp member)
  have names : items.values.map (ownKey tables) = items.keys := by
    rw [OrderedDict.values, OrderedDict.keys, List.map_map]
    exact List.map_congr_left own
  apply OrderedDict.ext_entries
  have filed := OrderedDict.entries_filed (ownKey tables) id items.values
    (names.symm ▸ items.distinct)
  have loaded : (load tables items.values).items.entries =
      items.values.map fun convention => (ownKey tables convention, convention) := filed
  have same : items.entries.map
      ((fun convention => (ownKey tables convention, convention)) ∘ Prod.snd) =
      items.entries.map id :=
    List.map_congr_left fun entry member => Prod.ext (own entry member) rfl
  rw [loaded, OrderedDict.values, List.map_map, same, List.map_id]

theorem copied_persist
    (store : JsonFileConventionsStore)
    (ownKeys : ∀ place convention, store.items.get? place = some convention →
      ownKey tables convention = place) : Copied tables store.persist :=
  ⟨ownKeys, load_values tables store.items ownKeys⟩

theorem copied_open (file : Option (List Convention)) : Copied tables (openFile tables file) := by
  constructor
  · exact (filed_open file).ownKeys
  · cases file <;> rfl

theorem call_copied
    (store : JsonFileConventionsStore)
    (call : StoreCall)
    (past : List StoreCall)
    (copied : Copied tables store)
    (learned : ∀ place, store.items.get? place = lastLearned tables past place) :
    Copied tables (storeCall tables none store call).2 ∧
      ∀ place, (storeCall tables none store call).2.items.get? place =
        lastLearned tables (past ++ [call]) place := by
  cases call with
  | set convention =>
      constructor
      · apply copied_persist
        intro place other found
        rw [remember, OrderedDict.get?_set] at found
        split_ifs at found with same
        · cases found
          exact same.symm
        · exact copied.ownKeys place other found
      · intro place
        rw [last_learned_snoc, ← learned place]
        change (store.items.set (ownKey tables convention) convention).get? place = _
        rw [OrderedDict.get?_set]
        simp only [eq_comm, StoreCall.place]
  | delete project term =>
      cases present : store.items.get? (key tables project term) with
      | none =>
          have unchanged : storeCall tables none store (.delete project term) =
              (.ok (some false), store) := by
            simp only [storeCall, present]
          rw [unchanged]
          refine ⟨copied, ?_⟩
          intro place
          rw [last_learned_snoc, ← learned place]
          split_ifs with same
          · rw [← same]
            exact present
          · rfl
      | some held =>
          have removed : (storeCall tables none store (.delete project term)).2 =
              persist { store with items := store.items.erase (key tables project term) } := by
            simp only [storeCall, present]
            rfl
          rw [removed]
          constructor
          · apply copied_persist
            intro place convention found
            exact copied.ownKeys place convention (get?_of_erase _ _ place convention found)
          · intro place
            rw [last_learned_snoc, ← learned place]
            change (store.items.erase (key tables project term)).get? place = _
            rw [OrderedDict.get?_erase]
            simp only [eq_comm, StoreCall.place]

/-- After any events, the file is a copy and the store holds what was learned last. -/
theorem events_copied
    (file : Option (List Convention))
    (events : List StoreEvent) :
    Copied tables (afterEvents tables file events) ∧
      ∀ place, (afterEvents tables file events).items.get? place =
        lastLearned tables (changes file events) place := by
  induction events using List.reverseRecOn with
  | nil =>
      refine ⟨copied_open tables file, ?_⟩
      intro place
      rw [changes, List.filterMap_nil, List.append_nil, last_learned_loaded]
      cases file with
      | none => rfl
      | some conventions => exact get?_load conventions place
  | append_singleton earlier last ih =>
      have step : afterEvents tables file (earlier ++ [last]) =
          afterEvent tables (afterEvents tables file earlier) last := by
        rw [afterEvents, List.foldl_append]
        rfl
      rw [step]
      cases last with
      | called call =>
          have more : changes file (earlier ++ [.called call]) = changes file earlier ++ [call] := by
            rw [changes, changes, List.filterMap_append, List.append_assoc]
            rfl
          rw [more]
          exact call_copied tables _ call _ ih.1 ih.2
      | restarted =>
          have same : changes file (earlier ++ [.restarted]) = changes file earlier := by
            rw [changes, changes, List.filterMap_append, List.filterMap_cons_none rfl,
              List.filterMap_nil, List.append_nil]
          rw [same, afterEvent]
          refine ⟨copied_open tables _, ?_⟩
          intro place
          rw [ih.1.copy]
          exact ih.2 place

structure ConventionItem where
  project : String
  term : String
  resolutionKey : String
  jqlHint : String
  learnedAt : Option String := none
  deriving DecidableEq

/-- `Convention.model_validate` at the time `now`, which `default_factory` puts
in where the item has no `learned_at`. -/
def ConventionItem.validated (now : String) (item : ConventionItem) : Convention where
  project := item.project
  term := item.term
  resolutionKey := item.resolutionKey
  jqlHint := item.jqlHint
  learnedAt := item.learnedAt.getD now

/-- `Convention.model_dump` -/
def dumped (convention : Convention) : ConventionItem where
  project := convention.project
  term := convention.term
  resolutionKey := convention.resolutionKey
  jqlHint := convention.jqlHint
  learnedAt := some convention.learnedAt

/-- The store on a file of items, which need not say when a convention was learned. -/
structure ItemStore where
  items : OrderedDict (String × String) Convention := ∅
  file : Option (List ConventionItem) := none

/-- What `get` and `list_all` look at. -/
def ItemStore.memory (store : ItemStore) : JsonFileConventionsStore := { items := store.items }

/-- A load reads the clock for each item, by its position. -/
abbrev Clock := Nat → String

def validateAll (clock : Clock) (items : List ConventionItem) : List Convention :=
  items.zipIdx.map fun item => item.1.validated (clock item.2)

def openItems (clock : Clock) : Option (List ConventionItem) → ItemStore
  | some items => { items := (load tables (validateAll clock items)).items, file := some items }
  | none => {}

def ItemStore.persist (store : ItemStore) : ItemStore :=
  { store with file := some (store.items.values.map dumped) }

def itemCall (store : ItemStore) : StoreCall → ItemStore
  | .set convention =>
      { store with items := store.items.set (ownKey tables convention) convention }.persist
  | .delete project term =>
      match store.items.get? (key tables project term) with
      | some _ => { store with items := store.items.erase (key tables project term) }.persist
      | none => store

inductive ItemEvent where
  | called (call : StoreCall)
  | restarted (clock : Clock)

def afterItemEvent (store : ItemStore) : ItemEvent → ItemStore
  | .called call => itemCall tables store call
  | .restarted clock => openItems tables clock store.file

def afterItemEvents (clock : Clock) (file : Option (List ConventionItem))
    (events : List ItemEvent) : ItemStore :=
  events.foldl (afterItemEvent tables) (openItems tables clock file)

/-- Loading a convention is like setting it, with the time that it gets. -/
def loadedCalls (clock : Clock) (file : Option (List ConventionItem)) : List StoreCall :=
  (validateAll clock (file.getD [])).map .set

def itemChange (store : ItemStore) : ItemEvent → List StoreCall
  | .called call => [call]
  | .restarted clock => loadedCalls clock store.file

def changesFrom (store : ItemStore) : List ItemEvent → List StoreCall
  | [] => []
  | event :: rest =>
      itemChange store event ++ changesFrom (afterItemEvent tables store event) rest

def itemChanges (clock : Clock) (file : Option (List ConventionItem)) (events : List ItemEvent) :
    List StoreCall :=
  loadedCalls clock file ++ changesFrom tables (openItems tables clock file) events

def Timed (file : Option (List ConventionItem)) : Prop :=
  ∀ items, file = some items → ∀ item ∈ items, item.learnedAt ≠ none

/-- Both are the same item of the file, loaded at two times. -/
def SameItem (file : Option (List ConventionItem)) (first second : Convention) : Prop :=
  ∃ items, file = some items ∧ ∃ item ∈ items, ∃ now later,
    first = item.validated now ∧ second = item.validated later

theorem validate_all_dumped (clock : Clock) (conventions : List Convention) :
    validateAll clock (conventions.map dumped) = conventions := by
  unfold validateAll
  rw [List.zipIdx_map, List.map_map]
  exact List.zipIdx_map_fst 0 conventions

theorem dumped_timed (conventions : List Convention) : Timed (some (conventions.map dumped)) := by
  intro items same item member
  cases same
  obtain ⟨convention, _, rfl⟩ := List.mem_map.mp member
  exact Option.some_ne_none _

def filedItems (items : List ConventionItem) : OrderedDict (String × String) (ConventionItem × Nat) :=
  items.zipIdx.foldl
    (fun filed item => filed.set (key tables item.1.project item.1.term) item) ∅

theorem loaded_entries (clock : Clock) (items : List ConventionItem) :
    (load tables (validateAll clock items)).items.entries =
      (filedItems tables items).entries.map fun entry =>
        (entry.1, entry.2.1.validated (clock entry.2.2)) := by
  have filed := OrderedDict.entries_filed_map
    (fun item : ConventionItem × Nat => key tables item.1.project item.1.term) id
    (fun item => item.1.validated (clock item.2)) items.zipIdx
  rw [load, validateAll, List.foldl_map]
  exact filed

theorem filed_items_mem
    (items : List ConventionItem)
    (entry : (String × String) × ConventionItem × Nat)
    (member : entry ∈ (filedItems tables items).entries) : entry.2.1 ∈ items := by
  have filed := OrderedDict.get?_filed
    (fun item : ConventionItem × Nat => key tables item.1.project item.1.term) id items.zipIdx entry.1
  rw [Option.map_id] at filed
  have found := filed.symm.trans ((OrderedDict.mem_entries_iff _ entry.1 entry.2).mp member)
  exact List.fst_mem_of_mem_zipIdx (List.mem_of_mem_filter (List.mem_of_getLast? found))

/-- Two loads of a file differ in the times only that it leaves out. -/
theorem loads_alike
    (file : Option (List ConventionItem))
    (clock later : Clock) :
    List.Forall₂ (fun first second => first.1 = second.1 ∧ SameItem file first.2 second.2)
      (openItems tables clock file).items.entries (openItems tables later file).items.entries := by
  cases file with
  | none => exact List.Forall₂.nil
  | some items =>
      change List.Forall₂ _ (load tables (validateAll clock items)).items.entries
        (load tables (validateAll later items)).items.entries
      rw [loaded_entries, loaded_entries, List.forall₂_map_left_iff, List.forall₂_map_right_iff]
      apply List.forall₂_same.mpr
      intro entry member
      exact ⟨rfl, items, rfl, entry.2.1, filed_items_mem tables items entry member, _, _, rfl, rfl⟩

theorem timed_same_item
    (file : Option (List ConventionItem))
    (timed : Timed file)
    (first second : Convention)
    (same : SameItem file first second) : first = second := by
  obtain ⟨items, isFile, item, member, now, later, isFirst, isSecond⟩ := same
  obtain ⟨moment, learned⟩ := Option.ne_none_iff_exists'.mp (timed items isFile item member)
  rw [isFirst, isSecond, ConventionItem.validated, ConventionItem.validated, learned]
  rfl

theorem last_learned_loaded_after
    (past : List StoreCall)
    (conventions : List Convention)
    (place : String × String) :
    lastLearned tables (past ++ conventions.map .set) place =
      (lastFiled (ownKey tables) conventions place).or (lastLearned tables past place) := by
  induction conventions using List.reverseRecOn with
  | nil => simp
  | append_singleton earlier last ih =>
      rw [List.map_append, List.map_cons, List.map_nil, ← List.append_assoc, last_learned_snoc, ih,
        last_filed_snoc]
      change (if ownKey tables last = place then some last else _) = _
      split_ifs
      · rfl
      · rfl

/-- The store holds what its file was loaded to at some time, which is what was
learned last; and the file is the first one, or says of everything when it was
learned. -/
structure Held (first : Option (List ConventionItem)) (store : ItemStore)
    (past : List StoreCall) : Prop where
  ownKeys : ∀ place convention, store.items.get? place = some convention →
    ownKey tables convention = place
  copy : ∃ clock, (openItems tables clock store.file).items = store.items
  learned : ∀ place, store.items.get? place = lastLearned tables past place
  file : store.file = first ∨ Timed store.file

theorem open_items_load
    (clock : Clock)
    (file : Option (List ConventionItem)) :
    (openItems tables clock file).items =
      (load tables (validateAll clock (file.getD []))).items := by
  cases file <;> rfl

theorem open_items_file (clock : Clock) (file : Option (List ConventionItem)) :
    (openItems tables clock file).file = file := by
  cases file <;> rfl

theorem opened_held
    (first : Option (List ConventionItem))
    (store : ItemStore)
    (past : List StoreCall)
    (clock : Clock)
    (held : Held tables first store past) :
    Held tables first (openItems tables clock store.file)
      (past ++ loadedCalls clock store.file) := by
  constructor
  · intro place convention found
    rw [open_items_load, get?_load] at found
    exact last_filed_key found
  · rw [open_items_file]
    exact ⟨clock, rfl⟩
  · intro place
    obtain ⟨earlier, copy⟩ := held.copy
    have alike := OrderedDict.get?_related _ _ _ place (loads_alike tables store.file earlier clock)
    rw [copy] at alike
    rw [loadedCalls, last_learned_loaded_after, ← get?_load, ← open_items_load, ← held.learned]
    generalize store.items.get? place = live at alike
    generalize (openItems tables clock store.file).items.get? place = loaded at alike
    cases alike with
    | none => rfl
    | some same => rfl
  · rw [open_items_file]
    exact held.file

theorem first_opened_held
    (clock : Clock)
    (file : Option (List ConventionItem)) :
    Held tables file (openItems tables clock file) (loadedCalls clock file) := by
  constructor
  · intro place convention found
    rw [open_items_load, get?_load] at found
    exact last_filed_key found
  · rw [open_items_file]
    exact ⟨clock, rfl⟩
  · intro place
    rw [loadedCalls, last_learned_loaded, ← get?_load, ← open_items_load]
  · exact Or.inl (open_items_file tables clock file)

theorem persisted_held
    (first : Option (List ConventionItem))
    (store : ItemStore)
    (past : List StoreCall)
    (ownKeys : ∀ place convention, store.items.get? place = some convention →
      ownKey tables convention = place)
    (learned : ∀ place, store.items.get? place = lastLearned tables past place) :
    Held tables first store.persist past := by
  refine ⟨ownKeys, ⟨fun _ => "", ?_⟩, learned, Or.inr (dumped_timed store.items.values)⟩
  change (load tables (validateAll _ (store.items.values.map dumped))).items = store.items
  rw [validate_all_dumped]
  exact load_values tables store.items ownKeys

theorem item_call_held
    (first : Option (List ConventionItem))
    (store : ItemStore)
    (past : List StoreCall)
    (call : StoreCall)
    (held : Held tables first store past) :
    Held tables first (itemCall tables store call) (past ++ [call]) := by
  have step := call_copied tables store.memory.persist call past
    (copied_persist tables store.memory held.ownKeys) held.learned
  cases call with
  | set convention => exact persisted_held tables first _ _ step.1.ownKeys step.2
  | delete project term =>
      cases present : store.items.get? (key tables project term) with
      | none =>
          have unchanged : storeCall tables none store.memory.persist (.delete project term) =
              (.ok (some false), store.memory.persist) := by
            have absent : store.memory.persist.items.get? (key tables project term) = none := present
            simp only [storeCall, absent]
          have same : itemCall tables store (.delete project term) = store := by
            simp only [itemCall, present]
          rw [unchanged] at step
          rw [same]
          exact ⟨held.ownKeys, held.copy, step.2, held.file⟩
      | some convention =>
          have there : store.memory.persist.items.get? (key tables project term) =
            some convention := present
          have removed : itemCall tables store (.delete project term) = ItemStore.persist
              { store with items := store.items.erase (key tables project term) } := by
            simp only [itemCall, present]
          simp only [storeCall, there] at step
          rw [removed]
          exact persisted_held tables first _ _ step.1.ownKeys step.2

theorem item_events_held
    (first : Option (List ConventionItem))
    (store : ItemStore)
    (past : List StoreCall)
    (events : List ItemEvent)
    (held : Held tables first store past) :
    Held tables first (events.foldl (afterItemEvent tables) store)
      (past ++ changesFrom tables store events) := by
  induction events generalizing store past with
  | nil =>
      rw [changesFrom, List.append_nil]
      exact held
  | cons event rest ih =>
      rw [changesFrom, ← List.append_assoc]
      apply ih
      cases event with
      | called call => exact item_call_held tables first store past call held
      | restarted clock => exact opened_held tables first store past clock held

theorem memory_get
    (store : ItemStore)
    (project term : String) :
    store.memory.get tables project term =
      (store.items.get? (key tables project term)).or
        (store.items.get? (defaultKey tables term)) := by
  unfold JsonFileConventionsStore.get ItemStore.memory defaultKey
  cases store.items.get? (key tables project term) with
  | none => rfl
  | some convention => rfl

theorem memories_related
    (file : Option (List ConventionItem))
    (first second : ItemStore)
    (alike : ∀ place,
      Option.Rel (SameItem file) (first.items.get? place) (second.items.get? place))
    (project term : String) :
    Option.Rel (SameItem file) (first.memory.get tables project term)
      (second.memory.get tables project term) := by
  rw [memory_get, memory_get]
  have here := alike (key tables project term)
  generalize first.items.get? (key tables project term) = one at here
  generalize second.items.get? (key tables project term) = other at here
  cases here with
  | none => exact alike (defaultKey tables term)
  | some same => exact Option.Rel.some same

theorem option_related_eq
    (file : Option (List ConventionItem))
    (timed : Timed file)
    (first second : Option Convention)
    (alike : Option.Rel (SameItem file) first second) : second = first := by
  cases alike with
  | none => rfl
  | some same => rw [timed_same_item file timed _ _ same]

theorem lists_related_eq
    (file : Option (List ConventionItem))
    (timed : Timed file)
    (first second : List Convention)
    (alike : List.Forall₂ (SameItem file) first second) : second = first := by
  induction alike with
  | nil => rfl
  | cons same _ ih => rw [timed_same_item file timed _ _ same, ih]

/-- A store loaded from the file answers like the live one, but for the time of a
convention whose item has none. There is no such item once the file was written
or when the first file had none. A lookup returns what was learned last for the
project, or else for the instance. -/
theorem file_is_faithful_copy
    (clock later : Clock)
    (file : Option (List ConventionItem))
    (events : List ItemEvent) :
    let live := afterItemEvents tables clock file events
    let loaded := openItems tables later live.file
    (Timed live.file →
      (∀ project term, loaded.memory.get tables project term = live.memory.get tables project term) ∧
        loaded.memory.listAll = live.memory.listAll) ∧
    (live.file = file ∨ Timed live.file) ∧
    (∀ project term, Option.Rel (SameItem live.file) (live.memory.get tables project term)
      (loaded.memory.get tables project term)) ∧
    List.Forall₂ (SameItem live.file) live.memory.listAll loaded.memory.listAll ∧
    ∀ project term, live.memory.get tables project term =
      (lastLearned tables (itemChanges tables clock file events) (key tables project term)).or
        (lastLearned tables (itemChanges tables clock file events) (defaultKey tables term)) := by
  intro live loaded
  have held : Held tables file live (itemChanges tables clock file events) :=
    item_events_held tables file _ _ events (first_opened_held tables clock file)
  obtain ⟨earlier, copy⟩ := held.copy
  have alike := loads_alike tables live.file earlier later
  rw [copy] at alike
  have found := memories_related tables live.file live loaded fun place =>
    OrderedDict.get?_related _ live.items loaded.items place alike
  have listed : List.Forall₂ (SameItem live.file) live.memory.listAll loaded.memory.listAll := by
    change List.Forall₂ _ (live.items.entries.map Prod.snd) (loaded.items.entries.map Prod.snd)
    rw [List.forall₂_map_left_iff, List.forall₂_map_right_iff]
    exact alike.imp fun _ _ both => both.2
  refine ⟨fun timed => ⟨?_, ?_⟩, held.file, found, listed, ?_⟩
  · intro project term
    exact option_related_eq live.file timed _ _ (found project term)
  · exact lists_related_eq live.file timed _ _ listed
  · intro project term
    rw [memory_get, held.learned, held.learned]

/-- Both stores give the same answers to `get` and `list_all`. -/
def AnswersAlike (before after : JsonFileConventionsStore) : Prop :=
  (∀ project term, after.get tables project term = before.get tables project term) ∧
    after.listAll = before.listAll

def Repeats (store : JsonFileConventionsStore) : StoreCall → Prop
  | .set convention => store.items.get? (ownKey tables convention) = some convention
  | .delete _ _ => False

theorem values_length (items : OrderedDict (String × String) Convention) :
    items.values.length = items.size := List.length_map _

theorem get_own
    (store : JsonFileConventionsStore)
    (convention held : Convention)
    (found : store.items.get? (ownKey tables convention) = some held) :
    store.get tables convention.project convention.term = some held := by
  rw [ownKey] at found
  rw [JsonFileConventionsStore.get, found]

theorem remembered_alike_iff
    (store : JsonFileConventionsStore)
    (convention : Convention) :
    AnswersAlike tables store (store.remember tables convention) ↔
      store.items.get? (ownKey tables convention) = some convention := by
  constructor
  · intro alike
    have lengths := congrArg List.length alike.2
    change (store.items.set (ownKey tables convention) convention).values.length =
      store.items.values.length at lengths
    rw [values_length, values_length, size_set] at lengths
    split_ifs at lengths with known
    · rcases Option.isSome_iff_exists.mp known with ⟨held, found⟩
      have now := get_own tables (store.remember tables convention) convention convention
        (OrderedDict.get?_set_self _ _ _)
      rw [alike.1, get_own tables store convention held found] at now
      rw [found, now]
    · omega
  · intro held
    have same : store.remember tables convention = store := by
      have items := OrderedDict.set_present store.items (ownKey tables convention) convention held
      rw [remember]
      exact congrArg (fun items => ({ store with items := items } : JsonFileConventionsStore)) items
    rw [same]
    exact ⟨fun _ _ => rfl, rfl⟩

theorem size_erase_lt
    (items : OrderedDict (String × String) Convention)
    (place : String × String)
    (held : Convention)
    (found : items.get? place = some held) : (items.erase place).size < items.size := by
  apply List.length_filter_lt_length_iff_exists.mpr
  exact ⟨(place, held), (OrderedDict.mem_entries_iff items place held).mpr found, by simp⟩

/-- A call whose write raises leaves the file alone, and leaves the answers of
the store, and its agreement with the file, exactly if it had nothing to change. -/
theorem failed_write_iff
    (store after : JsonFileConventionsStore)
    (call : StoreCall)
    (fault raised : PersistFault)
    (failed : storeCall tables (some fault) store call = (.error raised, after)) :
    after.file = store.file ∧
      (AnswersAlike tables store after ↔ Repeats tables store call) ∧
      ((openFile tables store.file).items = store.items →
        ((openFile tables after.file).items = after.items ↔ Repeats tables store call)) := by
  cases call with
  | set convention =>
      have left : after = store.remember tables convention := (Prod.mk.inj failed).2.symm
      subst left
      refine ⟨rfl, remembered_alike_iff tables store convention, ?_⟩
      intro agreed
      change (openFile tables store.file).items =
        store.items.set (ownKey tables convention) convention ↔ _
      rw [agreed]
      constructor
      · intro same
        change store.items.get? (ownKey tables convention) = some convention
        rw [same, OrderedDict.get?_set_self]
      · intro held
        exact (OrderedDict.set_present store.items _ convention held).symm
  | delete project term =>
      cases present : store.items.get? (key tables project term) with
      | none =>
          simp only [storeCall, present] at failed
          cases (Prod.mk.inj failed).1
      | some held =>
          simp only [storeCall, present] at failed
          have left : after = { store with items := store.items.erase (key tables project term) } :=
            (Prod.mk.inj failed).2.symm
          subst left
          have fewer := size_erase_lt store.items (key tables project term) held present
          refine ⟨rfl, iff_of_false ?_ id, fun agreed => iff_of_false ?_ id⟩
          · intro alike
            have lengths := congrArg List.length alike.2
            rw [listAll, listAll, values_length, values_length] at lengths
            dsimp only at lengths
            omega
          · rw [agreed]
            intro same
            have sizes := congrArg OrderedDict.size same
            dsimp only at sizes
            omega

end Calls

def openConvention : Convention where
  project := "CAR"
  term := "open"
  resolutionKey := "status"
  jqlHint := "statusCategory != Done"
  learnedAt := "2026-07-01T09:00:00Z"

def oneConvention : JsonFileConventionsStore := openFile asciiTables (some [openConvention])

def untimedItem : ConventionItem := { dumped openConvention with learnedAt := none }

def firstDay : Clock := fun _ => "2026-07-01T09:00:00Z"

def nextDay : Clock := fun _ => "2026-07-02T09:00:00Z"

/-- Nobody writes the file, and the second load finds the convention learned later. -/
theorem untimed_item_loads_apart :
    let live := afterItemEvents asciiTables firstDay (some [untimedItem]) []
    let loaded := openItems asciiTables nextDay live.file
    ¬ ((∀ project term, loaded.memory.get asciiTables project term =
        live.memory.get asciiTables project term) ∧
      loaded.memory.listAll = live.memory.listAll) := by
  intro live loaded alike
  exact absurd alike.2 (by decide +kernel)

/-- Setting it again, with a write that raises, leaves everything as it was. -/
theorem repeated_set_harmless :
    AnswersAlike asciiTables oneConvention
      (storeCall asciiTables (some .replaceFile) oneConvention (.set openConvention)).2 := by
  apply (failed_write_iff asciiTables oneConvention _ (.set openConvention) .replaceFile
    .replaceFile rfl).2.1.mpr
  change oneConvention.items.get? (ownKey asciiTables openConvention) = some openConvention
  decide +kernel

/-- A convention that could not be written is found all the same, and one whose
deletion could not be written is gone until the next start. -/
theorem failed_writes_stay_in_memory :
    ((storeCall asciiTables (some .writeTemporary) {} (.set openConvention)).1.toOption = none ∧
      ¬ AnswersAlike asciiTables {}
        (storeCall asciiTables (some .writeTemporary) {} (.set openConvention)).2) ∧
    (storeCall asciiTables (some .makeDirectory) oneConvention (.delete "CAR" "open")).1.toOption =
        none ∧
      ¬ AnswersAlike asciiTables oneConvention
        (storeCall asciiTables (some .makeDirectory) oneConvention (.delete "CAR" "open")).2 := by
  refine ⟨⟨by decide +kernel, ?_⟩, by decide +kernel, ?_⟩
  · intro alike
    exact absurd (alike.1 "CAR" "open") (by decide +kernel)
  · intro alike
    exact absurd alike.2 (by decide +kernel)

end JsonFileConventionsStore

end AtlasMindNetra.ConventionsStore
