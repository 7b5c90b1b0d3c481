import AtlasMindNetra.RunRules
import AtlasMindNetra.SessionTexts
import AtlasMindNetra.TtlRules

/-!
# Session stores in memory and on Valkey

The two implementations of each store that `store_factory.py` chooses from. The
stores of every instance of the server share one Valkey database, in which they
keep texts; for their callers they are the stores of one process that never
ends. The service is a parameter, and what its commands are documented to do is
assumed of it. A model that a store in memory hands out is a value here, so an
edit of it counts when it is stored. Times are in milliseconds.
-/

namespace AtlasMindNetra.ValkeyStores

open AtlasMindNetra.ResponseModels AtlasMindNetra.JsonTrees AtlasMindNetra.JsonTexts
open AtlasMindNetra.JsonWriting AtlasMindNetra.SessionStore AtlasMindNetra.SessionTexts
open AtlasMindNetra.BriefingOrchestrator AtlasMindNetra.RunRules AtlasMindNetra.TtlRules
open AtlasMindNetra.TtlRules.TtlCache
open AtlasMindNetra.PythonValues
open AtlasMindNetra.BriefingArchive (ModelValidation TakesOwnTypes strictValidation
  strict_takes_own_types)

set_option autoImplicit false

namespace InMemorySessionStore

def get (store : TtlCache String SessionState Nat) (now : Nat) (sessionId : String) :
    Option SessionState × TtlCache String SessionState Nat := store.take now sessionId

def set (ttl : Nat) (store : TtlCache String SessionState Nat) (now : Nat)
    (session : SessionState) : TtlCache String SessionState Nat :=
  store.assign (now + ttl) session.sessionId session

def delete (store : TtlCache String SessionState Nat) (sessionId : String) :
    TtlCache String SessionState Nat := store.drop sessionId

end InMemorySessionStore

namespace InMemoryBriefingSessionStore

def get (store : TtlCache String BriefingPendingState Nat) (now : Nat) (sessionId : String) :
    Option BriefingPendingState × TtlCache String BriefingPendingState Nat :=
  store.take now sessionId

def set (ttl : Nat) (store : TtlCache String BriefingPendingState Nat) (now : Nat)
    (state : BriefingPendingState) : TtlCache String BriefingPendingState Nat :=
  store.assign (now + ttl) state.sessionId state

def delete (store : TtlCache String BriefingPendingState Nat) (sessionId : String) :
    TtlCache String BriefingPendingState Nat := store.drop sessionId

end InMemoryBriefingSessionStore

def Mirrors (store : TtlStore) (cache : TtlCache String SessionState Nat) : Prop :=
  ∀ sessionId, cache.entries.get? sessionId = (store.entries.get? sessionId).map Prod.swap

theorem mirrors_get
    (store : TtlStore)
    (cache : TtlCache String SessionState Nat)
    (mirrors : Mirrors store cache)
    (now : Nat)
    (sessionId : String) :
    (InMemorySessionStore.get cache now sessionId).1 = (store.get now sessionId).1 ∧
      Mirrors (store.get now sessionId).2 (InMemorySessionStore.get cache now sessionId).2 := by
  have here := mirrors sessionId
  unfold InMemorySessionStore.get take TtlStore.get
  cases found : store.entries.get? sessionId with
  | none =>
      rw [here, found]
      exact ⟨rfl, mirrors⟩
  | some entry =>
      rcases entry with ⟨expires, session⟩
      rw [here, found]
      simp only [Option.map_some, Prod.swap_prod_mk]
      by_cases gone : now ≥ expires
      · rw [if_pos gone, if_pos gone]
        apply And.intro rfl
        intro other
        rw [drop, OrderedDict.get?_erase, OrderedDict.get?_erase, mirrors other]
        split_ifs <;> rfl
      · rw [if_neg gone, if_neg gone]
        exact ⟨rfl, mirrors⟩

theorem mirrors_set
    (store : TtlStore)
    (cache : TtlCache String SessionState Nat)
    (mirrors : Mirrors store cache)
    (now : Nat)
    (session : SessionState) :
    Mirrors (store.set now session) (InMemorySessionStore.set store.ttl cache now session) := by
  intro other
  rw [InMemorySessionStore.set, assign, TtlStore.set, OrderedDict.get?_set, OrderedDict.get?_set,
    mirrors other]
  split_ifs <;> rfl

/-- What a store raises: what the client raises, or `ValidationError`. -/
inductive StoreError where
  | valkey (message : String)
  | validation
  deriving DecidableEq

/-- The service behind a Valkey client, with what `GET` finds at an instant and what
`SETEX` and `DEL` leave behind. -/
structure ValkeyService where
  Database : Type
  get : Database → Nat → String → Except StoreError (Option String)
  setex : Database → Nat → String → Nat → String → Except StoreError Database
  delete : Database → Nat → String → Except StoreError Database

namespace ValkeyService

variable (service : ValkeyService)

def read (database : service.Database) (now : Nat) (key : String) : Option String :=
  match service.get database now key with
  | .ok found => found
  | .error _ => none

/-- What the commands are documented to do when the service can be reached: a text
that is set for a positive number of seconds is found until they are over, a
deleted one is not, and a command about one key changes no other. -/
structure Documented : Prop where
  gets : ∀ database now key, service.get database now key = .ok (service.read database now key)
  sets : ∀ database now key seconds text, 0 < seconds →
    ∃ next, service.setex database now key seconds text = .ok next ∧
      ∀ later, now ≤ later → ∀ other, service.read next later other =
        if other = key then (if later < now + 1000 * seconds then some text else none)
        else service.read database later other
  deletes : ∀ database now key, ∃ next, service.delete database now key = .ok next ∧
    ∀ later, now ≤ later → ∀ other, service.read next later other =
      if other = key then none else service.read database later other

end ValkeyService

/-- `int(ttl_seconds)` -/
def wholeSeconds (ttl : Nat) : Nat := ttl / 1000

def sessionPrefix : String := "netra:session:"

def briefingPrefix : String := "netra:briefing:"

section Valkey

variable (service : ValkeyService) (tables : Tables) (floatText : Rat → List Char)

def modelDumpJson (document : Json) : String := writeDocument (compact floatText) document

/-- A text that is no JSON is a `ValidationError` as well. -/
def modelValidateJson {Model : Type} (validate : Json → Option Model) (raw : String) :
    Except StoreError Model :=
  match loads tables raw with
  | .error _ => .error .validation
  | .ok document =>
      match validate document with
      | some model => .ok model
      | none => .error .validation

/-- `get` under one of the prefixes. -/
def storeGet {Model : Type} (under : String) (validate : Json → Option Model)
    (database : service.Database) (now : Nat) (sessionId : String) :
    Except StoreError (Option Model) := do
  match ← service.get database now (under ++ sessionId) with
  | none => .ok none
  | some raw => (modelValidateJson tables validate raw).map some

variable (rows : RowFormat) (validation : ModelValidation)

namespace ValkeySessionStore

def get (database : service.Database) (now : Nat) (sessionId : String) :
    Except StoreError (Option SessionState) :=
  storeGet service tables sessionPrefix (validateSession validation) database now sessionId

def set (ttl : Nat) (database : service.Database) (now : Nat) (session : SessionState) :
    Except StoreError service.Database :=
  service.setex database now (sessionPrefix ++ session.sessionId) (wholeSeconds ttl)
    (modelDumpJson floatText (dumpSession session))

def delete (database : service.Database) (now : Nat) (sessionId : String) :
    Except StoreError service.Database :=
  service.delete database now (sessionPrefix ++ sessionId)

end ValkeySessionStore

namespace ValkeyBriefingSessionStore

def get (database : service.Database) (now : Nat) (sessionId : String) :
    Except StoreError (Option BriefingPendingState) :=
  storeGet service tables briefingPrefix (validatePending rows validation) database now sessionId

def set (ttl : Nat) (database : service.Database) (now : Nat) (state : BriefingPendingState) :
    Except StoreError service.Database :=
  service.setex database now (briefingPrefix ++ state.sessionId) (wholeSeconds ttl)
    (modelDumpJson floatText (dumpPending rows state))

def delete (database : service.Database) (now : Nat) (sessionId : String) :
    Except StoreError service.Database :=
  service.delete database now (briefingPrefix ++ sessionId)

end ValkeyBriefingSessionStore

inductive StoreCommand where
  | getSession (sessionId : String)
  | setSession (session : SessionState)
  | deleteSession (sessionId : String)
  | getBriefing (sessionId : String)
  | setBriefing (state : BriefingPendingState)
  | deleteBriefing (sessionId : String)

inductive StoreAnswer where
  | session (found : Option SessionState)
  | briefing (found : Option BriefingPendingState)
  | done
  deriving DecidableEq

structure MemoryStores where
  sessions : TtlCache String SessionState Nat := ⟨∅⟩
  briefings : TtlCache String BriefingPendingState Nat := ⟨∅⟩

def memoryStep (ttl : Nat) (stores : MemoryStores) :
    Nat × StoreCommand → MemoryStores × StoreAnswer
  | (now, .getSession sessionId) =>
      let found := InMemorySessionStore.get stores.sessions now sessionId
      ({ stores with sessions := found.2 }, .session found.1)
  | (now, .setSession session) =>
      ({ stores with sessions := InMemorySessionStore.set ttl stores.sessions now session }, .done)
  | (_, .deleteSession sessionId) =>
      ({ stores with sessions := InMemorySessionStore.delete stores.sessions sessionId }, .done)
  | (now, .getBriefing sessionId) =>
      let found := InMemoryBriefingSessionStore.get stores.briefings now sessionId
      ({ stores with briefings := found.2 }, .briefing found.1)
  | (now, .setBriefing state) =>
      ({ stores with briefings := InMemoryBriefingSessionStore.set ttl stores.briefings now state },
        .done)
  | (_, .deleteBriefing sessionId) =>
      ({ stores with briefings := InMemoryBriefingSessionStore.delete stores.briefings sessionId },
        .done)

def written {Database : Type} (database : Database) (outcome : Except StoreError Database) :
    Database × Except StoreError StoreAnswer :=
  match outcome with
  | .ok next => (next, .ok .done)
  | .error error => (database, .error error)

def valkeyStep (ttl : Nat) (database : service.Database) :
    Nat × StoreCommand → service.Database × Except StoreError StoreAnswer
  | (now, .getSession sessionId) =>
      (database,
        (ValkeySessionStore.get service tables validation database now sessionId).map .session)
  | (now, .setSession session) =>
      written database (ValkeySessionStore.set service floatText ttl database now session)
  | (now, .deleteSession sessionId) =>
      written database (ValkeySessionStore.delete service database now sessionId)
  | (now, .getBriefing sessionId) =>
      (database,
        (ValkeyBriefingSessionStore.get service tables rows validation database now sessionId).map
          .briefing)
  | (now, .setBriefing state) =>
      written database (ValkeyBriefingSessionStore.set service floatText rows ttl database now state)
  | (now, .deleteBriefing sessionId) =>
      written database (ValkeyBriefingSessionStore.delete service database now sessionId)

def Storable : StoreCommand → Prop
  | .setSession session => ShortInt tables session.clarificationRounds
  | .setBriefing state => KeptPending rows tables (compact floatText) state
  | _ => True

/-- The database shows both stores to readers from now on. -/
structure ShowsStores (now : Nat) (database : service.Database) (stores : MemoryStores) : Prop where
  sessions : Holds (sessionPrefix ++ ·) (modelValidateJson tables (validateSession validation))
    Except.ok now (service.read database) stores.sessions
  briefings : Holds (briefingPrefix ++ ·) (modelValidateJson tables (validatePending rows validation))
    Except.ok now (service.read database) stores.briefings

variable {service tables floatText rows validation}

theorem prefix_injective (under : String) : Function.Injective (under ++ · : String → String) := by
  intro left right same
  have texts := congrArg String.toList same
  rw [String.toList_append, String.toList_append] at texts
  exact String.toList_inj.mp (List.append_cancel_left texts)

theorem prefixes_apart (left right : String) :
    sessionPrefix ++ left ≠ briefingPrefix ++ right := by
  intro same
  have texts := congrArg (fun text : String => text.toList[6]?) same
  simp only [String.toList_append] at texts
  have session : (sessionPrefix.toList ++ left.toList)[6]? = some 's' := rfl
  have briefing : (briefingPrefix.toList ++ right.toList)[6]? = some 'b' := rfl
  rw [session, briefing] at texts
  exact absurd texts (by decide)

theorem model_read_back
    {Model : Type}
    (floatText : Rat → List Char)
    (validate : Json → Option Model)
    (document : Json)
    (model : Model)
    (room : Nat)
    (readable : Readable tables (compact floatText) room document)
    (fits : room ≤ tables.maxDepth)
    (validated : validate document = some model) :
    modelValidateJson tables validate (modelDumpJson floatText document) = .ok model := by
  have readsBack := document_read_back tables (compact floatText) room document readable fits
  rw [modelValidateJson, modelDumpJson, readsBack]
  simp only [validated]

theorem store_get_held
    {Model : Type}
    (documented : service.Documented)
    (under : String)
    (validate : Json → Option Model)
    (now : Nat)
    (database : service.Database)
    (cache : TtlCache String Model Nat)
    (holds : Holds (under ++ ·) (modelValidateJson tables validate) Except.ok now
      (service.read database) cache)
    (sessionId : String) :
    storeGet service tables under validate database now sessionId =
      .ok (cache.take now sessionId).1 := by
  have shown := holds now (le_refl now) sessionId
  rw [take_reads]
  unfold storeGet
  rw [documented.gets]
  simp only [bind, Except.bind] at shown ⊢
  cases raw : service.read database now (under ++ sessionId) with
  | none =>
      rw [raw, Option.map_none, eq_comm, Option.map_eq_none_iff] at shown
      rw [shown]
  | some text =>
      rw [raw, Option.map_some, eq_comm, Option.map_eq_some_iff] at shown
      obtain ⟨model, found, validated⟩ := shown
      simp only [found, ← validated]
      rfl

theorem valkey_step_shows
    (documented : service.Documented)
    (takes : TakesOwnTypes validation)
    (nested : rows.depth + 5 ≤ tables.maxDepth)
    (ttl : Nat)
    (lasting : 1000 ≤ ttl)
    (now : Nat)
    (database : service.Database)
    (stores : MemoryStores)
    (shows : ShowsStores service tables rows validation now database stores)
    (command : StoreCommand)
    (storable : Storable tables floatText rows command) :
    (valkeyStep service tables floatText rows validation ttl database (now, command)).2 =
        .ok (memoryStep (1000 * wholeSeconds ttl) stores (now, command)).2 ∧
      ShowsStores service tables rows validation now
        (valkeyStep service tables floatText rows validation ttl database (now, command)).1
        (memoryStep (1000 * wholeSeconds ttl) stores (now, command)).1 := by
  have positive : 0 < wholeSeconds ttl := by
    unfold wholeSeconds
    omega
  have injective := prefix_injective
  have aside := prefixes_apart
  cases command with
  | getSession sessionId =>
      constructor
      · have answered := store_get_held documented sessionPrefix _ now database _ shows.sessions
          sessionId
        simp only [valkeyStep, ValkeySessionStore.get, answered]
        rfl
      · exact ⟨holds_taken shows.sessions sessionId, shows.briefings⟩
  | setSession session =>
      have decodes := model_read_back floatText _ _ session 3
        (session_readable session storable) (by omega) (session_read_back takes session)
      obtain ⟨next, set, reads⟩ := documented.sets database now (sessionPrefix ++ session.sessionId)
        _ (modelDumpJson floatText (dumpSession session)) positive
      simp only [valkeyStep, ValkeySessionStore.set, set, written]
      apply And.intro rfl
      constructor
      · exact holds_assign (injective sessionPrefix) shows.sessions _ session.sessionId session _
          decodes reads
      · apply holds_beside shows.briefings _ fun key => (aside session.sessionId key).symm
        intro later elapsed other apart
        rw [reads later elapsed, if_neg apart]
  | deleteSession sessionId =>
      obtain ⟨next, deleted, reads⟩ := documented.deletes database now (sessionPrefix ++ sessionId)
      simp only [valkeyStep, ValkeySessionStore.delete, deleted, written]
      apply And.intro rfl
      constructor
      · exact holds_drop (injective sessionPrefix) shows.sessions sessionId reads
      · apply holds_beside shows.briefings _ fun key => (aside sessionId key).symm
        intro later elapsed other apart
        rw [reads later elapsed, if_neg apart]
  | getBriefing sessionId =>
      constructor
      · have answered := store_get_held documented briefingPrefix _ now database _ shows.briefings
          sessionId
        simp only [valkeyStep, ValkeyBriefingSessionStore.get, answered]
        rfl
      · exact ⟨shows.sessions, holds_taken shows.briefings sessionId⟩
  | setBriefing state =>
      have passed : ∀ response ∈ state.completedResults.values, ∀ row ∈ response.issues,
          rows.validate (rows.dump row) = some row := fun response member row within =>
        ((storable.results response member).rows row within).passed
      have decodes := model_read_back floatText _ _ state (rows.depth + 5)
        (pending_readable state storable) nested (pending_read_back takes state passed)
      obtain ⟨next, set, reads⟩ := documented.sets database now (briefingPrefix ++ state.sessionId)
        _ (modelDumpJson floatText (dumpPending rows state)) positive
      simp only [valkeyStep, ValkeyBriefingSessionStore.set, set, written]
      apply And.intro rfl
      constructor
      · apply holds_beside shows.sessions _ fun key => aside key state.sessionId
        intro later elapsed other apart
        rw [reads later elapsed, if_neg apart]
      · exact holds_assign (injective briefingPrefix) shows.briefings _ state.sessionId state _
          decodes reads
  | deleteBriefing sessionId =>
      obtain ⟨next, deleted, reads⟩ := documented.deletes database now (briefingPrefix ++ sessionId)
      simp only [valkeyStep, ValkeyBriefingSessionStore.delete, deleted, written]
      apply And.intro rfl
      constructor
      · apply holds_beside shows.sessions _ fun key => aside key sessionId
        intro later elapsed other apart
        rw [reads later elapsed, if_neg apart]
      · exact holds_drop (injective briefingPrefix) shows.briefings sessionId reads

def Ordered (start : Nat) (calls : List (Nat × StoreCommand)) : Prop :=
  (start :: calls.map Prod.fst).Pairwise (· ≤ ·)

theorem ordered_cons
    (start now : Nat)
    (command : StoreCommand)
    (rest : List (Nat × StoreCommand)) :
    Ordered start ((now, command) :: rest) ↔ start ≤ now ∧ Ordered start rest ∧ Ordered now rest := by
  simp only [Ordered, List.map_cons, List.pairwise_cons, List.forall_mem_cons]
  tauto

theorem shows_stores_later
    (now later : Nat)
    (order : now ≤ later)
    (database : service.Database)
    (stores : MemoryStores)
    (shows : ShowsStores service tables rows validation now database stores) :
    ShowsStores service tables rows validation later database stores where
  sessions := holds_later shows.sessions later order
  briefings := holds_later shows.briefings later order

/-- A database in which nothing is alive under the two prefixes. -/
def Vacant (service : ValkeyService) (start : Nat) (database : service.Database) : Prop :=
  ∀ now, start ≤ now → ∀ sessionId, service.read database now (sessionPrefix ++ sessionId) = none ∧
    service.read database now (briefingPrefix ++ sessionId) = none

/-- Whatever instances call both stores in whatever order, they are answered as
the callers of one process with stores in memory are, whose sessions live for
the whole seconds of the lifetime. Nothing else in the database matters. -/
theorem valkey_answers_as_memory
    (documented : service.Documented)
    (takes : TakesOwnTypes validation)
    (nested : rows.depth + 5 ≤ tables.maxDepth)
    (ttl : Nat)
    (lasting : 1000 ≤ ttl)
    (start : Nat)
    (database : service.Database)
    (vacant : Vacant service start database)
    (calls : List (Nat × StoreCommand))
    (ordered : Ordered start calls)
    (storable : ∀ call ∈ calls, Storable tables floatText rows call.2) :
    (run (valkeyStep service tables floatText rows validation ttl) database calls).2 =
      (run (memoryStep (1000 * wholeSeconds ttl)) {} calls).2.map .ok := by
  have simulated : ∀ (start : Nat) (database : service.Database) (stores : MemoryStores),
      ShowsStores service tables rows validation start database stores → Ordered start calls →
      (run (valkeyStep service tables floatText rows validation ttl) database calls).2 =
        (run (memoryStep (1000 * wholeSeconds ttl)) stores calls).2.map .ok := by
    clear vacant ordered
    induction calls with
    | nil => exact fun start database stores _ _ => rfl
    | cons call rest ih =>
        rcases call with ⟨now, command⟩
        intro start database stores shows ordered
        rw [ordered_cons] at ordered
        rw [List.forall_mem_cons] at storable
        have later := shows_stores_later start now ordered.1 database stores shows
        have stepped := valkey_step_shows documented takes nested ttl lasting now database stores
          later command storable.1
        rw [run_cons, run_cons, List.map_cons, stepped.1]
        exact congrArg (_ :: ·) (ih storable.2 now _ _ stepped.2 ordered.2.2)
  apply simulated start database {}
  · constructor
    · intro now elapsed sessionId
      rw [(vacant now elapsed sessionId).1]
      rfl
    · intro now elapsed sessionId
      rw [(vacant now elapsed sessionId).2]
      rfl
  · exact ordered

end Valkey

def memoryService : ValkeyService where
  Database := TtlCache String String Nat
  get := fun database now key => .ok (database.read? now key)
  setex := fun database now key seconds text =>
    if seconds = 0 then .error (.valkey "invalid expire time in 'setex' command")
    else .ok (database.assign (now + 1000 * seconds) key text)
  delete := fun database _ key => .ok (database.drop key)

theorem memory_service_documented : memoryService.Documented := by
  constructor
  · exact fun _ _ _ => rfl
  · intro database now key seconds text positive
    refine ⟨database.assign (now + 1000 * seconds) key text, ?_, ?_⟩
    · exact if_neg (Nat.ne_of_gt positive)
    · intro later _ other
      exact read_assign database later _ key other text
  · intro database now key
    refine ⟨database.drop key, rfl, ?_⟩
    intro later _ other
    exact read_drop database later key other

def dumpCell : JsonValue → Json
  | .str text => .str text
  | _ => .null

def validateCell : Json → Option JsonValue
  | .str text => some (.str text)
  | _ => none

def textRows : RowFormat where
  dump := dumpDict dumpCell
  validate := readDict validateCell
  depth := 1

def sampleResult : QueryResponse :=
  { sessionId := "s", total := 1, shown := 1, issues := [(∅ : IssueRow).set "key" (.str "NET-1")] }

def samplePending : BriefingPendingState where
  sessionId := "s"
  agendaText := "blockers"
  topics := [⟨"topic_1", "blockers", "blocked issues"⟩]
  completedResults := (∅ : OrderedDict String QueryResponse).set "topic_1" sampleResult

def sampleCalls : List (Nat × StoreCommand) :=
  [(0, .setSession { sessionId := "s" }), (10, .setBriefing samplePending),
    (20, .getSession "s"), (30, .deleteBriefing "t"), (1000, .getBriefing "s"),
    (1000, .getSession "s")]

theorem sample_calls_storable :
    ∀ call ∈ sampleCalls, Storable sampleTables (fun _ => []) textRows call.2 := by
  have zero : ShortInt sampleTables 0 := by
    change (Nat.toDigits 10 0).length ≤ 4300
    decide +kernel
  have one : ShortInt sampleTables 1 := by
    change (Nat.toDigits 10 1).length ≤ 4300
    decide +kernel
  have kept : KeptPending textRows sampleTables (compact fun _ => []) samplePending := by
    constructor
    · exact zero
    · intro response member
      rw [List.mem_singleton.mp member]
      constructor
      · exact one
      · exact one
      · intro row within
        rw [List.mem_singleton.mp within]
        constructor
        · rfl
        · refine dict_readable 0 dumpCell _ ?_
          intro cell inner
          rw [List.mem_singleton.mp inner]
          exact Readable.str 0 "NET-1"
  simp only [sampleCalls, List.forall_mem_cons, Storable]
  exact ⟨zero, kept, trivial, trivial, trivial, trivial, List.forall_mem_nil _⟩

theorem sample_calls_ordered : Ordered 0 sampleCalls := by
  unfold Ordered
  decide

theorem sample_valkey_run :
    (run (valkeyStep memoryService sampleTables (fun _ => []) textRows strictValidation 1900) ⟨∅⟩
        sampleCalls).2 =
      (run (memoryStep 1000) {} sampleCalls).2.map .ok :=
  valkey_answers_as_memory memory_service_documented strict_takes_own_types (by decide) 1900
    (by decide) 0 ⟨∅⟩ (fun _ _ _ => ⟨rfl, rfl⟩) sampleCalls sample_calls_ordered
    sample_calls_storable

def sessionCommand : StoreCommand → Option (Command String SessionState)
  | .getSession sessionId => some (.read sessionId)
  | .setSession session => some (.put session.sessionId session)
  | .deleteSession sessionId => some (.drop sessionId)
  | _ => none

def briefingCommand : StoreCommand → Option (Command String BriefingPendingState)
  | .getBriefing sessionId => some (.read sessionId)
  | .setBriefing state => some (.put state.sessionId state)
  | .deleteBriefing sessionId => some (.drop sessionId)
  | _ => none

def callsOf {Model : Type} (select : StoreCommand → Option (Command String Model))
    (calls : List (Nat × StoreCommand)) : List (Nat × Command String Model) :=
  calls.filterMap fun call => (select call.2).map fun command => (call.1, command)

/-- What a caller is due by the calls before, of which the latest comes first. -/
def dueAnswer (ttl : Nat) (past : List (Nat × StoreCommand)) (now : Nat) :
    StoreCommand → StoreAnswer
  | .getSession sessionId =>
      .session (due (· + ttl) now sessionId (callsOf sessionCommand past))
  | .getBriefing sessionId =>
      .briefing (due (· + ttl) now sessionId (callsOf briefingCommand past))
  | _ => .done

def dueAnswers (ttl : Nat) :
    List (Nat × StoreCommand) → List (Nat × StoreCommand) → List StoreAnswer
  | _, [] => []
  | past, (now, command) :: rest =>
      dueAnswer ttl past now command :: dueAnswers ttl ((now, command) :: past) rest

def storesAfter (ttl : Nat) (past : List (Nat × StoreCommand)) : MemoryStores where
  sessions := after (· + ttl) (callsOf sessionCommand past)
  briefings := after (· + ttl) (callsOf briefingCommand past)

theorem calls_of_ordered
    {Model : Type}
    (select : StoreCommand → Option (Command String Model))
    (past : List (Nat × StoreCommand))
    (now : Nat)
    (ordered : past.Pairwise fun later earlier => earlier.1 ≤ later.1)
    (elapsed : ∀ call ∈ past, call.1 ≤ now) :
    ((callsOf select past).Pairwise fun later earlier => earlier.1 ≤ later.1) ∧
      ∀ call ∈ callsOf select past, call.1 ≤ now := by
  have origin (call : Nat × StoreCommand) (other : Nat × Command String Model)
      (made : (select call.2).map (fun command => (call.1, command)) = some other) :
      other.1 = call.1 := by
    obtain ⟨command, _, rfl⟩ := Option.map_eq_some_iff.mp made
    rfl
  constructor
  · apply List.Pairwise.filterMap _ _ ordered
    intro later earlier order left made right found
    rw [origin earlier right found, origin later left made]
    exact order
  · intro call member
    obtain ⟨source, within, made⟩ := List.mem_filterMap.mp member
    rw [origin source call made]
    exact elapsed source within

theorem memory_step_due
    (ttl : Nat)
    (past : List (Nat × StoreCommand))
    (now : Nat)
    (ordered : past.Pairwise fun later earlier => earlier.1 ≤ later.1)
    (elapsed : ∀ call ∈ past, call.1 ≤ now)
    (command : StoreCommand) :
    memoryStep ttl (storesAfter ttl past) (now, command) =
      (storesAfter ttl ((now, command) :: past), dueAnswer ttl past now command) := by
  cases command with
  | getSession sessionId =>
      have calls := calls_of_ordered sessionCommand past now ordered elapsed
      have reads := read_after (· + ttl) _ calls.1 now calls.2 sessionId
      rw [dueAnswer, ← reads, ← take_reads]
      rfl
  | getBriefing sessionId =>
      have calls := calls_of_ordered briefingCommand past now ordered elapsed
      have reads := read_after (· + ttl) _ calls.1 now calls.2 sessionId
      rw [dueAnswer, ← reads, ← take_reads]
      rfl
  | setSession session => rfl
  | deleteSession sessionId => rfl
  | setBriefing state => rfl
  | deleteBriefing sessionId => rfl

/-- In every run on the stores in memory each caller gets what was set last under
the id, unless it was deleted since or its lifetime is over, and nothing else. -/
theorem memory_answers_due
    (ttl start : Nat)
    (calls : List (Nat × StoreCommand))
    (ordered : Ordered start calls) :
    (run (memoryStep ttl) {} calls).2 = dueAnswers ttl [] calls := by
  have reached : ∀ past : List (Nat × StoreCommand),
      (past.Pairwise fun later earlier => earlier.1 ≤ later.1) →
      (∀ call ∈ past, ∀ later ∈ calls, call.1 ≤ later.1) →
      (run (memoryStep ttl) (storesAfter ttl past) calls).2 = dueAnswers ttl past calls := by
    induction calls generalizing start with
    | nil => exact fun past _ _ => rfl
    | cons call rest ih =>
        rcases call with ⟨now, command⟩
        intro past sorted before
        rw [ordered_cons] at ordered
        have elapsed : ∀ call ∈ past, call.1 ≤ now := fun call member =>
          before call member _ List.mem_cons_self
        have stepped := memory_step_due ttl past now sorted elapsed command
        rw [run_cons, stepped]
        apply congrArg (_ :: ·)
        apply ih now ordered.2.2
        · exact List.pairwise_cons.mpr ⟨elapsed, sorted⟩
        · have follows := (List.pairwise_cons.mp ordered.2.2).1
          rw [List.forall_mem_cons]
          constructor
          · intro later member
            exact follows later.1 (List.mem_map_of_mem member)
          · intro earlier member later within
            exact before earlier member later (List.mem_cons_of_mem _ within)
  exact reached [] List.Pairwise.nil (List.forall_mem_nil _)

theorem sample_memory_run :
    (run (memoryStep 1000) {} sampleCalls).2 = dueAnswers 1000 [] sampleCalls :=
  memory_answers_due 1000 0 sampleCalls sample_calls_ordered

end AtlasMindNetra.ValkeyStores
