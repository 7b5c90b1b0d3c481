import AtlasMindNetra.FollowRules
import AtlasMindNetra.OrchestratorRules
import AtlasMindNetra.SessionIsolation

/-!
# A call that is not interrupted

Run alone, the steps of a call do what `Orchestrator.handleQuery` does: the
object behind the reference is the session that the call has in hand there, and
the table holds this object exactly when it is shared.
-/

namespace AtlasMindNetra.QueryThreads

open AtlasMindNetra.PythonValues AtlasMindNetra.ResponseModels
open AtlasMindNetra.SessionStore AtlasMindNetra.ConventionsStore AtlasMindNetra.IntentClassifier
open AtlasMindNetra.EffectRules AtlasMindNetra.FollowRules AtlasMindNetra.ThreadRules
open AtlasMindNetra.ThreadRules.Resumption
open AtlasMindNetra.Orchestrator (OrchestratorConfig QueryCall QueryEnvironment ClarificationSide
  BackendSide AnswerPath ActiveTerms CallState World queryStep Effect OrchestratorEvent)

set_option autoImplicit false

/-- The entry is of the store's kind, and its object has been created. -/
def StoredSession.fits (store : SessionBackend) (created : Nat) : StoredSession → Prop
  | .object ref => store = .inMemory ∧ ref.number < created
  | .copy _ => store = .valkey

def Housed (store : SessionBackend) (memory : Memory) : Prop :=
  ∀ sessionId stored, memory.entries.get? sessionId = some stored →
    stored.fits store (memory.created sessionId)

/-- The memory between calls shows the world. -/
structure Shows (store : SessionBackend) (fieldsFile : Except PyError (List JiraField))
    (memory : Memory) (world : World) : Prop where
  sound : SoundMemory fieldsFile memory
  housed : Housed store memory
  conventions : memory.conventions = world.conventions
  sessions : ∀ sessionId, memory.stored sessionId = world.sessions.get? sessionId

/-- The memory within a call on the object behind `ref`. -/
structure Mirrors (store : SessionBackend) (fieldsFile : Except PyError (List JiraField))
    (sessionId : String) (ref : SessionRef) (memory : Memory) (st : CallState) : Prop where
  sound : SoundMemory fieldsFile memory
  housed : Housed store memory
  conventions : memory.conventions = st.conventions
  object : memory.objects ref = st.session
  owner : ref.owner = sessionId
  created : ref.number < memory.created sessionId
  shared : store = .inMemory →
    (st.shared = true ↔ memory.entries.get? sessionId = some (.object ref))
  stored : ∀ key, (store = .inMemory → st.shared = true → key ≠ sessionId) →
    memory.stored key = st.sessions.get? key

section Alone

variable (store : SessionBackend) (fieldsFile : Except PyError (List JiraField))
variable (sessionId : String) (ref : SessionRef)

/-- From every mirrored state the program and the effect end alike, in mirrored states. -/
def Performs {Value : Type} (program : Program Value) (effect : Effect Value) : Prop :=
  ∀ memory st, Mirrors store fieldsFile sessionId ref memory st →
    Matches (Mirrors store fieldsFile sessionId ref) program.runAlone effect memory st

variable {store fieldsFile sessionId ref}

theorem performs_bind
    {Value Next : Type}
    (program : Program Value)
    (effect : Effect Value)
    (next : Value → Program Next)
    (next' : Value → Effect Next)
    (first : Performs store fieldsFile sessionId ref program effect)
    (later : ∀ value, Performs store fieldsFile sessionId ref (next value) (next' value)) :
    Performs store fieldsFile sessionId ref (program >>= next) (effect >>= next') := by
  intro memory st mirrors
  rw [run_alone_bind]
  exact matches_bind (first memory st mirrors) fun value middle middle' between =>
    later value middle middle' between

theorem mirrors_log
    (memory : Memory)
    (st : CallState)
    (event : OrchestratorEvent)
    (mirrors : Mirrors store fieldsFile sessionId ref memory st) :
    Mirrors store fieldsFile sessionId ref memory (st.log event) :=
  ⟨mirrors.sound, mirrors.housed, mirrors.conventions, mirrors.object, mirrors.owner,
    mirrors.created, mirrors.shared, mirrors.stored⟩

theorem performs_emit
    {Value : Type}
    (event : OrchestratorEvent)
    (program : Program Value)
    (effect : Effect Value)
    (rest : Performs store fieldsFile sessionId ref program effect) :
    Performs store fieldsFile sessionId ref program
      (Orchestrator.emit event >>= fun _ => effect) := by
  intro memory st mirrors
  exact rest memory (st.log event) (mirrors_log memory st event mirrors)

theorem performs_outside
    {Value : Type}
    (outcome : Except PyError Value) :
    Performs store fieldsFile sessionId ref (outside outcome) (fromOutcome outcome) := by
  intro memory st mirrors
  have alone := run_alone_atomic (fun memory => (memory, outcome)) memory
  unfold Matches
  rw [outside, alone]
  exact matches_outcome outcome memory st mirrors

theorem performs_read
    {Value : Type}
    (next : SessionState → Program Value)
    (next' : CallState → Effect Value)
    (later : ∀ st, Performs store fieldsFile sessionId ref (next st.session) (next' st)) :
    Performs store fieldsFile sessionId ref (readSession ref >>= next) (get >>= next') := by
  intro memory st mirrors
  have rest := later st memory st mirrors
  rw [← mirrors.object] at rest
  exact rest

/-- A stored object of another session, or a session that is not shared, is
another object. -/
theorem entry_apart
    (memory : Memory)
    (st : CallState)
    (mirrors : Mirrors store fieldsFile sessionId ref memory st)
    (key : String)
    (apart : store = .inMemory → st.shared = true → key ≠ sessionId) :
    memory.entries.get? key ≠ some (.object ref) := by
  intro found
  have owned : ref.owner = key := mirrors.sound.entries key _ found
  have same : key = sessionId := owned.symm.trans mirrors.owner
  have inMemory : store = .inMemory := (mirrors.housed key _ found).1
  rw [same] at found
  exact apart inMemory ((mirrors.shared inMemory).mpr found) same

theorem stored_write
    (memory : Memory)
    (session : SessionState)
    (key : String)
    (apart : memory.entries.get? key ≠ some (.object ref)) :
    (memory.write ref session).stored key = memory.stored key := by
  have entries : (memory.write ref session).entries = memory.entries := rfl
  unfold Memory.stored
  rw [entries]
  cases found : memory.entries.get? key with
  | none => rfl
  | some stored =>
      cases stored with
      | copy session => rfl
      | object other =>
          have different : other ≠ ref := fun same => apart (same ▸ found)
          simp only [objects_write, if_neg different]

theorem mirrors_write
    (memory : Memory)
    (st : CallState)
    (session : SessionState)
    (mirrors : Mirrors store fieldsFile sessionId ref memory st)
    (named : session.sessionId = st.session.sessionId) :
    Mirrors store fieldsFile sessionId ref (memory.write ref session)
      (st.withSession session) := by
  constructor
  · apply sound_write memory ref session mirrors.sound
    rw [named, ← mirrors.object, mirrors.sound.objects]
  · exact mirrors.housed
  · exact mirrors.conventions
  · rw [objects_write, if_pos rfl]
    rfl
  · exact mirrors.owner
  · exact mirrors.created
  · exact mirrors.shared
  · intro key apart
    rw [stored_write memory session key (entry_apart memory st mirrors key apart)]
    exact mirrors.stored key apart

theorem performs_edit_session
    (change : SessionState → SessionState)
    (named : ∀ session, (change session).sessionId = session.sessionId) :
    Performs store fieldsFile sessionId ref (editSession ref change)
      (Orchestrator.editSession change) := by
  intro memory st mirrors
  have written := mirrors_write memory st (change st.session) mirrors (named st.session)
  rw [← mirrors.object] at written
  refine ⟨rfl, ?_⟩
  change Mirrors store fieldsFile sessionId ref (memory.write ref (change (memory.objects ref)))
    (st.withSession (change st.session))
  rw [← mirrors.object]
  exact written

theorem run_transition
    (memory : Memory)
    (newState : ClarificationState) :
    (transition ref newState).runAlone memory =
      match (memory.objects ref).transition newState with
      | .ok session => .ok () (memory.write ref session)
      | .error error => .error error memory := by
  rw [transition, run_alone_atomic]
  cases (memory.objects ref).transition newState <;> rfl

theorem performs_transition
    (newState : ClarificationState) :
    Performs store fieldsFile sessionId ref (transition ref newState)
      (Orchestrator.transition newState) := by
  intro memory st mirrors
  have logged := mirrors_log memory st (.transition st.session.state newState) mirrors
  have effect : Orchestrator.transition newState st =
      (fromOutcome (st.session.transition newState) >>= fun session =>
        Orchestrator.editSession fun _ => session)
          (st.log (.transition st.session.state newState)) := rfl
  unfold Matches
  rw [run_transition, effect, mirrors.object]
  cases moved : st.session.transition newState with
  | error error => exact ⟨rfl, logged⟩
  | ok session =>
      have named := transition_session_id st.session session newState moved
      exact ⟨rfl, mirrors_write memory _ session logged named⟩

theorem mirrors_save
    (memory : Memory)
    (st : CallState)
    (mirrors : Mirrors store fieldsFile sessionId ref memory st) :
    Mirrors store fieldsFile sessionId ref
      { memory with
        entries := memory.entries.set (memory.objects ref).sessionId (kept store memory ref) }
      { st with
        sessions := st.sessions.set st.session.sessionId st.session
        shared := true } := by
  have named : (memory.objects ref).sessionId = sessionId :=
    (mirrors.sound.objects ref).trans mirrors.owner
  rw [← mirrors.object, named]
  constructor
  · refine ⟨?_, mirrors.sound.objects, mirrors.sound.fields⟩
    intro key stored found
    rw [OrderedDict.get?_set] at found
    split_ifs at found with same
    · cases found
      rw [same]
      cases store with
      | inMemory => exact mirrors.owner
      | valkey => exact named
    · exact mirrors.sound.entries key stored found
  · intro key stored found
    rw [OrderedDict.get?_set] at found
    split_ifs at found with same
    · cases found
      rw [same]
      cases store with
      | inMemory => exact ⟨rfl, mirrors.created⟩
      | valkey => rfl
    · exact mirrors.housed key stored found
  · exact mirrors.conventions
  · rfl
  · exact mirrors.owner
  · exact mirrors.created
  · intro inMemory
    rw [OrderedDict.get?_set, if_pos rfl, inMemory]
    exact ⟨fun _ => rfl, fun _ => rfl⟩
  · intro key apart
    unfold Memory.stored
    rw [OrderedDict.get?_set, OrderedDict.get?_set]
    by_cases same : key = sessionId
    · cases store with
      | inMemory => exact absurd same (apart rfl rfl)
      | valkey => rw [if_pos same, if_pos same]; rfl
    · rw [if_neg same, if_neg same]
      exact mirrors.stored key fun _ _ => same

theorem performs_save_session :
    Performs store fieldsFile sessionId ref (saveSession store ref) Orchestrator.saveSession := by
  intro memory st mirrors
  exact ⟨rfl, mirrors_save memory st mirrors⟩

theorem mirrors_conventions
    (memory : Memory)
    (st : CallState)
    (conventions : JsonFileConventionsStore)
    (mirrors : Mirrors store fieldsFile sessionId ref memory st) :
    Mirrors store fieldsFile sessionId ref { memory with conventions := conventions }
      { st with conventions := conventions } :=
  ⟨⟨mirrors.sound.entries, mirrors.sound.objects, mirrors.sound.fields⟩, mirrors.housed, rfl,
    mirrors.object, mirrors.owner, mirrors.created, mirrors.shared, mirrors.stored⟩

theorem performs_conventions
    (change : JsonFileConventionsStore → JsonFileConventionsStore) :
    Performs store fieldsFile sessionId ref
      (update fun memory => { memory with conventions := change memory.conventions })
      (modify fun st => { st with conventions := change st.conventions }) := by
  intro memory st mirrors
  have changed := mirrors_conventions memory st (change st.conventions) mirrors
  refine ⟨rfl, ?_⟩
  rw [← mirrors.conventions] at changed
  change Mirrors store fieldsFile sessionId ref
    { memory with conventions := change memory.conventions }
    { st with conventions := change st.conventions }
  rw [← mirrors.conventions]
  exact changed

theorem run_read_or
    {Value : Type}
    (memory : Memory)
    (fault : Option PyError)
    (read : Memory → Value) :
    (readOr fault read).runAlone memory =
      match fault with
      | some error => .error error memory
      | none => .ok (read memory) memory := by
  cases fault <;> rfl

theorem run_read_or_then
    {Value Next : Type}
    (memory : Memory)
    (fault : Option PyError)
    (read : Memory → Value)
    (next : Value → Program Next) :
    (readOr fault read >>= next).runAlone memory =
      match fault with
      | some error => .error error memory
      | none => (next (read memory)).runAlone memory := by
  cases fault <;> rfl

theorem mirrors_loaded
    (memory : Memory)
    (st : CallState)
    (mirrors : Mirrors store fieldsFile sessionId ref memory st) :
    Mirrors store fieldsFile sessionId ref (loadedFields fieldsFile memory).1 st := by
  have sound := (loaded_fields_sound memory mirrors.sound).1
  revert sound
  unfold loadedFields
  cases memory.fields with
  | some fields => exact fun _ => mirrors
  | none =>
      cases fieldsFile with
      | error error => exact fun _ => mirrors
      | ok fields =>
          intro sound
          exact ⟨sound, mirrors.housed, mirrors.conventions, mirrors.object, mirrors.owner,
            mirrors.created, mirrors.shared, mirrors.stored⟩

theorem run_load_fields
    {Value : Type}
    (memory : Memory)
    (next : List JiraField → Program Value)
    (sound : SoundMemory fieldsFile memory) :
    (loadFields fieldsFile >>= next).runAlone memory =
      (fromOutcome fieldsFile >>= fun fields => (next fields).runAlone)
        (loadedFields fieldsFile memory).1 := by
  have result := (loaded_fields_sound memory sound).2.1
  rw [run_alone_bind]
  change EStateM.bind (loadFields fieldsFile).runAlone _ memory = EStateM.bind _ _ _
  unfold EStateM.bind
  rw [loadFields, run_alone_atomic, result]

section Clarification

variable (orch : OrchestratorConfig) (env : ClarificationSide)

theorem performs_get_convention
    (term : String) :
    Performs store fieldsFile sessionId ref (getConvention orch env term)
      (Orchestrator.getConvention orch env term) := by
  intro memory st mirrors
  have effect : Orchestrator.getConvention orch env term st =
      match env.conventionsGet term with
      | some error => .error error st
      | none => .ok (st.conventions.get orch.tables instanceDefaultProject term) st := by
    unfold Orchestrator.getConvention
    cases env.conventionsGet term <;> rfl
  unfold Matches
  rw [getConvention, run_read_or, effect, mirrors.conventions]
  cases env.conventionsGet term with
  | some error => exact ⟨rfl, mirrors⟩
  | none => exact ⟨rfl, mirrors⟩

theorem performs_set_convention
    (fault : Option PyError)
    (convention : Convention) :
    Performs store fieldsFile sessionId ref (setConvention orch fault convention)
      (Orchestrator.setConvention orch fault convention) := by
  apply performs_bind _ _ _ _ (performs_conventions fun conventions =>
    conventions.remember orch.tables convention)
  intro _
  apply performs_bind _ _ _ _ (performs_outside _)
  intro _
  exact performs_conventions JsonFileConventionsStore.persist

theorem performs_learn_items
    (path : AnswerPath)
    (index : Nat)
    (items : List TermResolutionOutput) :
    Performs store fieldsFile sessionId ref (learnItems orch env ref path index items)
      (Orchestrator.learnItems orch env path index items) := by
  induction items generalizing index with
  | nil =>
      intro memory st mirrors
      exact ⟨rfl, mirrors⟩
  | cons item rest ih =>
      apply performs_bind _ _ _ _ (performs_edit_session (Orchestrator.recordResolution orch item)
        fun _ => rfl)
      intro _
      apply performs_bind _ _ _ _ (performs_set_convention orch _ _)
      intro _
      exact ih (index + 1)

theorem performs_resolve_and_learn
    (path : AnswerPath)
    (query : String)
    (terms : List String)
    (answer : String) :
    Performs store fieldsFile sessionId ref
      (resolveAndLearn orch env ref path query terms answer)
      (Orchestrator.resolveAndLearn orch env path query terms answer) := by
  apply performs_emit
  apply performs_bind _ _ _ _ (performs_outside _)
  intro resolved
  exact performs_learn_items orch env path 0 resolved.resolutions

theorem performs_split_resolved_from
    (active : ActiveTerms)
    (unresolved terms : List String) :
    Performs store fieldsFile sessionId ref
      (splitResolvedFrom orch env ref active unresolved terms)
      (Orchestrator.splitResolvedFrom orch env active unresolved terms) := by
  induction terms generalizing active unresolved with
  | nil =>
      intro memory st mirrors
      exact ⟨rfl, mirrors⟩
  | cons term rest ih =>
      apply performs_read
      intro st
      cases st.session.resolutions.get? term with
      | some resolution => exact ih (active.set term resolution) unresolved
      | none =>
          apply performs_bind _ _ _ _ (performs_get_convention orch env term)
          intro found
          cases found with
          | some convention => exact ih _ unresolved
          | none => exact ih active (unresolved ++ [term])

end Clarification

section Dispatch

variable (orch : OrchestratorConfig) (backend : BackendSide)

theorem performs_pure
    {Value : Type}
    (value : Value) :
    Performs store fieldsFile sessionId ref (pure value) (pure value) := by
  intro memory st mirrors
  exact ⟨rfl, mirrors⟩

theorem performs_with_report
    (query : String)
    (response : QueryResponse) :
    Performs store fieldsFile sessionId ref (withReport orch backend query response)
      (Orchestrator.withReport orch backend query response) := by
  unfold withReport Orchestrator.withReport
  split_ifs
  · dsimp only
    cases backend.buildQueryReport query response >>=
        backend.deliver (Orchestrator.reportId backend response.sessionId) with
    | ok location => exact performs_outside (.ok _)
    | error error =>
        dsimp only
        split_ifs
        · exact performs_outside (.ok _)
        · exact performs_outside (.error _)
  · exact performs_pure response

theorem performs_show_result
    (showInUi : Bool)
    (jql : Option String)
    (errors : List String) :
    Performs store fieldsFile sessionId ref (showResult backend showInUi jql errors)
      (Orchestrator.showResult backend showInUi jql errors) := by
  unfold showResult Orchestrator.showResult
  split_ifs
  · cases truthyText jql with
    | some text =>
        apply performs_emit
        apply performs_bind _ _ _ _ (performs_outside _)
        intro ack
        split_ifs
        · exact performs_pure _
        · exact performs_pure _
    | none => exact performs_pure _
  · exact performs_pure _

theorem performs_respond
    (call : QueryCall)
    (query : String)
    (active : ActiveTerms)
    (errors : List String)
    (own : String)
    (answer : Except PyError LiteQueryResult) :
    Performs store fieldsFile sessionId ref
      (respond orch backend call query active errors own answer)
      (Orchestrator.respond orch backend call query active errors own answer) := by
  cases answer with
  | ok result =>
      simp only [respond, Orchestrator.respond]
      split_ifs
      · exact performs_with_report orch backend query _
      · apply performs_bind _ _ _ _
          (performs_show_result backend call.showInUi result.jql errors)
        intro shown
        exact performs_with_report orch backend query _
  | error error =>
      cases error with
      | liteBackend message => exact performs_with_report orch backend query _
      | _ =>
          intro memory st mirrors
          exact ⟨rfl, mirrors⟩

theorem performs_dispatch
    (call : QueryCall)
    (query : String)
    (active : ActiveTerms)
    (errors : List String) :
    Performs store fieldsFile sessionId ref
      (dispatch orch store backend ref call query active errors)
      (Orchestrator.dispatch orch backend call query active errors) := by
  apply performs_bind _ _ _ _ (performs_transition _)
  intro _
  apply performs_bind _ _ _ _ (performs_edit_session Orchestrator.clearPending fun _ => rfl)
  intro _
  apply performs_bind _ _ _ _ performs_save_session
  intro _
  apply performs_emit
  exact performs_read _ _ fun st => performs_respond orch backend call query active errors
    st.session.sessionId _

end Dispatch

section HandleQuery

variable (orch : OrchestratorConfig) (call : QueryCall) (env : QueryEnvironment)
variable (loads : env.clarification.loadFields = fieldsFile)

include loads in
theorem performs_attempt_question
    (query : String)
    (unresolved : List String) :
    Performs store fieldsFile sessionId ref
      (attemptQuestion orch fieldsFile env query unresolved)
      (Orchestrator.attemptQuestion orch env query unresolved) := by
  intro memory st mirrors
  have loaded := mirrors_loaded memory st mirrors
  unfold attemptQuestion Orchestrator.attemptQuestion
  rw [run_alone_catching]
  apply matches_catching
  unfold Matches
  rw [run_read_or_then, loads]
  cases env.clarification.conventionsList with
  | some error => exact ⟨rfl, mirrors⟩
  | none =>
      simp only
      rw [run_load_fields memory _ mirrors.sound, mirrors.conventions]
      cases fieldsFile with
      | error error => exact ⟨rfl, loaded⟩
      | ok fields =>
          have asked := mirrors_log _ st (.formulateRequested
            { query := query
              terms := unresolved
              vocab := orch.vocab.entriesFor orch.tables unresolved
              conventions := st.conventions.listAll
              fields := fields.take orch.settings.maxFieldsInPrompt }) loaded
          exact performs_outside (env.clarification.formulateQuestion _) _ _ asked

theorem performs_elicit_answer
    (question : String) :
    Performs store fieldsFile sessionId ref (elicitAnswer env question)
      (Orchestrator.elicitAnswer env question) := by
  unfold elicitAnswer Orchestrator.elicitAnswer
  cases env.clarification.elicit with
  | none => exact performs_pure none
  | some elicit =>
      apply performs_emit
      apply performs_bind _ _ _ _ (performs_outside _)
      intro reply
      exact performs_pure _

theorem performs_use_elicited
    (query : String)
    (active : ActiveTerms)
    (unresolved : List String)
    (answer : String) :
    Performs store fieldsFile sessionId ref
      (useElicited orch store call env ref query active unresolved answer)
      (Orchestrator.useElicited orch env call query active unresolved answer) := by
  apply performs_bind _ _ _ _ (performs_resolve_and_learn orch env.clarification _ _ _ _)
  intro _
  apply performs_read
  intro st
  apply performs_bind _ _ _ _ (performs_transition _)
  intro _
  exact performs_dispatch orch env.backend call query _ _

theorem performs_return_question
    (query : String)
    (unresolved : List String)
    (question : String) :
    Performs store fieldsFile sessionId ref
      (returnQuestion store call ref query unresolved question)
      (Orchestrator.returnQuestion call query unresolved question) := by
  apply performs_bind _ _ _ _ (performs_transition _)
  intro _
  apply performs_bind
  · apply performs_edit_session
    exact fun _ => rfl
  · intro _
    apply performs_bind _ _ _ _ performs_save_session
    intro _
    exact performs_pure _

include loads in
theorem performs_clarify
    (query : String)
    (active : ActiveTerms)
    (unresolved : List String) :
    Performs store fieldsFile sessionId ref
      (clarify orch store fieldsFile call env ref query active unresolved)
      (Orchestrator.clarify orch env call query active unresolved) := by
  apply performs_bind _ _ _ _ (performs_attempt_question orch env loads query unresolved)
  intro attempt
  cases attempt with
  | error message => exact performs_dispatch orch env.backend call query _ _
  | ok needed =>
      apply performs_bind
      · apply performs_edit_session
        exact fun _ => rfl
      · intro _
        apply performs_bind _ _ _ _ (performs_elicit_answer env needed.question)
        intro reply
        cases reply with
        | some answer => exact performs_use_elicited orch call env query active unresolved answer
        | none => exact performs_return_question call query unresolved needed.question

include loads in
theorem performs_detect_and_dispatch
    (query : String) :
    Performs store fieldsFile sessionId ref
      (detectAndDispatch orch store fieldsFile call env ref query)
      (Orchestrator.detectAndDispatch orch env call query) := by
  apply performs_bind _ _ _ _ (performs_split_resolved_from orch env.clarification _ _ _)
  intro split
  apply performs_read
  intro st
  split_ifs
  · exact performs_dispatch orch env.backend call query _ _
  · exact performs_dispatch orch env.backend call query _ _
  · exact performs_clarify orch call env loads query _ _

theorem mirrors_create
    (memory : Memory)
    (st : CallState)
    (sound : SoundMemory fieldsFile memory)
    (housed : Housed store memory)
    (conventions : memory.conventions = st.conventions)
    (stored : ∀ key, memory.stored key = st.sessions.get? key)
    (named : st.session.sessionId = sessionId)
    (unshared : store = .inMemory → st.shared = false) :
    let created := memory.create sessionId st.session
    Mirrors store fieldsFile sessionId created.2 created.1 st ∧
      ∀ key, created.1.stored key = st.sessions.get? key := by
  have unused : ∀ key, memory.entries.get? key ≠
      some (.object ⟨sessionId, memory.created sessionId⟩) := by
    intro key found
    have owned : sessionId = key := sound.entries key _ found
    have older := (housed key _ found).2
    rw [← owned] at older
    exact Nat.lt_irrefl _ older
  have same : ∀ key, (memory.create sessionId st.session).1.stored key = memory.stored key :=
    fun key => stored_write memory st.session key (unused key)
  constructor
  · constructor
    · exact sound_create memory st.session sound named
    · intro key other found
      have before := housed key other found
      cases other with
      | copy session => exact before
      | object other =>
          refine ⟨before.1, ?_⟩
          rw [created_create]
          split_ifs with own
          · rw [own] at before
            exact Nat.lt_succ_of_lt before.2
          · exact before.2
    · exact conventions
    · rw [objects_create]
      exact if_pos rfl
    · rfl
    · rw [created_create, if_pos rfl]
      exact Nat.lt_succ_self _
    · intro inMemory
      rw [unshared inMemory]
      exact ⟨nofun, fun found => absurd found (unused sessionId)⟩
    · intro key apart
      rw [same]
      exact stored key
  · intro key
    rw [same]
    exact stored key

theorem run_modified
    (change : CallState → CallState)
    (st : CallState) : (modify change : Orchestrator.Effect Unit) st = .ok ⟨⟩ (change st) := rfl

theorem opened_absent
    (sessionId : String)
    (world : World)
    (absent : world.sessions.get? sessionId = none) :
    Orchestrator.openSession sessionId (CallState.start world sessionId) =
      .ok ⟨⟩ (CallState.start world sessionId) := by
  have same : (CallState.start world sessionId).sessions.get? sessionId = none := absent
  rw [Orchestrator.openSession, run_modified]
  simp only [same]
  rfl

theorem opened_present
    (sessionId : String)
    (world : World)
    (session : SessionState)
    (present : world.sessions.get? sessionId = some session) :
    Orchestrator.openSession sessionId (CallState.start world sessionId) =
      .ok ⟨⟩ { CallState.start world sessionId with session := session, shared := true } := by
  have same : (CallState.start world sessionId).sessions.get? sessionId = some session := present
  rw [Orchestrator.openSession, run_modified]
  simp only [same]

theorem open_session_mirrors
    (memory : Memory)
    (world : World)
    (shows : Shows store fieldsFile memory world) :
    ∃ ref after st, (openSession call.sessionId).runAlone memory = .ok ref after ∧
      Orchestrator.openSession call.sessionId (CallState.start world call.sessionId) = .ok ⟨⟩ st ∧
      Mirrors store fieldsFile call.sessionId ref after st ∧
      ∀ key, after.stored key = st.sessions.get? key := by
  have known := shows.sessions call.sessionId
  unfold Memory.stored at known
  rw [openSession]
  simp only [run_alone_atomic]
  cases found : memory.entries.get? call.sessionId with
  | none =>
      simp only [found] at known
      have effect := opened_absent call.sessionId world known.symm
      have created := mirrors_create memory (CallState.start world call.sessionId) shows.sound
        shows.housed shows.conventions shows.sessions rfl fun _ => rfl
      exact ⟨_, _, _, rfl, effect, created⟩
  | some stored =>
      cases stored with
      | copy session =>
          simp only [found] at known
          have effect := opened_present call.sessionId world session known.symm
          have valkey : store = .valkey := shows.housed _ _ found
          have created := mirrors_create memory
            { CallState.start world call.sessionId with session := session, shared := true }
            shows.sound shows.housed shows.conventions shows.sessions
            (shows.sound.entries _ _ found) (by
              intro inMemory
              cases valkey.symm.trans inMemory)
          exact ⟨_, _, _, rfl, effect, created⟩
      | object ref =>
          simp only [found] at known
          have effect := opened_present call.sessionId world _ known.symm
          refine ⟨ref, memory, _, rfl, effect, ?_, shows.sessions⟩
          constructor
          · exact shows.sound
          · exact shows.housed
          · exact shows.conventions
          · rfl
          · exact shows.sound.entries _ _ found
          · exact (shows.housed _ _ found).2
          · exact fun _ => ⟨fun _ => found, fun _ => rfl⟩
          · exact fun key _ => shows.sessions key

theorem mirrors_close
    (memory : Memory)
    (st : CallState)
    (mirrors : Mirrors store fieldsFile sessionId ref memory st) :
    Shows store fieldsFile memory (st.close store) := by
  have named : st.session.sessionId = sessionId := by
    rw [← mirrors.object]
    exact (mirrors.sound.objects ref).trans mirrors.owner
  cases store with
  | valkey =>
      exact ⟨mirrors.sound, mirrors.housed, mirrors.conventions,
        fun key => mirrors.stored key nofun⟩
  | inMemory =>
      refine ⟨mirrors.sound, mirrors.housed, mirrors.conventions, fun key => ?_⟩
      change memory.stored key = (if st.shared then st.sessions.set st.session.sessionId st.session
        else st.sessions).get? key
      by_cases shared : st.shared = true
      · rw [if_pos shared, named, OrderedDict.get?_set]
        split_ifs with same
        · have entry := (mirrors.shared rfl).mp shared
          unfold Memory.stored
          rw [same, entry, ← mirrors.object]
        · exact mirrors.stored key fun _ _ => same
      · rw [if_neg shared]
        exact mirrors.stored key fun _ held => absurd held shared

include loads in
/-- The call from the object in hand on. -/
theorem performs_opened
    (memory : Memory)
    (st : CallState)
    (mirrors : Mirrors store fieldsFile call.sessionId ref memory st)
    (stored : ∀ key, memory.stored key = st.sessions.get? key) :
    Matches (fun memory st => ∃ ref, Mirrors store fieldsFile call.sessionId ref memory st)
      (if st.session.state = .awaitingClarification then
        match truthyText call.clarificationAnswer with
        | some answer => resumeWithAnswer orch store fieldsFile call env ref st.session answer
        | none =>
            match Orchestrator.repeatsQuestion call st.session with
            | some question => do
                saveSession store ref
                pure (Orchestrator.questionResponse call.sessionId question)
            | none => do
                let fresh ← newSession call.sessionId
                detectAndDispatch orch store fieldsFile call env fresh call.query
      else detectAndDispatch orch store fieldsFile call env ref call.query).runAlone
      (if st.session.state = .awaitingClarification then
        match truthyText call.clarificationAnswer with
        | some answer => Orchestrator.resumeWithAnswer orch env call st.session answer
        | none =>
            match Orchestrator.repeatsQuestion call st.session with
            | some question => do
                Orchestrator.saveSession
                pure (Orchestrator.questionResponse call.sessionId question)
            | none => do
                Orchestrator.replaceSession call.sessionId
                Orchestrator.detectAndDispatch orch env call call.query
      else Orchestrator.detectAndDispatch orch env call call.query) memory st := by
  have performed : ∀ (program : Program QueryResponse) (effect : Effect QueryResponse),
      Performs store fieldsFile call.sessionId ref program effect →
        Matches (fun memory st => ∃ ref, Mirrors store fieldsFile call.sessionId ref memory st)
          program.runAlone effect memory st :=
    fun program effect performs => matches_mono (performs memory st mirrors)
      fun _ _ between => ⟨ref, between⟩
  split_ifs
  · cases truthyText call.clarificationAnswer with
    | some answer =>
        apply performed
        apply performs_bind _ _ _ _ (performs_resolve_and_learn orch env.clarification _ _ _ _)
        intro _
        apply performs_bind _ _ _ _ (performs_transition _)
        intro _
        exact performs_detect_and_dispatch orch call env loads _
    | none =>
        cases Orchestrator.repeatsQuestion call st.session with
        | some question =>
            apply performed
            apply performs_bind _ _ _ _ performs_save_session
            intro _
            exact performs_pure _
        | none =>
            -- The stored object is left alone, and the call goes on with a new one.
            have created := mirrors_create memory
              { st with session := { sessionId := call.sessionId }, shared := false }
              mirrors.sound mirrors.housed mirrors.conventions stored rfl fun _ => rfl
            apply matches_mono (performs_detect_and_dispatch orch call env loads call.query _ _
              created.1)
            exact fun _ _ between => ⟨_, between⟩
  · exact performed _ _ (performs_detect_and_dispatch orch call env loads call.query)

theorem query_step_of_matches
    (memory : Memory)
    (world : World)
    (program : Program QueryResponse)
    (whole : Matches (fun memory st => ∃ ref,
      Mirrors store fieldsFile call.sessionId ref memory st) program.runAlone
      (Orchestrator.handleQuery orch env call) memory (CallState.start world call.sessionId)) :
    Ensures program.runAlone memory
      (fun response after => (queryStep orch store world call env).2.outcome = .ok response ∧
        Shows store fieldsFile after (queryStep orch store world call env).1)
      (fun error after => (queryStep orch store world call env).2.outcome = .error error ∧
        Shows store fieldsFile after (queryStep orch store world call env).1) := by
  unfold Matches at whole
  unfold Ensures queryStep
  cases ran : program.runAlone memory with
  | ok response after =>
      cases ran' : Orchestrator.handleQuery orch env call
          (CallState.start world call.sessionId) with
      | error error final =>
          rw [ran, ran'] at whole
          exact whole.elim
      | ok response' final =>
          rw [ran, ran'] at whole
          rcases whole with ⟨rfl, ref, mirrors⟩
          exact ⟨rfl, mirrors_close _ _ mirrors⟩
  | error error after =>
      cases ran' : Orchestrator.handleQuery orch env call
          (CallState.start world call.sessionId) with
      | ok response final =>
          rw [ran, ran'] at whole
          exact whole.elim
      | error error' final =>
          rw [ran, ran'] at whole
          rcases whole with ⟨rfl, ref, mirrors⟩
          exact ⟨rfl, mirrors_close _ _ mirrors⟩

include loads in
/-- A call that is not interrupted does what `Orchestrator.handleQuery` does. -/
theorem alone_is_query_step
    (memory : Memory)
    (world : World)
    (shows : Shows store fieldsFile memory world) :
    Ensures (handleQuery orch store fieldsFile call env).runAlone memory
      (fun response after => (queryStep orch store world call env).2.outcome = .ok response ∧
        Shows store fieldsFile after (queryStep orch store world call env).1)
      (fun error after => (queryStep orch store world call env).2.outcome = .error error ∧
        Shows store fieldsFile after (queryStep orch store world call env).1) := by
  rcases open_session_mirrors call memory world shows with
    ⟨ref, after, st, opens, opens', mirrors, stored⟩
  have rest := performs_opened orch call env loads after st mirrors stored
  have program : ∀ next : SessionRef → SessionState → Program QueryResponse,
      (openSession call.sessionId >>= fun ref => readSession ref >>= next ref).runAlone memory =
        (next ref st.session).runAlone after := by
    intro next
    rw [run_alone_bind, ← mirrors.object]
    change EStateM.bind _ _ memory = _
    unfold EStateM.bind
    rw [opens]
    rfl
  have effect : ∀ next : CallState → Effect QueryResponse,
      (Orchestrator.openSession call.sessionId >>= fun _ => get >>= next)
        (CallState.start world call.sessionId) = next st st := by
    intro next
    change EStateM.bind _ _ (CallState.start world call.sessionId) = _
    unfold EStateM.bind
    rw [opens']
    rfl
  apply query_step_of_matches
  unfold Matches handleQuery Orchestrator.handleQuery
  rw [program, effect]
  exact rest

include loads in
/-- A thread of the machine that alone is resumed ends as the effect does. -/
theorem uninterrupted_is_handle_query
    (threads : QueryState)
    (index : Nat)
    (world : World)
    (shows : Shows store fieldsFile threads.shared world)
    (found : (threads.programs call.sessionId)[index]? =
      some (handleQuery orch store fieldsFile call env)) :
    ∃ count, let final := (RunRules.run (queryTurn orch store fieldsFile) threads
        (List.replicate count (.resume call.sessionId index))).1
      Shows store fieldsFile final.shared (queryStep orch store world call env).1 ∧
        (final.programs call.sessionId)[index]?.bind outcome? =
          some (queryStep orch store world call env).2.outcome := by
  rcases resumed_to_end threads call.sessionId index _ found with ⟨count, ended⟩
  apply Exists.intro count
  have both := ensures_and ended
    (alone_is_query_step orch call env loads threads.shared world shows)
  rcases ensures_exit both with ⟨response, after, ⟨memory, thread⟩, outcome, shown⟩ |
    ⟨error, after, ⟨memory, thread⟩, outcome, shown⟩
  · rw [← memory] at shown
    refine ⟨shown, ?_⟩
    rw [outcome]
    exact congrArg (fun thread => Option.bind thread outcome?) thread
  · rw [← memory] at shown
    refine ⟨shown, ?_⟩
    rw [outcome]
    exact congrArg (fun thread => Option.bind thread outcome?) thread

end HandleQuery

end Alone

end AtlasMindNetra.QueryThreads
