import AtlasMindNetra.ServerTools

/-!
# Conversations at one server

Every conversation has its own sessions: that of its queries and briefings, and
those of the topics of its briefings. All conversations share the conventions and
the caches of the analyser and of Confluence. While the others teach nothing, the
calls of one conversation return what they return when the server has no other,
but for what briefings conclude over other caches.
-/

namespace AtlasMindNetra.ServerTools

open AtlasMindNetra.PythonValues AtlasMindNetra.ResponseModels AtlasMindNetra.SessionStore
open AtlasMindNetra.IntentClassifier AtlasMindNetra.EffectRules AtlasMindNetra.RunRules
open AtlasMindNetra.TwinRules AtlasMindNetra.ConventionsStore
open AtlasMindNetra.Orchestrator AtlasMindNetra.BriefingOrchestrator

set_option autoImplicit false

section Queries

variable (mine : String → Bool)

def AgreeOnOwn {Value : Type} (table other : OrderedDict String Value) : Prop :=
  ∀ sessionId, mine sessionId = true → table.get? sessionId = other.get? sessionId

/-- The calls are at one point, and at most the sessions of others differ. -/
def SameForOwn (left right : CallState) : Prop :=
  ∃ sessions, AgreeOnOwn mine sessions right.sessions ∧ left = { right with sessions := sessions }

variable {mine}

theorem agree_on_set
    {Value : Type}
    (table other : OrderedDict String Value)
    (agree : AgreeOnOwn mine table other)
    (key : String)
    (value : Value) : AgreeOnOwn mine (table.set key value) (other.set key value) := by
  intro sessionId own
  rw [OrderedDict.get?_set, OrderedDict.get?_set, agree sessionId own]

theorem agree_on_erase
    {Value : Type}
    (table other : OrderedDict String Value)
    (agree : AgreeOnOwn mine table other)
    (key : String) : AgreeOnOwn mine (table.erase key) (other.erase key) := by
  intro sessionId own
  rw [OrderedDict.get?_erase, OrderedDict.get?_erase, agree sessionId own]

theorem respects_reading
    {Value : Type}
    (next : CallState → Effect Value)
    (blind : ∀ st sessions, next { st with sessions := sessions } = next st)
    (rest : ∀ st, Respects (SameForOwn mine) (next st)) :
    Respects (SameForOwn mine) (get >>= next) := by
  apply respects_get
  intro start other same
  have states := same
  obtain ⟨sessions, _, rfl⟩ := same
  rw [blind]
  exact rest other _ other states

theorem respects_change
    (change : CallState → CallState)
    (blind : ∀ st sessions,
      change { st with sessions := sessions } = { change st with sessions := sessions })
    (keeps : ∀ st, (change st).sessions = st.sessions) :
    Respects (SameForOwn mine) (modify change : Effect PUnit) := by
  apply respects_modify
  intro start other same
  obtain ⟨sessions, agree, rfl⟩ := same
  refine ⟨sessions, ?_, blind other sessions⟩
  rw [keeps]
  exact agree

theorem respects_edit (change : SessionState → SessionState) :
    Respects (SameForOwn mine) (editSession change) :=
  respects_change _ (fun _ _ => rfl) (fun _ => rfl)

theorem respects_emit (event : OrchestratorEvent) : Respects (SameForOwn mine) (emit event) :=
  respects_change _ (fun _ _ => rfl) (fun _ => rfl)

theorem respects_save : Respects (SameForOwn mine) saveSession := by
  apply respects_modify
  intro start other same
  obtain ⟨sessions, agree, rfl⟩ := same
  exact ⟨_, agree_on_set _ _ agree _ _, rfl⟩

theorem respects_open
    (sessionId : String)
    (own : mine sessionId = true) : Respects (SameForOwn mine) (openSession sessionId) := by
  apply respects_modify
  intro start other same
  obtain ⟨sessions, agree, rfl⟩ := same
  dsimp only
  rw [agree sessionId own]
  cases other.sessions.get? sessionId with
  | some session => exact ⟨sessions, agree, rfl⟩
  | none => exact ⟨sessions, agree, rfl⟩

theorem respects_transition (newState : ClarificationState) :
    Respects (SameForOwn mine) (transition newState) := by
  apply respects_reading
  · exact fun _ _ => rfl
  · intro st
    apply respects_bind _ _ (respects_emit _)
    intro _
    apply respects_bind _ _ (respects_outcome _)
    exact fun session => respects_edit _

section Clarification

variable (orch : OrchestratorConfig) (env : ClarificationSide)

theorem respects_convention (term : String) :
    Respects (SameForOwn mine) (getConvention orch env term) := by
  apply respects_bind _ _ (respects_outcome _)
  intro _
  apply respects_reading
  · exact fun _ _ => rfl
  · exact fun st => respects_pure _

theorem respects_set_convention
    (fault : Option PyError)
    (convention : Convention) :
    Respects (SameForOwn mine) (setConvention orch fault convention) := by
  apply respects_bind
  · exact respects_change _ (fun _ _ => rfl) (fun _ => rfl)
  · intro _
    apply respects_bind _ _ (respects_outcome _)
    exact fun _ => respects_change _ (fun _ _ => rfl) (fun _ => rfl)

theorem respects_learn_items
    (path : AnswerPath)
    (index : Nat)
    (items : List TermResolutionOutput) :
    Respects (SameForOwn mine) (learnItems orch env path index items) := by
  induction items generalizing index with
  | nil => exact respects_pure _
  | cons item rest ih =>
      apply respects_bind _ _ (respects_edit _)
      intro _
      apply respects_bind _ _ (respects_set_convention orch _ _)
      exact fun _ => ih (index + 1)

theorem respects_resolve_and_learn
    (path : AnswerPath)
    (query : String)
    (terms : List String)
    (answer : String) :
    Respects (SameForOwn mine) (resolveAndLearn orch env path query terms answer) := by
  apply respects_bind _ _ (respects_emit _)
  intro _
  apply respects_bind _ _ (respects_outcome _)
  exact fun resolved => respects_learn_items orch env path 0 resolved.resolutions

theorem respects_split_resolved_from
    (active : ActiveTerms)
    (unresolved terms : List String) :
    Respects (SameForOwn mine) (splitResolvedFrom orch env active unresolved terms) := by
  induction terms generalizing active unresolved with
  | nil => exact respects_pure _
  | cons term rest ih =>
      apply respects_reading
      · exact fun _ _ => rfl
      · intro st
        cases st.session.resolutions.get? term with
        | some resolution => exact ih _ _
        | none =>
            apply respects_bind _ _ (respects_convention orch env term)
            intro found
            cases found with
            | some convention => exact ih _ _
            | none => exact ih _ _

end Clarification

section Dispatch

variable (orch : OrchestratorConfig) (backend : BackendSide)

theorem respects_report
    (query : String)
    (response : QueryResponse) :
    Respects (SameForOwn mine) (withReport orch backend query response) := by
  unfold withReport
  apply respects_ite
  · intro _
    dsimp only
    cases backend.buildQueryReport query response >>=
        backend.deliver (reportId backend response.sessionId) with
    | ok location => exact respects_pure _
    | error error =>
        apply respects_ite
        · exact fun _ => respects_pure _
        · exact fun _ => respects_throw error
  · exact fun _ => respects_pure response

theorem respects_show
    (showInUi : Bool)
    (jql : Option String)
    (errors : List String) :
    Respects (SameForOwn mine) (showResult backend showInUi jql errors) := by
  unfold showResult
  apply respects_ite
  · intro _
    cases truthyText jql with
    | none => exact respects_pure _
    | some text =>
        apply respects_bind _ _ (respects_emit _)
        intro _
        apply respects_bind _ _ (respects_outcome _)
        intro ack
        apply respects_ite
        · exact fun _ => respects_pure _
        · exact fun _ => respects_pure _
  · exact fun _ => respects_pure _

theorem respects_respond
    (call : QueryCall)
    (query : String)
    (active : ActiveTerms)
    (errors : List String)
    (sessionId : String)
    (outcome : Except PyError LiteQueryResult) :
    Respects (SameForOwn mine) (respond orch backend call query active errors sessionId outcome) := by
  cases outcome with
  | error failure =>
      cases failure with
      | liteBackend message => exact respects_report orch backend query _
      | _ => exact respects_throw _
  | ok result =>
      apply respects_ite
      · exact fun _ => respects_report orch backend query _
      · intro _
        apply respects_bind _ _ (respects_show backend call.showInUi result.jql errors)
        exact fun shown => respects_report orch backend query _

theorem respects_dispatch
    (call : QueryCall)
    (query : String)
    (active : ActiveTerms)
    (errors : List String) :
    Respects (SameForOwn mine) (dispatch orch backend call query active errors) := by
  apply respects_bind _ _ (respects_transition _)
  intro _
  apply respects_bind _ _ (respects_edit _)
  intro _
  apply respects_bind _ _ respects_save
  intro _
  apply respects_bind _ _ (respects_emit _)
  intro _
  apply respects_reading
  · exact fun _ _ => rfl
  · exact fun st => respects_respond orch backend call query active errors _ _

end Dispatch

section HandleQuery

variable (orch : OrchestratorConfig) (env : QueryEnvironment) (call : QueryCall)

theorem respects_attempt
    (query : String)
    (unresolved : List String) :
    Respects (SameForOwn mine) (attemptQuestion orch env query unresolved) := by
  apply respects_catching
  apply respects_bind _ _ (respects_outcome _)
  intro _
  apply respects_bind _ _ (respects_outcome _)
  intro fields
  apply respects_reading
  · exact fun _ _ => rfl
  · intro st
    apply respects_bind _ _ (respects_emit _)
    exact fun _ => respects_outcome _

theorem respects_elicit (question : String) :
    Respects (SameForOwn mine) (elicitAnswer env question) := by
  unfold elicitAnswer
  cases env.clarification.elicit with
  | none => exact respects_pure none
  | some elicit =>
      apply respects_bind _ _ (respects_emit _)
      intro _
      apply respects_bind _ _ (respects_outcome _)
      exact fun reply => respects_pure _

theorem respects_use_elicited
    (query : String)
    (active : ActiveTerms)
    (unresolved : List String)
    (answer : String) :
    Respects (SameForOwn mine) (useElicited orch env call query active unresolved answer) := by
  apply respects_bind _ _ (respects_resolve_and_learn orch env.clarification _ _ _ _)
  intro _
  apply respects_reading
  · exact fun _ _ => rfl
  · intro st
    apply respects_bind _ _ (respects_transition _)
    exact fun _ => respects_dispatch orch env.backend call query _ []

theorem respects_return_question
    (query : String)
    (unresolved : List String)
    (question : String) :
    Respects (SameForOwn mine) (returnQuestion call query unresolved question) := by
  apply respects_bind _ _ (respects_transition _)
  intro _
  apply respects_bind _ _ (respects_edit _)
  intro _
  apply respects_bind _ _ respects_save
  exact fun _ => respects_pure _

theorem respects_clarify
    (query : String)
    (active : ActiveTerms)
    (unresolved : List String) :
    Respects (SameForOwn mine) (clarify orch env call query active unresolved) := by
  apply respects_bind _ _ (respects_attempt orch env query unresolved)
  intro attempt
  cases attempt with
  | error message => exact respects_dispatch orch env.backend call query active _
  | ok needed =>
      apply respects_bind _ _ (respects_edit _)
      intro _
      apply respects_bind _ _ (respects_elicit env needed.question)
      intro reply
      cases reply with
      | some answer => exact respects_use_elicited orch env call query active unresolved answer
      | none => exact respects_return_question call query unresolved needed.question

theorem respects_detect (query : String) :
    Respects (SameForOwn mine) (detectAndDispatch orch env call query) := by
  apply respects_bind _ _ (respects_split_resolved_from orch env.clarification _ _ _)
  intro found
  apply respects_reading
  · exact fun _ _ => rfl
  · intro st
    apply respects_ite
    · exact fun _ => respects_dispatch orch env.backend call query _ []
    · intro _
      apply respects_ite
      · exact fun _ => respects_dispatch orch env.backend call query _ _
      · exact fun _ => respects_clarify orch env call query _ _

theorem respects_resume
    (session : SessionState)
    (answer : String) :
    Respects (SameForOwn mine) (resumeWithAnswer orch env call session answer) := by
  apply respects_bind _ _ (respects_resolve_and_learn orch env.clarification _ _ _ _)
  intro _
  apply respects_bind _ _ (respects_transition _)
  exact fun _ => respects_detect orch env call _

theorem respects_handle_query
    (own : mine call.sessionId = true) :
    Respects (SameForOwn mine) (handleQuery orch env call) := by
  apply respects_bind _ _ (respects_open _ own)
  intro _
  apply respects_reading
  · exact fun _ _ => rfl
  · intro st
    apply respects_ite
    · intro _
      cases truthyText call.clarificationAnswer with
      | some answer => exact respects_resume orch env call st.session answer
      | none =>
          cases repeatsQuestion call st.session with
          | some question =>
              apply respects_bind _ _ respects_save
              exact fun _ => respects_pure _
          | none =>
              apply respects_bind
              · exact respects_change _ (fun _ _ => rfl) (fun _ => rfl)
              · exact fun _ => respects_detect orch env call call.query
    · exact fun _ => respects_detect orch env call call.query

end HandleQuery

end Queries

section Server

variable (mine : String → Bool)

structure SameWorld (world other : World) : Prop where
  sessions : AgreeOnOwn mine world.sessions other.sessions
  conventions : world.conventions = other.conventions

variable {mine}
variable (orch : OrchestratorConfig) (store : SessionBackend)

theorem close_same_world
    (final other : CallState)
    (same : SameForOwn mine final other) : SameWorld mine (final.close store) (other.close store) := by
  obtain ⟨sessions, agree, rfl⟩ := same
  cases store with
  | valkey => exact ⟨agree, rfl⟩
  | inMemory =>
      refine ⟨?_, rfl⟩
      dsimp only [CallState.close]
      split_ifs
      · exact agree_on_set sessions other.sessions agree _ _
      · exact agree

theorem own_query_alike
    (call : QueryCall)
    (own : mine call.sessionId = true)
    (env : QueryEnvironment)
    (world other : World)
    (same : SameWorld mine world other) :
    (queryStep orch store world call env).2 = (queryStep orch store other call env).2 ∧
      SameWorld mine (queryStep orch store world call env).1
        (queryStep orch store other call env).1 := by
  have start : SameForOwn mine (CallState.start world call.sessionId)
      (CallState.start other call.sessionId) := by
    refine ⟨world.sessions, same.sessions, ?_⟩
    unfold CallState.start
    rw [same.conventions]
  have ran := respects_handle_query orch env call own _ _ start
  unfold queryStep
  generalize handleQuery orch env call (CallState.start world call.sessionId) = left at ran
  generalize handleQuery orch env call (CallState.start other call.sessionId) = right at ran
  cases ran with
  | returned response _ final after alike kept =>
      have worlds := close_same_world store final after kept
      obtain ⟨sessions, _, rfl⟩ := kept
      cases alike
      exact ⟨rfl, worlds⟩
  | raised error final after kept =>
      have worlds := close_same_world store final after kept
      obtain ⟨sessions, _, rfl⟩ := kept
      exact ⟨rfl, worlds⟩

theorem own_handle_alike
    (call : QueryCall)
    (own : mine call.sessionId = true)
    (elicit : Option ElicitFn)
    (env : QueryEnvironment)
    (world other : World)
    (same : SameWorld mine world other) :
    (orchestratorHandle orch store world call elicit env).2 =
        (orchestratorHandle orch store other call elicit env).2 ∧
      SameWorld mine (orchestratorHandle orch store world call elicit env).1
        (orchestratorHandle orch store other call elicit env).1 := by
  have alike := own_query_alike orch store call own (withElicit env elicit) world other same
  exact ⟨congrArg CallRecord.outcome alike.1, alike.2⟩

variable (mine) in
/-- The briefings are at one point, and at most what belongs to others differs. -/
structure SameBriefing (left right : BriefingState World) : Prop where
  handler : SameWorld mine left.handler right.handler
  pendings : AgreeOnOwn mine left.pendings right.pendings
  completed : left.completed = right.completed
  errors : left.errors = right.errors
  queried : left.queried = right.queried

variable (settings : BriefingSettings) (env : BriefingEnvironment QueryEnvironment)
variable (call : BriefingCall)
variable (topics : ∀ topicId, mine (topicSessionId call.sessionId topicId) = true)

include topics in
theorem respects_ask_handler
    (index : Nat)
    (topic : AgendaTopic)
    (answer : Option String) :
    Respects (SameBriefing mine)
      (askHandler (orchestratorHandle orch store) settings env call index topic answer) := by
  apply respects_get
  intro start other same
  have alike := own_handle_alike orch store (topicCall settings call topic answer)
    (topics topic.topicId) call.elicit (env.handlerSide index) start.handler other.handler
    same.handler
  dsimp only
  rw [← alike.1]
  cases outcome : (orchestratorHandle orch store start.handler
      (topicCall settings call topic answer) call.elicit (env.handlerSide index)).2 with
  | ok response =>
      apply Fits.returned response response _ _ rfl
      exact ⟨alike.2, same.pendings, same.completed, same.errors,
        congrArg (· ++ [_]) same.queried⟩
  | error error =>
      apply Fits.raised error
      exact ⟨alike.2, same.pendings, same.completed, same.errors,
        congrArg (· ++ [_]) same.queried⟩

theorem respects_complete_topic
    (topic : AgendaTopic)
    (result : QueryResponse) :
    Respects (SameBriefing mine) (completeTopic topic result : BriefingEffect World Unit) := by
  apply respects_modify
  intro start other same
  constructor
  · exact same.handler
  · exact same.pendings
  · exact congrArg (fun table => table.set topic.topicId result) same.completed
  · exact congrArg (· ++ topicErrors topic result) same.errors
  · exact same.queried

theorem respects_save_pending (pending : BriefingPendingState) :
    Respects (SameBriefing mine) (savePending pending : BriefingEffect World Unit) := by
  apply respects_modify
  intro start other same
  exact ⟨same.handler, agree_on_set _ _ same.pendings _ _, same.completed, same.errors,
    same.queried⟩

include topics in
theorem respects_query_topics
    (pending : BriefingPendingState)
    (index : Nat)
    (agenda : List AgendaTopic) :
    Respects (SameBriefing mine)
      (queryTopics (orchestratorHandle orch store) settings env call pending index agenda) := by
  induction agenda generalizing index with
  | nil => exact respects_pure none
  | cons topic rest ih =>
      apply respects_bind _ _ (respects_ask_handler orch store settings env call topics _ _ _)
      intro result
      apply respects_ite
      · intro _
        apply respects_get
        intro start other same
        rw [same.completed]
        apply respects_bind _ _ (respects_save_pending _) _ start other same
        exact fun _ => respects_pure _
      · intro _
        apply respects_bind _ _ (respects_complete_topic topic result)
        exact fun _ => ih (index + 1)

include topics in
theorem respects_continue_briefing (pending : BriefingPendingState) :
    Respects (SameBriefing mine)
      (continueBriefing (orchestratorHandle orch store) settings env call pending) := by
  apply respects_bind
  · apply respects_modify
    intro start other same
    exact ⟨same.handler, same.pendings, rfl, same.errors, same.queried⟩
  · intro _
    apply respects_bind _ _ (respects_query_topics orch store settings env call topics _ _ _)
    intro question
    cases question with
    | some response => exact respects_pure response
    | none =>
        apply respects_bind
        · apply respects_modify
          intro start other same
          exact ⟨same.handler, agree_on_erase _ _ same.pendings _, same.completed, same.errors,
            same.queried⟩
        · intro _
          apply respects_get
          intro start other same
          rw [same.completed, same.errors]
          exact respects_outcome _ start other same

include topics in
theorem respects_generate_briefing
    (own : mine call.sessionId = true) :
    Respects (SameBriefing mine)
      (generateBriefing (orchestratorHandle orch store) settings env call) := by
  apply respects_get
  intro start other same
  rw [same.pendings call.sessionId own]
  cases other.pendings.get? call.sessionId with
  | some pending =>
      exact respects_continue_briefing orch store settings env call topics pending start other same
  | none =>
      cases env.decompose call.agendaText call.projects with
      | error failure =>
          cases failure with
          | decomposition message => exact respects_pure _ start other same
          | _ => exact respects_throw _ start other same
      | ok agenda =>
          cases agenda with
          | nil => exact respects_pure _ start other same
          | cons topic rest =>
              exact respects_continue_briefing orch store settings env call topics _ start other
                same

variable (mine) in
/-- What one conversation sees of the server. -/
structure SameServer (world other : BriefingWorld World) : Prop where
  handler : SameWorld mine world.handler other.handler
  pendings : AgreeOnOwn mine world.pendings other.pendings

include topics in
theorem own_briefing_alike
    (own : mine call.sessionId = true)
    (world other : BriefingWorld World)
    (same : SameServer mine world other) :
    (briefingStep (orchestratorHandle orch store) settings world call env).2 =
        (briefingStep (orchestratorHandle orch store) settings other call env).2 ∧
      SameServer mine (briefingStep (orchestratorHandle orch store) settings world call env).1
        (briefingStep (orchestratorHandle orch store) settings other call env).1 := by
  have start : SameBriefing mine (BriefingState.start world) (BriefingState.start other) :=
    ⟨same.handler, same.pendings, rfl, rfl, rfl⟩
  have ran := respects_generate_briefing orch store settings env call topics own _ _ start
  unfold briefingStep
  generalize generateBriefing (orchestratorHandle orch store) settings env call
    (BriefingState.start world) = left at ran
  generalize generateBriefing (orchestratorHandle orch store) settings env call
    (BriefingState.start other) = right at ran
  cases ran with
  | returned response _ final after alike kept =>
      cases alike
      refine ⟨?_, kept.handler, kept.pendings⟩
      dsimp only
      rw [kept.queried]
  | raised error final after kept =>
      refine ⟨?_, kept.handler, kept.pendings⟩
      dsimp only
      rw [kept.queried]

end Server

section Others

variable (orch : OrchestratorConfig) (store : SessionBackend)
variable (settings : BriefingSettings) (env : BriefingEnvironment QueryEnvironment)
variable (call : BriefingCall)

/-- A briefing leaves the sessions of all but its topics alone. -/
theorem briefing_leaves_others
    (world : BriefingWorld World)
    (reached : ReachableWorld orch store world.handler) :
    let next := (briefingStep (orchestratorHandle orch store) settings world call env).1
    ReachableWorld orch store next.handler ∧
      ∀ other, (∀ topicId, other ≠ topicSessionId call.sessionId topicId) →
        SameSession other world.handler next.handler := by
  apply briefing_step_handler (orchestratorHandle orch store) settings world call env
    (fun handler => ReachableWorld orch store handler ∧
      ∀ other, (∀ topicId, other ≠ topicSessionId call.sessionId topicId) →
        SameSession other world.handler handler)
  · intro state topic answer index held
    refine ⟨handle_reachable orch store state held.1 _ call.elicit (env.handlerSide index), ?_⟩
    intro other apart
    have untouched := other_session_untouched orch store state held.1
      (topicCall settings call topic answer) (withElicit (env.handlerSide index) call.elicit) other
      (apart topic.topicId)
    exact Eq.trans untouched (held.2 other apart)
  · exact ⟨reached, fun _ _ => rfl⟩

end Others

def ToolCall.sessionId {Caches : Type} : ToolCall Caches → String
  | .queryJira call _ _ => call.sessionId
  | .generateBriefing call _ _ => call.sessionId
  | .expireSession sessionId => sessionId
  | .expireBriefing sessionId => sessionId

/-- The topics of a briefing belong to the conversation that the briefing belongs to. -/
def ToolCall.OneConversation {Caches : Type} (mine : String → Bool) : ToolCall Caches → Prop
  | .generateBriefing call _ _ =>
      ∀ topicId, mine (topicSessionId call.sessionId topicId) = mine call.sessionId
  | _ => True

section Runs

variable {Caches : Type}
variable (transport : Transport) (orch : OrchestratorConfig) (store : SessionBackend)
variable (settings : BriefingSettings) (mine : String → Bool)

def OthersTeachNothing (state : ServerState Caches) (call : ToolCall Caches) : Prop :=
  mine call.sessionId = false →
    (serverStep transport orch store settings state call).1.world.handler.conventions =
      state.world.handler.conventions

/-- A server in use, next to one that only the conversation uses. -/
structure NextToOwn (state other : ServerState Caches) : Prop where
  reached : ReachableWorld orch store state.world.handler
  sound : SoundPendings state.world.pendings
  same : SameServer mine state.world other.world

variable {mine}

theorem expired_reachable
    (world : World)
    (reached : ReachableWorld orch store world)
    (sessionId : String) :
    ReachableWorld orch store { world with sessions := world.sessions.erase sessionId } := by
  obtain ⟨conventions, reached⟩ := reached
  have next := reachable_next (OrchestratorInput.expire sessionId) reached trivial
  exact ⟨conventions, next⟩

theorem own_step_alike
    (call : ToolCall Caches)
    (own : mine call.sessionId = true)
    (one : call.OneConversation mine)
    (state other : ServerState Caches)
    (near : NextToOwn orch store mine state other) :
    AnsweredAlike settings call (serverStep transport orch store settings state call).2
        (serverStep transport orch store settings other call).2 ∧
      NextToOwn orch store mine (serverStep transport orch store settings state call).1
        (serverStep transport orch store settings other call).1 := by
  obtain ⟨reached, sound, same⟩ := near
  cases call with
  | queryJira call host env =>
      have alike := own_handle_alike orch store call own (toolElicit transport host) env
        state.world.handler other.world.handler same.handler
      constructor
      · exact congrArg ToolResult.query alike.1
      · exact ⟨handle_reachable orch store state.world.handler reached call _ env, sound,
          alike.2, same.pendings⟩
  | generateBriefing call host side =>
      have topics : ∀ topicId, mine (topicSessionId
          (eliciting call (toolElicit transport host)).sessionId topicId) = true :=
        fun topicId => (one topicId).trans own
      have alike := own_briefing_alike orch store settings (side.environment state.caches)
        (eliciting call (toolElicit transport host)) topics own state.world other.world same
      have left := briefing_leaves_others orch store settings (side.environment state.caches)
        (eliciting call (toolElicit transport host)) state.world reached
      -- The other server runs the briefing over its own caches.
      have moved := step_over_caches transport orch store settings
        (.generateBriefing call host side) ⟨other.world, state.caches⟩ other rfl
      have answered : (serverStep transport orch store settings state
          (.generateBriefing call host side)).2 =
            (serverStep transport orch store settings ⟨other.world, state.caches⟩
              (.generateBriefing call host side)).2 :=
        congrArg (fun record : BriefingRecord => ToolResult.briefing record.outcome) alike.1
      constructor
      · rw [answered]
        exact moved.1
      · refine ⟨left.1, briefing_step_sound _ settings state.world _ _ sound, ?_⟩
        rw [← moved.2]
        exact alike.2
  | expireSession sessionId =>
      refine ⟨rfl, expired_reachable orch store state.world.handler reached sessionId, sound, ?_⟩
      exact ⟨⟨agree_on_erase _ _ same.handler.sessions sessionId, same.handler.conventions⟩,
        same.pendings⟩
  | expireBriefing sessionId =>
      refine ⟨rfl, reached, sound_pendings_erase _ _ sound, same.handler, ?_⟩
      exact agree_on_erase _ _ same.pendings sessionId

theorem other_step_aside
    (call : ToolCall Caches)
    (foreign : mine call.sessionId = false)
    (one : call.OneConversation mine)
    (state other : ServerState Caches)
    (nothing : OthersTeachNothing transport orch store settings mine state call)
    (near : NextToOwn orch store mine state other) :
    NextToOwn orch store mine (serverStep transport orch store settings state call).1 other := by
  obtain ⟨reached, sound, same⟩ := near
  have kept := (nothing foreign).trans same.handler.conventions
  have apart : ∀ sessionId, mine sessionId = true → sessionId ≠ call.sessionId := by
    intro sessionId own here
    rw [here, foreign] at own
    cases own
  cases call with
  | queryJira call host env =>
      refine ⟨handle_reachable orch store state.world.handler reached call _ env, sound, ⟨?_, kept⟩,
        same.pendings⟩
      intro sessionId own
      have untouched := other_session_untouched orch store state.world.handler reached call
        (withElicit env (toolElicit transport host)) sessionId (apart sessionId own)
      exact Eq.trans untouched (same.handler.sessions sessionId own)
  | generateBriefing call host side =>
      have left := briefing_leaves_others orch store settings (side.environment state.caches)
        (eliciting call (toolElicit transport host)) state.world reached
      refine ⟨left.1, briefing_step_sound _ settings state.world _ _ sound, ⟨?_, kept⟩, ?_⟩
      · intro sessionId own
        have untouched := left.2 sessionId fun topicId here => by
          have topic := one topicId
          change sessionId = topicSessionId call.sessionId topicId at here
          rw [← here, own] at topic
          exact absurd (topic.trans foreign).symm Bool.false_ne_true
        exact Eq.trans untouched (same.handler.sessions sessionId own)
      · intro sessionId own
        have untouched := briefing_step_other_pending (orchestratorHandle orch store) settings
          state.world (eliciting call (toolElicit transport host)) (side.environment state.caches) sound
          sessionId (apart sessionId own)
        exact Eq.trans untouched (same.pendings sessionId own)
  | expireSession expired =>
      refine ⟨expired_reachable orch store state.world.handler reached expired, sound, ⟨?_, kept⟩,
        same.pendings⟩
      intro sessionId own
      have differs : sessionId ≠ expired := apart sessionId own
      change (state.world.handler.sessions.erase expired).get? sessionId = _
      rw [OrderedDict.get?_erase, if_neg differs]
      exact same.handler.sessions sessionId own
  | expireBriefing expired =>
      refine ⟨reached, sound_pendings_erase _ _ sound, same.handler, ?_⟩
      intro sessionId own
      have differs : sessionId ≠ expired := apart sessionId own
      change (state.world.pendings.erase expired).get? sessionId = _
      rw [OrderedDict.get?_erase, if_neg differs]
      exact same.pendings sessionId own

end Runs

def conversationOf (sessionId other : String) : Bool :=
  other == sessionId || startsWithText (sessionId ++ "__topic_") other

theorem topics_of_conversation
    (sessionId topicId : String) :
    conversationOf sessionId (topicSessionId sessionId topicId) = true := by
  have listed : (topicSessionId sessionId topicId).toList =
      (sessionId ++ "__topic_").toList ++ topicId.toList := String.toList_append
  unfold conversationOf startsWithText
  rw [Bool.or_eq_true, List.isPrefixOf_iff_prefix, listed]
  exact Or.inr (List.prefix_append _ _)

def twoConversations : List (ToolCall Int) :=
  [.queryJira { query := "open", sessionId := "t" } none sampleEnvironment,
    .generateBriefing { agendaText := "weekly", sessionId := "t" } none
      (countingSide (findingEnvironment [⟨"topic_1", "blockers", "stuck"⟩] 1)),
    .expireSession "t",
    .queryJira { query := "open", sessionId := "s" } none sampleEnvironment,
    .generateBriefing sampleBriefing none
      (countingSide (findingEnvironment [⟨"topic_1", "deadlines", "late"⟩] 1))]

theorem topics_of_other_conversation
    (topicId : String) : conversationOf "s" (topicSessionId "t" topicId) = false := by
  have listed : (topicSessionId "t" topicId).toList = "t__topic_".toList ++ topicId.toList :=
    String.toList_append
  have apart : topicSessionId "t" topicId ≠ "s" := by
    intro same
    have chars := congrArg String.toList same
    rw [listed] at chars
    cases chars
  unfold conversationOf startsWithText
  rw [beq_eq_false_iff_ne.mpr apart, listed]
  rfl

end AtlasMindNetra.ServerTools
