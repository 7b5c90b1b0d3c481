import AtlasMindNetra.ClarifierFailures
import AtlasMindNetra.ClientBoundary
import AtlasMindNetra.MalformedFiles
import AtlasMindNetra.ModelAgents
import AtlasMindNetra.QueryReport
import AtlasMindNetra.ResultPassing
import AtlasMindNetra.ServerTools
import AtlasMindNetra.UiDisplay

/-!
# The query tool over its real collaborators

`build_orchestrator` of `server.py` hands the orchestrator a clarifier over two
agents, the backend client, the browser bridge, the fields file, the report
builder and a directory for the reports. What is left outside of the program is
the host, the models, the network, the disk and the clock. With all of this in
place a call of `query_jira` fails in the ways below and in no other.
-/

namespace AtlasMindNetra.ServerWiring

open AtlasMindNetra.PythonValues AtlasMindNetra.ResponseModels AtlasMindNetra.JsonTrees
open AtlasMindNetra.SessionStore AtlasMindNetra.EffectRules AtlasMindNetra.RunRules
open AtlasMindNetra.Orchestrator AtlasMindNetra.ServerTools AtlasMindNetra.ModelAgents
open AtlasMindNetra.ClientBoundary AtlasMindNetra.QueryReport
open AtlasMindNetra.BriefingArchive (JsonLibrary ModelValidation)
open AtlasMindNetra.JiraMetadata (JiraFieldsLoader ReadError loadFields)
open AtlasMindNetra.LiteClient (LiteClientConfig ClientError HttpOutcome)

set_option autoImplicit false

/-- What `build_orchestrator` fixes. -/
structure QueryServer where
  orchestrator : OrchestratorConfig
  client : LiteClientConfig
  library : JsonLibrary
  validation : ModelValidation
  maxIssues : Int := 50
  transport : Transport := .stdio
  /-- `str()` of pydantic's `ValidationError` about a field of a request -/
  validationText : String → Int → String
  /-- `str()` of an error in reading the fields file -/
  readErrorText : ReadError → String

/-- What host, models, network, disk and clock do in one call. A write of a
convention that fails is given by the text of its `OSError`; the write of a report
may also meet a text that cannot be encoded. -/
structure QueryOutside where
  host : Option (String → HostReply) := none
  questionAgent : Agent ClarificationNeeded
  answerAgent : AnswerPath → Agent ResolvedTerms
  writeConvention : AnswerPath → Nat → Option String := fun _ _ => none
  learnedAt : AnswerPath → Nat → String := fun _ _ => ""
  loader : JiraFieldsLoader
  posts : Nat → HttpOutcome
  requestId : String := ""
  bridge : String → BridgeReply
  timestamp : String := ""
  writeReport : String → String → Except PyError String
  reportStamp : String := ""
  reportNonce : String := ""

def clientFailure (validationText : String → Int → String) : ClientError → PyError
  | .liteBackend message | .serviceUnavailable message => .liteBackend message
  | .transport message | .request message | .attribute message | .recursion message =>
      .other message
  | .validation field value => .other (validationText field value)

def readFailure (errorText : ReadError → String) : ReadError → PyError
  | .os message => .os message
  | error => .other (errorText error)

section Wiring

variable (server : QueryServer) (outside : QueryOutside)

def wiredClarification : ClarificationSide where
  elicit := toolElicit server.transport outside.host
  formulateQuestion := formulateQuestion outside.questionAgent
  resolveAnswer path := resolveAnswer (outside.answerAgent path)
  conventionsSet path index := (outside.writeConvention path index).map .os
  loadFields :=
    (loadFields server.library server.validation outside.loader).1.mapError
      (readFailure server.readErrorText)
  learnedAt := outside.learnedAt

def wiredBackend : BackendSide where
  query text limit :=
    (LiteClient.query server.client text limit {} outside.requestId outside.posts).outcome.mapError
      (clientFailure server.validationText)
  inject text := injectAck (outside.bridge text)
  buildQueryReport query response :=
    .ok (buildQueryReport server.orchestrator.tables server.maxIssues outside.timestamp query
      response)
  deliver := outside.writeReport
  reportStamp := outside.reportStamp
  reportNonce := outside.reportNonce

def wired : QueryEnvironment where
  clarification := wiredClarification server outside
  backend := wiredBackend server outside

/-- The models fail only in the ways that their library declares, the
conventions can be written, the fields file can be gone through, and a report is
written or fails with an error that is caught, such as `OSError`. -/
structure Ordinary : Prop where
  questions : Declared outside.questionAgent
  answers : ∀ path, Declared (outside.answerAgent path)
  writes : ∀ path index, outside.writeConvention path index = none
  fields : ∃ fields, (loadFields server.library server.validation outside.loader).1 = .ok fields
  reports : ∀ reportId content error, outside.writeReport reportId content = .error error →
    error.isOsOrNetra = true

def LimitAllowed (call : QueryCall) : Prop :=
  ∀ value, call.limit.or server.client.settings.defaultLimit = some value → 1 ≤ value

end Wiring

def QueriesBackend (events : List OrchestratorEvent) : Prop :=
  ∃ event ∈ events, event.isBackendQuery = true

/-- Nothing that the bridge was asked to show was answered with a body nested too
deeply. -/
def DisplayFits (outside : QueryOutside) (events : List OrchestratorEvent) : Prop :=
  ∀ text, .uiInjected text ∈ events → ¬ TooDeep (outside.bridge text)

theorem clarifier_failure_declared
    {Output : Type}
    (agent : Agent Output)
    (declared : Declared agent)
    (task prompt : String)
    (error : PyError)
    (failed : (agent prompt).mapError (clarifierFailure task) = .error error) :
    error.clarification? ≠ none := by
  cases answered : agent prompt with
  | ok output =>
      rw [answered] at failed
      cases failed
  | error failure =>
      rw [answered] at failed
      cases failed
      cases failure with
      | agentRun message => exact Option.some_ne_none _
      | user message => exact Option.some_ne_none _
      | other message => exact absurd answered (declared prompt message)

section Parts

variable (server : QueryServer) (outside : QueryOutside) (ordinary : Ordinary server outside)

include ordinary in
/-- Over declared agents the clarifier fails only with its own error, and
nothing else before the dispatch fails. -/
theorem wired_clarification_declared :
    DeclaredClarification (wiredClarification server outside) where
  lookups _ := rfl
  writes path index := by
    change (outside.writeConvention path index).map PyError.os = none
    rw [ordinary.writes path index]
    rfl
  lists := rfl
  fields := by
    obtain ⟨fields, loaded⟩ := ordinary.fields
    refine ⟨fields, ?_⟩
    change (loadFields server.library server.validation outside.loader).1.mapError _ = _
    rw [loaded]
    rfl
  replies elicit offered question := by
    change toolElicit server.transport outside.host = some elicit at offered
    unfold toolElicit at offered
    split_ifs at offered
    obtain ⟨host, _, rfl⟩ := Option.map_eq_some_iff.mp offered
    unfold makeElicit
    cases host question <;> exact ⟨_, rfl⟩
  formulates request error failed :=
    clarifier_failure_declared _ ordinary.questions _ _ error failed
  resolves path _ error failed :=
    clarifier_failure_declared _ (ordinary.answers path) _ _ error failed

/-- The limit is allowed and no post meets an unreadable response. -/
def QueryFits (call : QueryCall) : Prop :=
  LimitAllowed server call ∧ ¬ MeetsUnreadable server.client outside.posts

/-- The client fails with a `LiteBackendError` or not at all exactly if the query fits. -/
theorem client_at_boundary_iff
    (call : QueryCall)
    (text : String) :
    AtBoundary (LiteClient.query server.client text call.limit {} outside.requestId
        outside.posts).outcome ↔ QueryFits server outside call := by
  have boundary := query_boundary_iff server.client text call.limit {} outside.requestId
    outside.posts
  unfold QueryFits LimitAllowed
  rw [← boundary]
  constructor
  · intro kept
    refine ⟨kept, ?_⟩
    unfold LiteClient.query LiteClient.runRequest
    cases LiteClient.queryRequest server.client.settings text call.limit {} outside.requestId with
    | error error =>
        refine ⟨?_, fun index earlier => absurd earlier (Nat.not_lt_zero _)⟩
        have limit := retry_limit server.client.settings
        simp only
        omega
    | ok request => exact posts_within server.client outside.posts
  · exact And.left

theorem client_failure_caught_iff
    (error : ClientError) :
    (∃ message, clientFailure server.validationText error = .liteBackend message) ↔
      error.isLiteBackend = true := by
  cases error <;> simp [clientFailure, ClientError.isLiteBackend]

include ordinary in
theorem wired_report_returns
    (query : String)
    (response : QueryResponse)
    (start : CallState) :
    Ensures (withReport server.orchestrator (wiredBackend server outside) query response) start
      (fun _ final => final = start) (fun _ _ => False) := by
  have returns := with_report_returns server.orchestrator (wiredBackend server outside)
    (fun _ _ _ failed => by cases failed) ordinary.reports query response start
  have frame := with_report_frame server.orchestrator (wiredBackend server outside) query response
    start
  apply ensures_mono (ensures_and returns frame)
  · exact fun _ _ both => both.2.1
  · exact fun _ _ both => both.1

theorem wired_display_returns
    (showInUi : Bool)
    (jql : Option String)
    (errors : List String)
    (start : CallState)
    (shallow : DisplayFits outside start.events) :
    Ensures (showResult (wiredBackend server outside) showInUi jql errors) start
      (fun _ final => DisplayFits outside final.events)
      (fun _ final => ¬ DisplayFits outside final.events) := by
  unfold showResult
  rw [ensures_ite]
  constructor
  · intro _
    cases truthyText jql with
    | none => exact shallow
    | some text =>
        have injected (fits : ¬ TooDeep (outside.bridge (text ++ " /raw"))) :
            DisplayFits outside (start.log (.uiInjected (text ++ " /raw"))).events := by
          intro other member
          cases List.mem_append.mp member with
          | inl earlier => exact shallow other earlier
          | inr last =>
              cases List.mem_singleton.mp last
              exact fits
        simp only [ensures_bind, ensures_emit, ensures_fromOutcome, ensures_ite, ensures_pure]
        constructor
        · intro ack returned
          have fits := injected ((inject_returns_iff _).mp ⟨ack, returned⟩)
          exact ⟨fun _ => fits, fun _ => fits⟩
        · intro error raised fits
          have deep := fits _ (List.mem_append_right _ (List.mem_singleton_self _))
          obtain ⟨ack, returned⟩ := (inject_returns_iff _).mpr deep
          cases raised.symm.trans returned
  · intro _
    exact shallow

include ordinary in
/-- A dispatch returns if the query fits and so does the display of its result,
and raises otherwise. -/
theorem wired_dispatch
    (call : QueryCall)
    (query : String)
    (active : ActiveTerms)
    (errors : List String)
    (start : CallState)
    (shallow : DisplayFits outside start.events) :
    Ensures (dispatch server.orchestrator (wiredBackend server outside) call query active errors)
      start
      (fun _ final => QueryFits server outside call ∧ DisplayFits outside final.events)
      (fun _ final => ¬ ((QueriesBackend final.events → QueryFits server outside call) ∧
        DisplayFits outside final.events)) := by
  have sent : QueriesBackend (start.dispatched call query active).events :=
    ⟨_, List.mem_append_right _ (List.mem_singleton_self _), rfl⟩
  have still : DisplayFits outside (start.dispatched call query active).events := by
    intro text member
    cases List.mem_append.mp member with
    | inl earlier =>
        cases List.mem_append.mp earlier with
        | inl first => exact shallow text first
        | inr moved => cases List.mem_singleton.mp moved
    | inr last => cases List.mem_singleton.mp last
  have boundary := client_at_boundary_iff server outside call (enrichedQuery query active)
  rw [ensures_dispatch]
  change Ensures (respond _ _ _ _ _ _ _ ((LiteClient.query _ _ _ _ _ _).outcome.mapError _)) _ _ _
  cases outcome : (LiteClient.query server.client (enrichedQuery query active) call.limit {}
      outside.requestId outside.posts).outcome with
  | error error =>
      rw [outcome] at boundary
      cases caught : error.isLiteBackend with
      | true =>
          obtain ⟨message, failure⟩ := (client_failure_caught_iff server error).mpr caught
          have fits : QueryFits server outside call := by
            apply boundary.mp
            intro other same
            cases same
            exact caught
          simp only [Except.mapError, failure]
          apply ensures_mono (wired_report_returns server outside ordinary query _ _)
          · rintro _ final rfl
            exact ⟨fits, still⟩
          · exact fun _ _ impossible => impossible.elim
      | false =>
          have exceeds : ¬ QueryFits server outside call := by
            intro fits
            have kept := boundary.mpr fits error rfl
            exact Bool.false_ne_true (caught.symm.trans kept)
          cases failure : clientFailure server.validationText error with
          | liteBackend message =>
              have lite := (client_failure_caught_iff server error).mp ⟨message, failure⟩
              exact absurd (caught.symm.trans lite) Bool.false_ne_true
          | _ =>
              simp only [Except.mapError, failure]
              exact fun fitting => exceeds (fitting.1 sent)
  | ok result =>
      have fits : QueryFits server outside call := by
        rw [outcome] at boundary
        apply boundary.mp
        intro error same
        cases same
      simp only [Except.mapError, respond, ensures_ite, ensures_bind]
      constructor
      · intro _
        apply ensures_mono (wired_report_returns server outside ordinary query _ _)
        · rintro _ final rfl
          exact ⟨fits, still⟩
        · exact fun _ _ impossible => impossible.elim
      · intro _
        apply ensures_mono (wired_display_returns server outside call.showInUi result.jql errors _
          still)
        · intro shown middle fitting
          apply ensures_mono (wired_report_returns server outside ordinary query _ middle)
          · rintro _ final rfl
            exact ⟨fits, fitting⟩
          · exact fun _ _ impossible => impossible.elim
        · exact fun _ _ exceeds fitting => exceeds fitting.2

end Parts

def IsQuestion (event : OrchestratorEvent) : Prop :=
  event.isBackendQuery = false ∧ ∀ text, event ≠ .uiInjected text

theorem question_allows_questions : AllowsQuestions IsQuestion where
  formulate _ := ⟨rfl, fun _ same => by cases same⟩
  elicit _ := ⟨rfl, fun _ same => by cases same⟩
  resolve _ _ := ⟨rfl, fun _ same => by cases same⟩

theorem returned_query_fits
    (server : QueryServer)
    (outside : QueryOutside)
    (ordinary : Ordinary server outside)
    (call : QueryCall)
    (start : CallState)
    (fresh : start.events = []) :
    Ensures (handleQuery server.orchestrator (wired server outside) call) start
      (fun _ final => (QueriesBackend final.events → QueryFits server outside call) ∧
        DisplayFits outside final.events)
      (fun _ _ => True) := by
  apply handle_query_ends server.orchestrator (wired server outside) call
    question_allows_questions (fun _ _ => ⟨rfl, fun _ same => by cases same⟩)
    (fun _ final => (QueriesBackend final.events → QueryFits server outside call) ∧
      DisplayFits outside final.events) _ _ start fresh
  · intro response final unsent
    constructor
    · intro queries
      obtain ⟨event, member, queried⟩ := queries
      exact absurd ((unsent event member).1.symm.trans queried) Bool.false_ne_true
    · intro text member
      exact absurd rfl ((unsent _ member).2 text)
  · intro query active errors st unsent
    have shallow : DisplayFits outside st.events := fun text member =>
      absurd rfl ((unsent _ member).2 text)
    apply ensures_mono (wired_dispatch server outside ordinary call query active errors st shallow)
    · exact fun _ _ fitting => ⟨fun _ => fitting.1, fitting.2⟩
    · exact fun _ _ _ => trivial

def sampleServer : QueryServer where
  orchestrator := sampleOrchestrator
  client := plainClient
  library := JiraMetadata.sampleLibrary
  validation := BriefingArchive.strictValidation
  validationText field _ := field
  readErrorText _ := ""

def gatewayOutside : QueryOutside where
  questionAgent _ := .ok { question := "Which one?" }
  answerAgent _ _ := .ok {}
  loader := { fieldsPath := .absent, allowedValuesPath := .absent }
  posts := listGateway
  bridge _ := .unreachable "no browser"
  writeReport reportId _ := .ok reportId

theorem gateway_ordinary : Ordinary sampleServer gatewayOutside where
  questions := by
    intro prompt message failed
    cases failed
  answers := by
    intro path prompt message failed
    cases failed
  writes _ _ := rfl
  fields := ⟨[], rfl⟩
  reports _ _ _ failed := by cases failed

end AtlasMindNetra.ServerWiring
