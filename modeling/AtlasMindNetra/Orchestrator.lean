import AtlasMindNetra.ConventionsStore
import AtlasMindNetra.EffectRules
import AtlasMindNetra.IntentClassifier
import AtlasMindNetra.SessionStore

/-!
# The clarification loop

`Orchestrator.handle_query` of `core/orchestrator.py`: detect ambiguous terms,
resolve them from the session or the learned conventions, ask one question,
learn the answer, dispatch. What a collaborator does during one call is an
argument, one function for each place it is called from, so a collaborator may
answer differently every time.

The session is a mutable object. A call works on `CallState.session`, and
`shared` says that the in-memory table holds this very object; closing the
call writes it through in that case. An error leaves all changes in place.
-/

namespace AtlasMindNetra.Orchestrator

open AtlasMindNetra.PythonValues AtlasMindNetra.ResponseModels
open AtlasMindNetra.SessionStore AtlasMindNetra.ConventionsStore
open AtlasMindNetra.IntentClassifier AtlasMindNetra.EffectRules

set_option autoImplicit false

structure OrchestratorSettings where
  /-- A negative setting acts as zero. -/
  maxRounds : Nat := 3
  maxFieldsInPrompt : Nat := 30
  deliveryEnabled : Bool := true

/-- `ReportRenderer` with the trailing slashes of its base URL stripped. -/
structure ReportRenderer where
  baseUrl : Option String := none

def ReportRenderer.buildViewUrl (renderer : ReportRenderer) (reportId : String) : Option String :=
  (truthyText renderer.baseUrl).map fun base => base ++ "/report/" ++ reportId

/-- The collaborators that are fixed when the orchestrator is constructed. -/
structure OrchestratorConfig where
  tables : TextTables
  vocab : VocabLookup
  settings : OrchestratorSettings := {}
  renderer : Option ReportRenderer := none

/-- The arguments of one `handle_query` call. -/
structure QueryCall where
  query : String
  sessionId : String
  clarificationAnswer : Option String := none
  limit : Option Int := none
  showInUi : Bool := false
  deriving DecidableEq

structure FormulateRequest where
  query : String
  terms : List String
  vocab : OrderedDict String VocabEntry
  conventions : List Convention
  fields : List JiraField
  deriving DecidableEq

structure ResolveRequest where
  query : String
  terms : List String
  answer : String
  vocab : OrderedDict String VocabEntry
  deriving DecidableEq

/-- Where an answer came from: a later call, or elicitation within the call. -/
inductive AnswerPath where
  | roundTrip
  | elicitation
  deriving DecidableEq

/-- What clarifier, elicitation, conventions store and fields file do in one call.
A store operation raises the given error, or succeeds when there is none. -/
structure ClarificationSide where
  elicit : Option (String → Except PyError (Option String)) := none
  formulateQuestion : FormulateRequest → Except PyError ClarificationNeeded
  resolveAnswer : AnswerPath → ResolveRequest → Except PyError ResolvedTerms
  conventionsGet : String → Option PyError := fun _ => none
  conventionsSet : AnswerPath → Nat → Option PyError := fun _ _ => none
  conventionsList : Option PyError := none
  loadFields : Except PyError (List JiraField) := .ok []
  learnedAt : AnswerPath → Nat → String := fun _ _ => ""

/-- What backend, browser bridge, report builder and delivery do in one call. -/
structure BackendSide where
  query : String → Option Int → Except PyError LiteQueryResult
  inject : String → Except PyError InjectAck := fun _ => .ok { accepted := true }
  buildQueryReport : String → QueryResponse → Except PyError String := fun _ _ => .ok ""
  deliver : String → String → Except PyError String := fun reportId _ => .ok reportId
  reportStamp : String := ""
  reportNonce : String := ""

structure QueryEnvironment where
  clarification : ClarificationSide
  backend : BackendSide

/-- The calls and transitions of one `handle_query` call, in order. A backend
query is recorded with the text before and after the hints are appended. -/
inductive OrchestratorEvent where
  | transition (source target : ClarificationState)
  | formulateRequested (request : FormulateRequest)
  | elicited (question : String)
  | resolveRequested (path : AnswerPath) (request : ResolveRequest)
  | backendQueried (query enriched : String) (limit : Option Int)
  | uiInjected (text : String)
  deriving DecidableEq

structure CallState where
  session : SessionState
  shared : Bool
  sessions : SessionTable
  conventions : JsonFileConventionsStore
  events : List OrchestratorEvent

abbrev Effect (Value : Type) := EStateM PyError CallState Value

/-- `self._sessions.get(session_id) or SessionState(session_id=session_id)` -/
def openSession (sessionId : String) : Effect Unit := modify fun st =>
  match st.sessions.get? sessionId with
  | some session => { st with session := session, shared := true }
  | none => { st with session := { sessionId := sessionId }, shared := false }

/-- A new session object; the stored one is left alone. -/
def replaceSession (sessionId : String) : Effect Unit := modify fun st =>
  { st with session := { sessionId := sessionId }, shared := false }

def editSession (change : SessionState → SessionState) : Effect Unit := modify fun st =>
  { st with session := change st.session }

/-- `self._sessions.set(session)` -/
def saveSession : Effect Unit := modify fun st =>
  { st with sessions := st.sessions.set st.session.sessionId st.session, shared := true }

def emit (event : OrchestratorEvent) : Effect Unit := modify fun st =>
  { st with events := st.events ++ [event] }

def transition (newState : ClarificationState) : Effect Unit := do
  let st ← get
  emit (.transition st.session.state newState)
  let session ← fromOutcome (st.session.transition newState)
  editSession fun _ => session

def raiseIf (fault : Option PyError) : Effect Unit :=
  fromOutcome (match fault with
    | some error => .error error
    | none => .ok ())

section Clarification

variable (orch : OrchestratorConfig) (env : ClarificationSide)

def getConvention (term : String) : Effect (Option Convention) := do
  raiseIf (env.conventionsGet term)
  let st ← get
  pure (st.conventions.get orch.tables instanceDefaultProject term)

/-- `JsonFileConventionsStore.set`: memory first, then the file. -/
def setConvention (fault : Option PyError) (convention : Convention) : Effect Unit := do
  modify fun st => { st with conventions := st.conventions.remember orch.tables convention }
  raiseIf fault
  modify fun st => { st with conventions := st.conventions.persist }

def sessionResolution (item : TermResolutionOutput) : TermResolution where
  term := orch.tables.lower item.term
  resolutionKey := item.resolutionKey
  jqlHint := item.jqlHint
  source := .clarification

def learnedConvention (learnedAt : String) (item : TermResolutionOutput) : Convention where
  project := instanceDefaultProject
  term := orch.tables.lower item.term
  resolutionKey := item.resolutionKey
  jqlHint := item.jqlHint
  learnedAt := learnedAt

/-- `session.resolutions[item.term.lower()] = ...` -/
def recordResolution (item : TermResolutionOutput) (session : SessionState) : SessionState :=
  { session with resolutions :=
      session.resolutions.set (orch.tables.lower item.term) (sessionResolution orch item) }

/-- The loop of `_resolve_and_learn`, at item number `index`. -/
def learnItems (path : AnswerPath) : Nat → List TermResolutionOutput → Effect Unit
  | _, [] => pure ()
  | index, item :: rest => do
      editSession (recordResolution orch item)
      setConvention orch (env.conventionsSet path index)
        (learnedConvention orch (env.learnedAt path index) item)
      learnItems path (index + 1) rest

def resolveRequest (query : String) (terms : List String) (answer : String) : ResolveRequest where
  query := query
  terms := terms
  answer := answer
  vocab := orch.vocab.entriesFor orch.tables terms

def resolveAndLearn (path : AnswerPath) (query : String) (terms : List String)
    (answer : String) : Effect Unit := do
  let request := resolveRequest orch query terms answer
  emit (.resolveRequested path request)
  let resolved ← fromOutcome (env.resolveAnswer path request)
  learnItems orch env path 0 resolved.resolutions

def conventionResolution (term : String) (convention : Convention) : TermResolution where
  term := term
  resolutionKey := convention.resolutionKey
  jqlHint := convention.jqlHint
  source := .convention

abbrev ActiveTerms := OrderedDict String TermResolution

/-- The loop of `_split_resolved` from the terms partitioned so far. -/
def splitResolvedFrom (active : ActiveTerms) (unresolved : List String) :
    List String → Effect (ActiveTerms × List String)
  | [] => pure (active, unresolved)
  | term :: rest => do
      let st ← get
      match st.session.resolutions.get? term with
      | some resolution => splitResolvedFrom (active.set term resolution) unresolved rest
      | none => do
          match ← getConvention orch env term with
          | some convention =>
              splitResolvedFrom (active.set term (conventionResolution term convention))
                unresolved rest
          | none => splitResolvedFrom active (unresolved ++ [term]) rest

def splitResolved (terms : List String) : Effect (ActiveTerms × List String) :=
  splitResolvedFrom orch env ∅ [] terms

end Clarification

def exhaustedNotice (unresolved : List String) : String :=
  "clarification rounds exhausted; dispatched with unresolved terms: " ++
    String.intercalate ", " unresolved

def unavailableNotice (message : String) : String := "clarification unavailable: " ++ message

def appliedConventions (active : ActiveTerms) : List AppliedConvention :=
  active.values.map fun resolution =>
    { term := resolution.term, jqlHint := resolution.jqlHint, source := resolution.source }

/-- The hints of all active terms, each written by `show`. -/
def joinHints (one : TermResolution → String) (active : ActiveTerms) : String :=
  String.intercalate "; " (active.values.map one)

def enrichedQuery (query : String) (active : ActiveTerms) : String :=
  if active.values = [] then query
  else query ++ " (interpretation hints: " ++
    joinHints (fun resolution => resolution.term ++ " -> " ++ resolution.jqlHint) active ++ ")"

/-- The session as `_dispatch` stores it, before the state is moved. -/
def clearPending (session : SessionState) : SessionState :=
  { session with
    pendingQuery := none, pendingTerms := [], pendingQuestion := none, clarificationRounds := 0 }

def isTransportFailure (message : String) : Bool :=
  startsWithText "backend unreachable after retries" message

def rephraseQuestion (message : String) (active : ActiveTerms) : String :=
  "The query could not be executed: " ++ firstChars 300 message ++ ". " ++
    "I applied these interpretations: " ++
    joinHints (fun resolution =>
      "\"" ++ resolution.term ++ "\" as " ++ resolution.jqlHint) active ++ ". " ++
    "If any are wrong, please clarify or rephrase your query."

/-- The response to a backend error. With active interpretations a failure
other than a transport failure asks the user to rephrase. -/
def failureResponse (sessionId : String) (active : ActiveTerms) (errors : List String)
    (message : String) : QueryResponse :=
  if active.values ≠ [] ∧ isTransportFailure message = false then
    { sessionId := sessionId
      requiresUserInput := true
      clarificationQuestion := some (rephraseQuestion message active)
      appliedConventions := appliedConventions active
      errors := errors ++ [message] }
  else
    { sessionId := sessionId
      appliedConventions := appliedConventions active
      errors := errors ++ [message] }

def zeroResultsQuestion (jql : Option String) (active : ActiveTerms) : String :=
  "The query returned zero results" ++
    (match truthyText jql with
      | some text => " (JQL used: `" ++ text ++ "`)"
      | none => "") ++ "." ++
    (if active.values = [] then ""
      else " I applied these field interpretations: " ++
        joinHints (fun resolution =>
          "\"" ++ resolution.term ++ "\" -> " ++ resolution.jqlHint) active ++ ".") ++ " " ++
    "This usually means a field name or field value does not match what is " ++
    "configured on your Jira instance. Could you please verify: " ++
    "(1) the exact field names available on your Jira instance, " ++
    "(2) the exact allowed values for those fields (e.g. status names, priority names, " ++
    "labels, issue types), and (3) the project key? " ++
    "Please rephrase your query with the correct field names and values, " ++
    "or let me know which part to correct."

/-- The response to a result without issues; it keeps nothing but the JQL. -/
def zeroResponse (sessionId : String) (active : ActiveTerms) (errors : List String)
    (result : LiteQueryResult) : QueryResponse where
  sessionId := sessionId
  requiresUserInput := true
  clarificationQuestion := some (zeroResultsQuestion result.jql active)
  jql := result.jql
  appliedConventions := appliedConventions active
  errors := errors

def resultResponse (sessionId : String) (active : ActiveTerms) (errors : List String)
    (uiInjected : Bool) (result : LiteQueryResult) : QueryResponse where
  sessionId := sessionId
  answer := result.answer
  jql := result.jql
  total := result.total
  shown := result.shown
  displayFields := result.displayFields
  issues := result.issues
  chartSpec := result.chartSpec
  uiInjected := uiInjected
  appliedConventions := appliedConventions active
  errors := errors

/-- `re.sub(r"[^A-Za-z0-9_-]", "-", session_id)[:40]` -/
def sessionSlug (sessionId : String) : String :=
  firstChars 40 (String.ofList (sessionId.toList.map fun char =>
    if char.isAlphanum || char == '_' || char == '-' then char else '-'))

section Dispatch

variable (orch : OrchestratorConfig) (backend : BackendSide)

def reportId (sessionId : String) : String :=
  backend.reportStamp ++ "_" ++ sessionSlug sessionId ++ "_" ++ backend.reportNonce

/-- `_with_report`: a failed report is an entry in `errors`, not a failed query. -/
def withReport (query : String) (response : QueryResponse) : Effect QueryResponse :=
  if orch.settings.deliveryEnabled then
    let id := reportId backend response.sessionId
    match backend.buildQueryReport query response >>= backend.deliver id with
    | .ok location =>
        pure { response with
          reportPath := some location
          viewUrl := orch.renderer.bind fun renderer => renderer.buildViewUrl id }
    | .error error =>
        if error.isOsOrNetra then
          pure { response with
            errors := response.errors ++ ["report not written: " ++ error.text] }
        else throw error
  else pure response

/-- Best-effort display of the generated JQL in the browser: whether it was
shown, and the errors so far. -/
def showResult (showInUi : Bool) (jql : Option String) (errors : List String) :
    Effect (Bool × List String) :=
  if showInUi then
    match truthyText jql with
    | some text => do
        emit (.uiInjected (text ++ " /raw"))
        let ack ← fromOutcome (backend.inject (text ++ " /raw"))
        if ack.accepted then pure (true, errors)
        else pure (false, errors ++
          ["chart not shown in UI: " ++ (truthyText ack.detail).getD "rejected"])
    | none => pure (false, errors ++ ["chart not shown in UI: no JQL was generated"])
  else pure (false, errors)

/-- The part of `_dispatch` after the backend has answered. -/
def respond (call : QueryCall) (query : String) (active : ActiveTerms) (errors : List String)
    (sessionId : String) : Except PyError LiteQueryResult → Effect QueryResponse
  | .error (.liteBackend message) =>
      withReport orch backend query (failureResponse sessionId active errors message)
  | .error error => throw error
  | .ok result =>
      if result.total = 0 then
        withReport orch backend query (zeroResponse sessionId active errors result)
      else do
        let (uiInjected, errors) ← showResult backend call.showInUi result.jql errors
        withReport orch backend query (resultResponse sessionId active errors uiInjected result)

def dispatch (call : QueryCall) (query : String) (active : ActiveTerms) (errors : List String) :
    Effect QueryResponse := do
  transition .dispatched
  editSession clearPending
  saveSession
  let enriched := enrichedQuery query active
  emit (.backendQueried query enriched call.limit)
  let st ← get
  respond orch backend call query active errors st.session.sessionId
    (backend.query enriched call.limit)

end Dispatch

def questionResponse (sessionId question : String) : QueryResponse where
  sessionId := sessionId
  requiresUserInput := true
  clarificationQuestion := some question

section HandleQuery

variable (orch : OrchestratorConfig) (env : QueryEnvironment) (call : QueryCall)

/-- The `try` block around the question: only `ClarificationError` is caught. -/
def attemptQuestion (query : String) (unresolved : List String) :
    Effect (Except String ClarificationNeeded) :=
  catching PyError.clarification? do
    raiseIf env.clarification.conventionsList
    let fields ← fromOutcome env.clarification.loadFields
    let st ← get
    let request : FormulateRequest :=
      { query := query
        terms := unresolved
        vocab := orch.vocab.entriesFor orch.tables unresolved
        conventions := st.conventions.listAll
        fields := fields.take orch.settings.maxFieldsInPrompt }
    emit (.formulateRequested request)
    fromOutcome (env.clarification.formulateQuestion request)

/-- `await elicit(needed.question) if elicit is not None else None`, as the
answer where it counts as one. -/
def elicitAnswer (question : String) : Effect (Option String) :=
  match env.clarification.elicit with
  | none => pure none
  | some elicit => do
      emit (.elicited question)
      let reply ← fromOutcome (elicit question)
      pure (truthyText reply)

/-- `active` with the terms the session has resolved by now. -/
def activateResolved (resolutions : OrderedDict String TermResolution) (active : ActiveTerms)
    (unresolved : List String) : ActiveTerms :=
  active.overlay resolutions.get? unresolved

def awaitAnswer (query : String) (unresolved : List String) (question : String)
    (session : SessionState) : SessionState :=
  { session with
    pendingQuery := some query, pendingTerms := unresolved, pendingQuestion := some question }

/-- The answer to an elicited question is used at once, without another look
for terms it leaves open. -/
def useElicited (query : String) (active : ActiveTerms) (unresolved : List String)
    (answer : String) : Effect QueryResponse := do
  resolveAndLearn orch env.clarification .elicitation query unresolved answer
  let st ← get
  transition .resolved
  dispatch orch env.backend call query
    (activateResolved st.session.resolutions active unresolved) []

def returnQuestion (query : String) (unresolved : List String) (question : String) :
    Effect QueryResponse := do
  transition .awaitingClarification
  editSession (awaitAnswer query unresolved question)
  saveSession
  pure (questionResponse call.sessionId question)

/-- One clarification round for the unresolved terms. -/
def clarify (query : String) (active : ActiveTerms) (unresolved : List String) :
    Effect QueryResponse := do
  match ← attemptQuestion orch env query unresolved with
  | .error message =>
      dispatch orch env.backend call query active [unavailableNotice message]
  | .ok needed => do
      editSession fun session =>
        { session with clarificationRounds := session.clarificationRounds + 1 }
      match ← elicitAnswer env needed.question with
      | some answer => useElicited orch env call query active unresolved answer
      | none => returnQuestion call query unresolved needed.question

/-- `handle_query` from the detection of terms on. -/
def detectAndDispatch (query : String) : Effect QueryResponse := do
  let (active, unresolved) ←
    splitResolved orch env.clarification (detect orch.tables orch.vocab query)
  let st ← get
  if unresolved = [] then dispatch orch env.backend call query active []
  else if st.session.clarificationRounds ≥ orch.settings.maxRounds then
    dispatch orch env.backend call query active [exhaustedNotice unresolved]
  else clarify orch env call query active unresolved

def resumeWithAnswer (session : SessionState) (answer : String) : Effect QueryResponse := do
  let query := (truthyText session.pendingQuery).getD call.query
  resolveAndLearn orch env.clarification .roundTrip query session.pendingTerms answer
  transition .resolved
  detectAndDispatch orch env call query

def repeatsQuestion (session : SessionState) : Option String :=
  if session.pendingQuery = some call.query then truthyText session.pendingQuestion else none

def handleQuery : Effect QueryResponse := do
  openSession call.sessionId
  let st ← get
  if st.session.state = .awaitingClarification then
    match truthyText call.clarificationAnswer with
    | some answer => resumeWithAnswer orch env call st.session answer
    | none =>
        match repeatsQuestion call st.session with
        | some question => do
            saveSession
            pure (questionResponse call.sessionId question)
        | none => do
            replaceSession call.sessionId
            detectAndDispatch orch env call call.query
  else detectAndDispatch orch env call call.query

end HandleQuery

structure World where
  sessions : SessionTable := ∅
  conventions : JsonFileConventionsStore := {}
  deriving DecidableEq

/-- The state at the first line of `handle_query`; the session is read first. -/
def CallState.start (world : World) (sessionId : String) : CallState where
  session := { sessionId := sessionId }
  shared := false
  sessions := world.sessions
  conventions := world.conventions
  events := []

/-- The in-memory table shows the session object as the call left it, saved or
not; Valkey shows the last saved copy. -/
def CallState.close (final : CallState) : SessionBackend → World
  | .inMemory =>
      { sessions :=
          if final.shared then final.sessions.set final.session.sessionId final.session
          else final.sessions
        conventions := final.conventions }
  | .valkey => { sessions := final.sessions, conventions := final.conventions }

structure CallRecord where
  outcome : Except PyError QueryResponse
  events : List OrchestratorEvent

def queryStep (orch : OrchestratorConfig) (store : SessionBackend) (world : World)
    (call : QueryCall) (env : QueryEnvironment) : World × CallRecord :=
  match handleQuery orch env call (CallState.start world call.sessionId) with
  | .ok response final => (final.close store, { outcome := .ok response, events := final.events })
  | .error error final => (final.close store, { outcome := .error error, events := final.events })

end AtlasMindNetra.Orchestrator
