import AtlasMindNetra.Orchestrator
import AtlasMindNetra.ThreadRules

/-!
# Overlapping queries

`Orchestrator.handle_query` cut into atomic steps. A session is an object in
the memory of the process, and a call holds a reference to it; the in-memory
store hands out a reference to the stored object, Valkey a reference to a new
object decoded from the stored copy. Between two steps other calls may run, so
calls of one session may work on one object at the same time. The steps are
finer than the awaits of the source: what they allow includes every real order.
-/

namespace AtlasMindNetra.QueryThreads

open AtlasMindNetra.PythonValues AtlasMindNetra.ResponseModels
open AtlasMindNetra.SessionStore AtlasMindNetra.ConventionsStore
open AtlasMindNetra.IntentClassifier AtlasMindNetra.ThreadRules
open AtlasMindNetra.ThreadRules.Resumption
open AtlasMindNetra.Orchestrator (OrchestratorConfig QueryCall QueryEnvironment ClarificationSide
  BackendSide FormulateRequest AnswerPath ActiveTerms recordResolution learnedConvention
  resolveRequest conventionResolution exhaustedNotice unavailableNotice enrichedQuery clearPending
  failureResponse zeroResponse resultResponse reportId questionResponse activateResolved
  awaitAnswer repeatsQuestion)

set_option autoImplicit false

/-- A reference to a session object. It is named by the session for which the
object was created and by its number among the objects of that session. -/
structure SessionRef where
  owner : String
  number : Nat
  deriving DecidableEq

/-- What a session store keeps under a key: the in-memory store the object
itself, Valkey a copy. -/
inductive StoredSession where
  | object (ref : SessionRef)
  | copy (session : SessionState)
  deriving DecidableEq

/-- `fields` is the cache of `JiraFieldsLoader`. -/
structure Memory where
  entries : OrderedDict String StoredSession := ∅
  objects : SessionRef → SessionState := fun ref => { sessionId := ref.owner }
  created : String → Nat := fun _ => 0
  conventions : JsonFileConventionsStore := {}
  fields : Option (List JiraField) := none

def Memory.write (memory : Memory) (ref : SessionRef) (session : SessionState) : Memory :=
  { memory with objects := Function.update memory.objects ref session }

@[simp]
theorem objects_write (memory : Memory) (ref other : SessionRef) (session : SessionState) :
    (memory.write ref session).objects other =
      if other = ref then session else memory.objects other :=
  Function.update_apply memory.objects ref session other

def Memory.create (memory : Memory) (sessionId : String) (session : SessionState) :
    Memory × SessionRef :=
  let ref : SessionRef := { owner := sessionId, number := memory.created sessionId }
  ({ memory with
      objects := Function.update memory.objects ref session
      created := Function.update memory.created sessionId (memory.created sessionId + 1) }, ref)

@[simp]
theorem objects_create (memory : Memory) (sessionId : String) (session : SessionState)
    (other : SessionRef) :
    (memory.create sessionId session).1.objects other =
      if other = { owner := sessionId, number := memory.created sessionId } then session
      else memory.objects other :=
  Function.update_apply memory.objects _ session other

@[simp]
theorem created_create (memory : Memory) (sessionId other : String) (session : SessionState) :
    (memory.create sessionId session).1.created other =
      if other = sessionId then memory.created sessionId + 1 else memory.created other :=
  Function.update_apply memory.created sessionId _ other

def Memory.stored (memory : Memory) (sessionId : String) : Option SessionState :=
  match memory.entries.get? sessionId with
  | some (.object ref) => some (memory.objects ref)
  | some (.copy session) => some session
  | none => none

abbrev Program (Value : Type) := Resumption Memory PyError Value

def outside {Value : Type} (outcome : Except PyError Value) : Program Value :=
  atomic fun memory => (memory, outcome)

def update (change : Memory → Memory) : Program Unit :=
  atomic fun memory => (change memory, .ok ())

/-- `await self._sessions.get(session_id) or SessionState(session_id=session_id)` -/
def openSession (sessionId : String) : Program SessionRef := atomic fun memory =>
  match memory.entries.get? sessionId with
  | some (.object ref) => (memory, .ok ref)
  | some (.copy session) =>
      let (next, ref) := memory.create sessionId session
      (next, .ok ref)
  | none =>
      let (next, ref) := memory.create sessionId { sessionId := sessionId }
      (next, .ok ref)

/-- `SessionState(session_id=session_id)` -/
def newSession (sessionId : String) : Program SessionRef := atomic fun memory =>
  let (next, ref) := memory.create sessionId { sessionId := sessionId }
  (next, .ok ref)

def readSession (ref : SessionRef) : Program SessionState :=
  atomic fun memory => (memory, .ok (memory.objects ref))

def editSession (ref : SessionRef) (change : SessionState → SessionState) : Program Unit :=
  update fun memory => memory.write ref (change (memory.objects ref))

/-- `session.transition(newState)` -/
def transition (ref : SessionRef) (newState : ClarificationState) : Program Unit :=
  atomic fun memory =>
    match (memory.objects ref).transition newState with
    | .ok session => (memory.write ref session, .ok ())
    | .error error => (memory, .error error)

def kept (store : SessionBackend) (memory : Memory) (ref : SessionRef) : StoredSession :=
  match store with
  | .inMemory => .object ref
  | .valkey => .copy (memory.objects ref)

/-- `await self._sessions.set(session)` -/
def saveSession (store : SessionBackend) (ref : SessionRef) : Program Unit := update fun memory =>
  { memory with
    entries := memory.entries.set (memory.objects ref).sessionId (kept store memory ref) }

def Memory.expire (sessionId : String) (memory : Memory) : Memory :=
  { memory with entries := memory.entries.erase sessionId }

/-- The fields from the cache, or else from the file, which are then cached. -/
def loadedFields (fieldsFile : Except PyError (List JiraField)) (memory : Memory) :
    Memory × Except PyError (List JiraField) :=
  match memory.fields with
  | some fields => (memory, .ok fields)
  | none =>
      match fieldsFile with
      | .ok fields => ({ memory with fields := some fields }, .ok fields)
      | .error error => (memory, .error error)

/-- `JiraFieldsLoader.load_fields`; `fieldsFile` is what reading the file gives. -/
def loadFields (fieldsFile : Except PyError (List JiraField)) : Program (List JiraField) :=
  atomic (loadedFields fieldsFile)

def readOr {Value : Type} (fault : Option PyError) (read : Memory → Value) : Program Value :=
  atomic fun memory =>
    match fault with
    | some error => (memory, .error error)
    | none => (memory, .ok (read memory))

section Clarification

variable (orch : OrchestratorConfig) (env : ClarificationSide)

def getConvention (term : String) : Program (Option Convention) :=
  readOr (env.conventionsGet term) fun memory =>
    memory.conventions.get orch.tables instanceDefaultProject term

/-- `JsonFileConventionsStore.set`: memory first, then the file, in a thread of its own. -/
def setConvention (fault : Option PyError) (convention : Convention) : Program Unit := do
  update fun memory =>
    { memory with conventions := memory.conventions.remember orch.tables convention }
  outside (match fault with
    | some error => .error error
    | none => .ok ())
  update fun memory => { memory with conventions := memory.conventions.persist }

/-- The loop of `_resolve_and_learn`, at item number `index`. -/
def learnItems (ref : SessionRef) (path : AnswerPath) :
    Nat → List TermResolutionOutput → Program Unit
  | _, [] => pure ()
  | index, item :: rest => do
      editSession ref (recordResolution orch item)
      setConvention orch (env.conventionsSet path index)
        (learnedConvention orch (env.learnedAt path index) item)
      learnItems ref path (index + 1) rest

def resolveAndLearn (ref : SessionRef) (path : AnswerPath) (query : String) (terms : List String)
    (answer : String) : Program Unit := do
  let resolved ← outside (env.resolveAnswer path (resolveRequest orch query terms answer))
  learnItems orch env ref path 0 resolved.resolutions

/-- The loop of `_split_resolved` from the terms partitioned so far. -/
def splitResolvedFrom (ref : SessionRef) (active : ActiveTerms) (unresolved : List String) :
    List String → Program (ActiveTerms × List String)
  | [] => pure (active, unresolved)
  | term :: rest => do
      let session ← readSession ref
      match session.resolutions.get? term with
      | some resolution => splitResolvedFrom ref (active.set term resolution) unresolved rest
      | none => do
          match ← getConvention orch env term with
          | some convention =>
              splitResolvedFrom ref (active.set term (conventionResolution term convention))
                unresolved rest
          | none => splitResolvedFrom ref active (unresolved ++ [term]) rest

def splitResolved (ref : SessionRef) (terms : List String) : Program (ActiveTerms × List String) :=
  splitResolvedFrom orch env ref ∅ [] terms

end Clarification

section Dispatch

variable (orch : OrchestratorConfig) (store : SessionBackend) (backend : BackendSide)

def withReport (query : String) (response : QueryResponse) : Program QueryResponse :=
  if orch.settings.deliveryEnabled then do
    let id := reportId backend response.sessionId
    match backend.buildQueryReport query response >>= backend.deliver id with
    | .ok location =>
        outside (.ok { response with
          reportPath := some location
          viewUrl := orch.renderer.bind fun renderer => renderer.buildViewUrl id })
    | .error error =>
        if error.isOsOrNetra then
          outside (.ok { response with
            errors := response.errors ++ ["report not written: " ++ error.text] })
        else outside (.error error)
  else pure response

def showResult (showInUi : Bool) (jql : Option String) (errors : List String) :
    Program (Bool × List String) :=
  if showInUi then
    match truthyText jql with
    | some text => do
        let ack ← outside (backend.inject (text ++ " /raw"))
        if ack.accepted then pure (true, errors)
        else pure (false, errors ++
          ["chart not shown in UI: " ++ (truthyText ack.detail).getD "rejected"])
    | none => pure (false, errors ++ ["chart not shown in UI: no JQL was generated"])
  else pure (false, errors)

/-- The part of `_dispatch` after the backend has answered. -/
def respond (call : QueryCall) (query : String) (active : ActiveTerms) (errors : List String)
    (sessionId : String) : Except PyError LiteQueryResult → Program QueryResponse
  | .error (.liteBackend message) =>
      withReport orch backend query (failureResponse sessionId active errors message)
  | .error error => .raised error
  | .ok result =>
      if result.total = 0 then
        withReport orch backend query (zeroResponse sessionId active errors result)
      else do
        let (uiInjected, errors) ← showResult backend call.showInUi result.jql errors
        withReport orch backend query (resultResponse sessionId active errors uiInjected result)

def dispatch (ref : SessionRef) (call : QueryCall) (query : String) (active : ActiveTerms)
    (errors : List String) : Program QueryResponse := do
  transition ref .dispatched
  editSession ref clearPending
  saveSession store ref
  let answer ← outside (.ok (backend.query (enrichedQuery query active) call.limit))
  let session ← readSession ref
  respond orch backend call query active errors session.sessionId answer

end Dispatch

section HandleQuery

variable (orch : OrchestratorConfig) (store : SessionBackend)
variable (fieldsFile : Except PyError (List JiraField))
variable (call : QueryCall) (env : QueryEnvironment)

/-- The `try` block around the question: only `ClarificationError` is caught. -/
def attemptQuestion (query : String) (unresolved : List String) :
    Program (Except String ClarificationNeeded) :=
  catching PyError.clarification? do
    let conventions ← readOr env.clarification.conventionsList fun memory =>
      memory.conventions.listAll
    let fields ← loadFields fieldsFile
    outside (env.clarification.formulateQuestion
      { query := query
        terms := unresolved
        vocab := orch.vocab.entriesFor orch.tables unresolved
        conventions := conventions
        fields := fields.take orch.settings.maxFieldsInPrompt })

/-- `await elicit(needed.question) if elicit is not None else None`, as the
answer where it counts as one. -/
def elicitAnswer (question : String) : Program (Option String) :=
  match env.clarification.elicit with
  | none => pure none
  | some elicit => do
      let reply ← outside (elicit question)
      pure (truthyText reply)

def useElicited (ref : SessionRef) (query : String) (active : ActiveTerms)
    (unresolved : List String) (answer : String) : Program QueryResponse := do
  resolveAndLearn orch env.clarification ref .elicitation query unresolved answer
  let session ← readSession ref
  transition ref .resolved
  dispatch orch store env.backend ref call query
    (activateResolved session.resolutions active unresolved) []

def returnQuestion (ref : SessionRef) (query : String) (unresolved : List String)
    (question : String) : Program QueryResponse := do
  transition ref .awaitingClarification
  editSession ref (awaitAnswer query unresolved question)
  saveSession store ref
  pure (questionResponse call.sessionId question)

def clarify (ref : SessionRef) (query : String) (active : ActiveTerms)
    (unresolved : List String) : Program QueryResponse := do
  match ← attemptQuestion orch fieldsFile env query unresolved with
  | .error message =>
      dispatch orch store env.backend ref call query active [unavailableNotice message]
  | .ok needed => do
      editSession ref fun session =>
        { session with clarificationRounds := session.clarificationRounds + 1 }
      match ← elicitAnswer env needed.question with
      | some answer => useElicited orch store call env ref query active unresolved answer
      | none => returnQuestion store call ref query unresolved needed.question

/-- `handle_query` from the detection of terms on. -/
def detectAndDispatch (ref : SessionRef) (query : String) : Program QueryResponse := do
  let (active, unresolved) ←
    splitResolved orch env.clarification ref (detect orch.tables orch.vocab query)
  let session ← readSession ref
  if unresolved = [] then dispatch orch store env.backend ref call query active []
  else if session.clarificationRounds ≥ orch.settings.maxRounds then
    dispatch orch store env.backend ref call query active [exhaustedNotice unresolved]
  else clarify orch store fieldsFile call env ref query active unresolved

def resumeWithAnswer (ref : SessionRef) (session : SessionState) (answer : String) :
    Program QueryResponse := do
  let query := (truthyText session.pendingQuery).getD call.query
  resolveAndLearn orch env.clarification ref .roundTrip query session.pendingTerms answer
  transition ref .resolved
  detectAndDispatch orch store fieldsFile call env ref query

def handleQuery : Program QueryResponse := do
  let ref ← openSession call.sessionId
  let session ← readSession ref
  if session.state = .awaitingClarification then
    match truthyText call.clarificationAnswer with
    | some answer => resumeWithAnswer orch store fieldsFile call env ref session answer
    | none =>
        match repeatsQuestion call session with
        | some question => do
            saveSession store ref
            pure (questionResponse call.sessionId question)
        | none => do
            let fresh ← newSession call.sessionId
            detectAndDispatch orch store fieldsFile call env fresh call.query
  else detectAndDispatch orch store fieldsFile call env ref call.query

end HandleQuery

abbrev QueryJob := QueryCall × QueryEnvironment

abbrev QueryState := Threads Memory PyError QueryResponse String

abbrev QueryTurn := ThreadInput String QueryJob

def jobSession (job : QueryJob) : String := job.1.sessionId

def queryTurn (orch : OrchestratorConfig) (store : SessionBackend)
    (fieldsFile : Except PyError (List JiraField)) :
    QueryState → QueryTurn → QueryState × Option (Except PyError QueryResponse) :=
  threadStep jobSession (fun job => handleQuery orch store fieldsFile job.1 job.2) Memory.expire

end AtlasMindNetra.QueryThreads
