import AtlasMindNetra.EffectRules
import AtlasMindNetra.Orchestrator

/-!
# The briefing pipeline

`BriefingOrchestrator.generate_briefing` of `core/briefing_orchestrator.py`:
decompose the agenda, query topic after topic, stop at the first question, and
once all topics are complete analyse, rank and deliver. The query handler is a
parameter with a state of its own, because the handler keeps sessions between
calls; the other collaborators are given by what they do in one call.
-/

namespace AtlasMindNetra.BriefingOrchestrator

open AtlasMindNetra.PythonValues AtlasMindNetra.ResponseModels AtlasMindNetra.EffectRules
open AtlasMindNetra.Orchestrator (QueryCall sessionSlug)

set_option autoImplicit false

/-- In-flight state of a multi-turn `generate_briefing` call. -/
structure BriefingPendingState where
  sessionId : String
  agendaText : String
  topics : List AgendaTopic
  currentTopicIdx : Nat := 0
  completedResults : OrderedDict String QueryResponse := ∅
  deriving DecidableEq

/-- The live pending states, by session. -/
abbrev BriefingTable := OrderedDict String BriefingPendingState

/-- The limits are read as non-negative numbers. -/
structure BriefingSettings where
  topN : Nat := 5
  issuesPerTopic : Int := 50
  maxAnalysedIssues : Nat := 30
  commentsLimitDefault : Int := 20
  viewUrlBase : Option String := none
  deliveryEnabled : Bool := true

/-- Asks the user one question mid-call; `none` when there is no answer. -/
abbrev ElicitFn := String → Except PyError (Option String)

/-- The arguments of one `generate_briefing` call. -/
structure BriefingCall where
  agendaText : String
  sessionId : String
  projects : List String := []
  clarificationAnswer : Option String := none
  elicit : Option ElicitFn := none
  forceRefresh : Bool := false

/-- Confluence pages by issue key. -/
abbrev ConfluenceRefs := OrderedDict String (List ConfluenceReference)

structure ResearchRequest where
  topics : List AgendaTopic
  completed : OrderedDict String QueryResponse
  jiraKeys : List String
  forceRefresh : Bool

structure AnalyseRequest where
  details : IssueDetailsResponse
  keys : List String
  summaries : Option (OrderedDict String String)
  confluenceRefs : Option ConfluenceRefs
  forceRefresh : Bool

/-- What follows after the last topic of a call; `research` is absent when
Confluence is not configured. -/
structure PipelineSide where
  research : Option (ResearchRequest → Except PyError ConfluenceRefs) := none
  getIssueDetails : List String → Int → Except PyError IssueDetailsResponse
  analyse : AnalyseRequest → Except PyError (List BlockerAnalysis)
  rank : List BlockerAnalysis → Nat → Except PyError (List BlockerAnalysis)
  buildBriefingReport : String → List BriefingSection → String → Except PyError String
  deliver : String → String → Except PyError String
  storeBriefingJson : String → List BriefingSection → Except PyError Unit
  reportStamp : String := ""
  reportNonce : String := ""

/-- What the collaborators do in one call: the query handler's side once for
each topic it is asked about. -/
structure BriefingEnvironment (Env : Type) where
  decompose : String → List String → Except PyError (List AgendaTopic)
  handlerSide : Nat → Env
  pipeline : PipelineSide

/-- One call of the query handler. -/
structure TopicQuery where
  index : Nat
  topic : AgendaTopic
  call : QueryCall
  outcome : Except PyError QueryResponse

/-- The stores, and the local variables of one call with its query trace. -/
structure BriefingState (Handler : Type) where
  handler : Handler
  pendings : BriefingTable
  completed : OrderedDict String QueryResponse
  errors : List String
  queried : List TopicQuery

abbrev BriefingEffect (Handler Value : Type) := EStateM PyError (BriefingState Handler) Value

/-- `issue.get(lower) or issue.get(upper, "")` where it counts as true, as text. -/
def issueText (issue : IssueRow) (lower upper : String) : Option String :=
  match (issue.get? lower).filter JsonValue.truthy with
  | some value => some value.render
  | none => ((issue.get? upper).filter JsonValue.truthy).map JsonValue.render

def issueKey (issue : IssueRow) : Option String := issueText issue "key" "Key"

def topicKeys (completed : OrderedDict String QueryResponse) (topic : AgendaTopic) : List String :=
  match completed.get? topic.topicId with
  | some result => result.issues.filterMap issueKey
  | none => []

/-- `topic_keys`, keyed by topic id. -/
def keysByTopic (completed : OrderedDict String QueryResponse) (topics : List AgendaTopic) :
    OrderedDict String (List String) :=
  topics.foldl (fun table topic => table.set topic.topicId (topicKeys completed topic)) ∅

def addSummaries (summaries : OrderedDict String String) (issues : List IssueRow) :
    OrderedDict String String :=
  issues.foldl (fun summaries issue =>
    match issueKey issue, issueText issue "summary" "Summary" with
    | some key, some summary => summaries.set key summary
    | _, _ => summaries) summaries

def issueSummaries (completed : OrderedDict String QueryResponse) (topics : List AgendaTopic) :
    OrderedDict String String :=
  topics.foldl (fun summaries topic =>
    match completed.get? topic.topicId with
    | some result => addSummaries summaries result.issues
    | none => summaries) ∅

def distinctKeys (completed : OrderedDict String QueryResponse) (topics : List AgendaTopic) :
    List String :=
  (OrderedDict.fromKeys (topics.flatMap (topicKeys completed))).keys

def droppedCount (kept keys : List String) : Nat := (keys.filter fun key => key ∉ kept).length

def cappedTopicError (topicId : String) (dropped cap : Nat) : String :=
  s!"[{topicId}] all {dropped} issue(s) skipped - max_analysed_issues cap ({cap}) " ++
    "reached before this topic."

def cappedSectionError (dropped cap : Nat) : String :=
  s!"{dropped} issue(s) dropped from this topic due to max_analysed_issues cap ({cap}); " ++
    "results are partial."

/-- `dropped_keys_per_topic`; nothing is dropped while the cap is not exceeded. -/
def droppedPerTopic (cap : Nat) (allKeys : List String) (table : OrderedDict String (List String)) :
    OrderedDict String Nat :=
  if cap < allKeys.length then
    table.entries.foldl (fun dropped entry =>
      let count := droppedCount (allKeys.take cap) entry.2
      if count = 0 then dropped else dropped.set entry.1 count) ∅
  else ∅

def skippedTopicErrors (cap : Nat) (allKeys : List String)
    (table : OrderedDict String (List String)) : List String :=
  if cap < allKeys.length then
    table.entries.filterMap fun entry =>
      let count := droppedCount (allKeys.take cap) entry.2
      if count ≠ 0 ∧ count = entry.2.length then some (cappedTopicError entry.1 count cap) else none
  else []

/-- `get_issue_details`, and what a failure adds to the errors. -/
def fetchDetails (settings : BriefingSettings) (env : PipelineSide) (keys : List String) :
    Except PyError (IssueDetailsResponse × List String) :=
  if keys = [] then .ok ({}, [])
  else
    match env.getIssueDetails keys settings.commentsLimitDefault with
    | .ok details =>
        match truthyText details.error with
        | some message => .ok (details, ["issue_details error: " ++ message])
        | none => .ok (details, [])
    | .error (.liteBackend message) | .error (.os message) =>
        .ok ({}, ["issue_details fetch failed: " ++ message])
    | .error error => .error error

def analyseIssues (env : PipelineSide) (request : AnalyseRequest) :
    Except PyError (List BlockerAnalysis × List String) :=
  if request.keys = [] then .ok ([], [])
  else
    match env.analyse request with
    | .ok analyses => .ok (analyses, [])
    | .error (.analysis message) => .ok ([], ["issue analysis failed: " ++ message])
    | .error error => .error error

/-- `analysis_map`: the last analysis for a key counts. -/
def analysisMap (analyses : List BlockerAnalysis) : OrderedDict String BlockerAnalysis :=
  analyses.foldl (fun table analysis => table.set analysis.issueKey analysis) ∅

def sectionErrors (cap : Nat) (result : Option QueryResponse) (dropped : Option Nat) :
    List String :=
  (match result with
    | some response => response.errors
    | none => []) ++
  match dropped with
    | some count => if count = 0 then [] else [cappedSectionError count cap]
    | none => []

def buildSection (settings : BriefingSettings) (env : PipelineSide)
    (completed : OrderedDict String QueryResponse) (table : OrderedDict String (List String))
    (dropped : OrderedDict String Nat) (analyses : OrderedDict String BlockerAnalysis)
    (topic : AgendaTopic) : Except PyError BriefingSection := do
  let result := completed.get? topic.topicId
  let keys := (table.get? topic.topicId).getD []
  let ranked ← env.rank (keys.filterMap analyses.get?) settings.topN
  pure {
    topicId := topic.topicId
    description := topic.description
    queryUsed := some topic.suggestedQuery
    jql := result.bind QueryResponse.jql
    topIssues := ranked
    totalFound := (result.map QueryResponse.total).getD 0
    errors := sectionErrors settings.maxAnalysedIssues result (dropped.get? topic.topicId) }

/-- `value or None` for a dictionary. -/
def nonEmptyDict {Value : Type} (dict : OrderedDict String Value) :
    Option (OrderedDict String Value) :=
  if dict.entries.isEmpty then none else some dict

/-- `_build_sections`: the sections, and the errors it appends to the list it is given. -/
def buildSections (settings : BriefingSettings) (env : PipelineSide) (topics : List AgendaTopic)
    (completed : OrderedDict String QueryResponse) (refs : ConfluenceRefs) (forceRefresh : Bool) :
    Except PyError (List BriefingSection × List String) := do
  let table := keysByTopic completed topics
  let allKeys := distinctKeys completed topics
  let cap := settings.maxAnalysedIssues
  let kept := allKeys.take cap
  let (details, detailErrors) ← fetchDetails settings env kept
  let (analyses, analysisErrors) ← analyseIssues env
    { details := details
      keys := kept
      summaries := nonEmptyDict (issueSummaries completed topics)
      confluenceRefs := nonEmptyDict refs
      forceRefresh := forceRefresh }
  let sections ← topics.mapM (buildSection settings env completed table
    (droppedPerTopic cap allKeys table) (analysisMap analyses))
  pure (sections, skippedTopicErrors cap allKeys table ++ detailErrors ++ analysisErrors)

def makeReportId (env : PipelineSide) (sessionId : String) : String :=
  "briefing_" ++ env.reportStamp ++ "_" ++ sessionSlug sessionId ++ "_" ++ env.reportNonce

/-- Delivery and the JSON sidecar: the path, and what failures add to the errors. -/
def deliverBriefing (settings : BriefingSettings) (env : PipelineSide) (reportId content : String)
    (sections : List BriefingSection) : Except PyError (Option String × List String) :=
  if settings.deliveryEnabled then
    match env.deliver reportId content with
    | .ok location =>
        match env.storeBriefingJson reportId sections with
        | .ok _ => .ok (some location, [])
        | .error (.os message) =>
            .ok (some location, ["report JSON sidecar not written: " ++ message])
        | .error error => .error error
    | .error error =>
        if error.isOsOrNetra then .ok (none, ["report not written: " ++ error.text])
        else .error error
  else .ok (none, [])

/-- `base.rstrip("/")` -/
def stripSlashes (text : String) : String :=
  String.ofList (text.toList.reverse.dropWhile (· == '/')).reverse

def briefingViewUrl (settings : BriefingSettings) (reportId : String) : Option String :=
  (truthyText settings.viewUrlBase).map fun base => stripSlashes base ++ "/" ++ reportId

/-- A failing research counts as one that found nothing. -/
def confluenceRefs (env : PipelineSide) (topics : List AgendaTopic)
    (completed : OrderedDict String QueryResponse) (forceRefresh : Bool) : ConfluenceRefs :=
  match env.research with
  | none => ∅
  | some research =>
      match research
        { topics := topics
          completed := completed
          jiraKeys := completed.values.flatMap fun result => result.issues.filterMap issueKey
          forceRefresh := forceRefresh } with
      | .ok refs => refs
      | .error _ => ∅

/-- Everything from the deletion of the pending state to the response. `errors`
are those of the topics completed in this call. -/
def concludeBriefing (settings : BriefingSettings) (env : PipelineSide) (call : BriefingCall)
    (pending : BriefingPendingState) (completed : OrderedDict String QueryResponse)
    (errors : List String) : Except PyError BriefingResponse := do
  let refs := confluenceRefs env pending.topics completed call.forceRefresh
  let (sections, sectionErrors) ←
    buildSections settings env pending.topics completed refs call.forceRefresh
  let reportId := makeReportId env call.sessionId
  let content ← env.buildBriefingReport pending.agendaText sections call.sessionId
  let (reportPath, deliveryErrors) ← deliverBriefing settings env reportId content sections
  pure {
    reportId := reportId
    sessionId := call.sessionId
    sections := sections
    reportPath := reportPath
    viewUrl := briefingViewUrl settings reportId
    errors := errors ++ sectionErrors ++ deliveryErrors }

section Loop

variable {Handler Env : Type}
variable (handle : Handler → QueryCall → Option ElicitFn → Env →
  Handler × Except PyError QueryResponse)
variable (settings : BriefingSettings) (env : BriefingEnvironment Env) (call : BriefingCall)

def topicSessionId (sessionId topicId : String) : String := sessionId ++ "__topic_" ++ topicId

theorem topic_session_id_inj
    (sessionId first second : String)
    (same : topicSessionId sessionId first = topicSessionId sessionId second) : first = second :=
  (String.append_right_inj _).mp same

def topicCall (topic : AgendaTopic) (answer : Option String) : QueryCall where
  query := topic.suggestedQuery
  sessionId := topicSessionId call.sessionId topic.topicId
  clarificationAnswer := answer
  limit := some settings.issuesPerTopic

/-- `await self._query_handler.handle_query(...)` -/
def askHandler (index : Nat) (topic : AgendaTopic) (answer : Option String) :
    BriefingEffect Handler QueryResponse := do
  let st ← get
  let query := topicCall settings call topic answer
  let (next, outcome) := handle st.handler query call.elicit (env.handlerSide index)
  modify fun st =>
    { st with
      handler := next
      queried := st.queried ++
        [{ index := index, topic := topic, call := query, outcome := outcome }] }
  fromOutcome outcome

def topicErrors (topic : AgendaTopic) (result : QueryResponse) : List String :=
  result.errors.map fun error => "[" ++ topic.topicId ++ "] " ++ error

def completeTopic (topic : AgendaTopic) (result : QueryResponse) : BriefingEffect Handler Unit :=
  modify fun st =>
    { st with
      completed := st.completed.set topic.topicId result
      errors := st.errors ++ topicErrors topic result }

def savePending (pending : BriefingPendingState) : BriefingEffect Handler Unit :=
  modify fun st => { st with pendings := st.pendings.set pending.sessionId pending }

def pendingResponse (topic : AgendaTopic) (question : Option String) : BriefingResponse where
  reportId := "pending_" ++ call.sessionId
  sessionId := call.sessionId
  requiresUserInput := true
  clarificationQuestion := question
  pendingTopicId := some topic.topicId

/-- The loop over the topics from number `index` on, up to the first question. -/
def queryTopics (pending : BriefingPendingState) :
    Nat → List AgendaTopic → BriefingEffect Handler (Option BriefingResponse)
  | _, [] => pure none
  | index, topic :: rest => do
      -- The answer goes to the topic whose question is pending.
      let answer := if index = pending.currentTopicIdx then call.clarificationAnswer else none
      let result ← askHandler handle settings env call index topic answer
      if result.requiresUserInput then
        let st ← get
        savePending { pending with currentTopicIdx := index, completedResults := st.completed }
        pure (some (pendingResponse call topic result.clarificationQuestion))
      else
        completeTopic topic result
        queryTopics pending (index + 1) rest

def continueBriefing (pending : BriefingPendingState) : BriefingEffect Handler BriefingResponse := do
  modify fun st => { st with completed := pending.completedResults }
  match ← queryTopics handle settings env call pending pending.currentTopicIdx
      (pending.topics.drop pending.currentTopicIdx) with
  | some question => pure question
  | none => do
      modify fun st => { st with pendings := st.pendings.erase call.sessionId }
      let st ← get
      fromOutcome
        (concludeBriefing settings env.pipeline call pending st.completed st.errors)

def failedResponse (message : String) : BriefingResponse where
  reportId := "failed_" ++ call.sessionId
  sessionId := call.sessionId
  errors := ["agenda decomposition failed: " ++ message]

def emptyResponse : BriefingResponse where
  reportId := "empty_" ++ call.sessionId
  sessionId := call.sessionId
  errors := ["no data questions could be extracted from the agenda"]

def generateBriefing : BriefingEffect Handler BriefingResponse := do
  let st ← get
  match st.pendings.get? call.sessionId with
  | some pending => continueBriefing handle settings env call pending
  | none =>
      match env.decompose call.agendaText call.projects with
      | .error (.decomposition message) => pure (failedResponse call message)
      | .error error => throw error
      | .ok [] => pure (emptyResponse call)
      | .ok topics =>
          continueBriefing handle settings env call
            { sessionId := call.sessionId, agendaText := call.agendaText, topics := topics }

structure BriefingWorld (Handler : Type) where
  handler : Handler
  pendings : BriefingTable := ∅

structure BriefingRecord where
  outcome : Except PyError BriefingResponse
  queried : List TopicQuery

def BriefingState.start (world : BriefingWorld Handler) : BriefingState Handler where
  handler := world.handler
  pendings := world.pendings
  completed := ∅
  errors := []
  queried := []

def BriefingState.close (final : BriefingState Handler) : BriefingWorld Handler where
  handler := final.handler
  pendings := final.pendings

def briefingStep (world : BriefingWorld Handler) (call : BriefingCall)
    (env : BriefingEnvironment Env) : BriefingWorld Handler × BriefingRecord :=
  match generateBriefing handle settings env call (BriefingState.start world) with
  | .ok response final => (final.close, { outcome := .ok response, queried := final.queried })
  | .error error final => (final.close, { outcome := .error error, queried := final.queried })

end Loop

end AtlasMindNetra.BriefingOrchestrator
