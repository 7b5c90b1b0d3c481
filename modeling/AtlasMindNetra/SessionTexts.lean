import AtlasMindNetra.BriefingOrchestrator
import AtlasMindNetra.DeliveredBriefings
import AtlasMindNetra.JsonWriting

/-!
# Sessions as texts

`model_dump_json` and `model_validate_json` of `SessionState` and
`BriefingPendingState`, which is how Valkey keeps them. The rows of a result are
passed through from the backend; how they are dumped is a parameter.
-/

namespace AtlasMindNetra.SessionTexts

open AtlasMindNetra.PythonValues AtlasMindNetra.ResponseModels AtlasMindNetra.JsonTrees
open AtlasMindNetra.JsonTexts AtlasMindNetra.JsonWriting AtlasMindNetra.SessionStore
open AtlasMindNetra.BriefingOrchestrator
open AtlasMindNetra.BriefingArchive (ModelValidation TakesOwnTypes)

set_option autoImplicit false

section Shapes

variable {Value : Type}

def readMember (text : Value → String) (members : List Value) : Json → Option Value
  | .str spelled => members.find? fun member => text member = spelled
  | _ => none

theorem member_read_back
    (text : Value → String)
    (members : List Value)
    (apart : ∀ left right, text left = text right → left = right)
    (value : Value)
    (known : value ∈ members) : readMember text members (.str (text value)) = some value := by
  have found : (members.find? fun member => text member = text value).isSome := by
    rw [List.find?_isSome]
    exact ⟨value, known, decide_eq_true rfl⟩
  obtain ⟨member, first⟩ := Option.isSome_iff_exists.mp found
  have same : text member = text value := by simpa using List.find?_some first
  rw [readMember, first, apart member value same]

def dumpDict (dump : Value → Json) (dict : OrderedDict String Value) : Json :=
  .obj (dict.entries.map fun entry => (entry.1, dump entry.2))

def readDict (read : Json → Option Value) : Json → Option (OrderedDict String Value)
  | .obj fields => do
      let entries ← fields.mapM fun field => (read field.2).map fun value => (field.1, value)
      pure (entries.foldl (fun dict entry => dict.set entry.1 entry.2) ∅)
  | _ => none

theorem entries_read_back
    (dump : Value → Json)
    (read : Json → Option Value)
    (entries : List (String × Value))
    (each : ∀ entry ∈ entries, read (dump entry.2) = some entry.2) :
    (entries.map fun entry => (entry.1, dump entry.2)).mapM
      (fun field => (read field.2).map fun value => (field.1, value)) = some entries := by
  induction entries with
  | nil => rfl
  | cons head rest ih =>
      rw [List.forall_mem_cons] at each
      rw [List.map_cons, List.mapM_cons, ih each.2, each.1]
      rfl

theorem dict_read_back
    (dump : Value → Json)
    (read : Json → Option Value)
    (dict : OrderedDict String Value)
    (each : ∀ value ∈ dict.values, read (dump value) = some value) :
    readDict read (dumpDict dump dict) = some dict := by
  have entries := entries_read_back dump read dict.entries fun entry member =>
    each entry.2 (List.mem_map_of_mem member)
  have filed := OrderedDict.entries_filed (fun entry : String × Value => entry.1) Prod.snd
    dict.entries dict.distinct
  simp only [readDict, dumpDict, entries]
  exact congrArg some (OrderedDict.ext_entries (filed.trans (List.map_id _)))

def dumpOptional (dump : Value → Json) : Option Value → Json
  | some value => dump value
  | none => .null

theorem optional_read_back
    (dump : Value → Json)
    (read : Json → Option Value)
    (object : ∀ value, ∃ fields, dump value = .obj fields)
    (each : ∀ value, read (dump value) = some value)
    (value : Option Value) : readOptional read (dumpOptional dump value) = some value := by
  cases value with
  | none => rfl
  | some inner =>
      obtain ⟨fields, dumped⟩ := object inner
      have read := each inner
      rw [dumped] at read
      simp only [dumpOptional, dumped, readOptional, read, Option.map_some]

variable {tables : Tables} {style : Style}

theorem dict_readable
    (room : Nat)
    (dump : Value → Json)
    (dict : OrderedDict String Value)
    (each : ∀ value ∈ dict.values, Readable tables style room (dump value)) :
    Readable tables style (room + 1) (dumpDict dump dict) := by
  apply object_readable
  · rw [List.map_map]
    exact dict.distinct
  · rw [List.map_map, List.forall_map_iff, List.forall_iff_forall_mem]
    intro entry member
    exact each entry.2 (List.mem_map_of_mem member)

end Shapes

def sourceText : ResolutionSource → String
  | .convention => "convention"
  | .clarification => "clarification"

def dumpResolution (resolution : TermResolution) : Json :=
  .obj [("term", .str resolution.term),
    ("resolution_key", .str resolution.resolutionKey),
    ("jql_hint", .str resolution.jqlHint),
    ("source", .str (sourceText resolution.source))]

def dumpSession (session : SessionState) : Json :=
  .obj [("session_id", .str session.sessionId),
    ("state", .str session.state.text),
    ("pending_query", Json.optionalStr session.pendingQuery),
    ("pending_terms", .arr (session.pendingTerms.map .str)),
    ("pending_question", Json.optionalStr session.pendingQuestion),
    ("clarification_rounds", .int session.clarificationRounds),
    ("resolutions", dumpDict dumpResolution session.resolutions)]

def dumpTopic (topic : AgendaTopic) : Json :=
  .obj [("topic_id", .str topic.topicId),
    ("description", .str topic.description),
    ("suggested_query", .str topic.suggestedQuery)]

def dumpChart (chart : ChartSpec) : Json :=
  .obj [("type", .str chart.type),
    ("x_field", Json.optionalStr chart.xField),
    ("y_field", Json.optionalStr chart.yField),
    ("title", Json.optionalStr chart.title),
    ("color_field", Json.optionalStr chart.colorField)]

def dumpApplied (convention : AppliedConvention) : Json :=
  .obj [("term", .str convention.term),
    ("jql_hint", .str convention.jqlHint),
    ("source", .str (sourceText convention.source))]

/-- How a row is dumped and validated, and how deep its document is nested. -/
structure RowFormat where
  dump : IssueRow → Json
  validate : Json → Option IssueRow
  depth : Nat

section Models

variable (rows : RowFormat)

def dumpQueryResponse (response : QueryResponse) : Json :=
  .obj [("session_id", .str response.sessionId),
    ("requires_user_input", .bool response.requiresUserInput),
    ("clarification_question", Json.optionalStr response.clarificationQuestion),
    ("answer", Json.optionalStr response.answer),
    ("jql", Json.optionalStr response.jql),
    ("total", .int response.total),
    ("shown", .int response.shown),
    ("display_fields", .arr (response.displayFields.map .str)),
    ("issues", .arr (response.issues.map rows.dump)),
    ("chart_spec", dumpOptional dumpChart response.chartSpec),
    ("ui_injected", .bool response.uiInjected),
    ("report_path", Json.optionalStr response.reportPath),
    ("view_url", Json.optionalStr response.viewUrl),
    ("applied_conventions", .arr (response.appliedConventions.map dumpApplied)),
    ("errors", .arr (response.errors.map .str))]

def dumpPending (pending : BriefingPendingState) : Json :=
  .obj [("session_id", .str pending.sessionId),
    ("agenda_text", .str pending.agendaText),
    ("topics", .arr (pending.topics.map dumpTopic)),
    ("current_topic_idx", .int pending.currentTopicIdx),
    ("completed_results", dumpDict (dumpQueryResponse rows) pending.completedResults)]

variable (validation : ModelValidation)

def readCount (document : Json) : Option Nat := do
  let number ← validation.toInt document
  if 0 ≤ number then pure number.toNat else none

def readSource : Json → Option ResolutionSource :=
  readMember sourceText [.convention, .clarification]

def readState : Json → Option ClarificationState :=
  readMember ClarificationState.text [.idle, .awaitingClarification, .resolved, .dispatched]

def validateResolution : Json → Option TermResolution
  | .obj fields => do
      let term ← requiredField "term" validation.toStr fields
      let resolutionKey ← requiredField "resolution_key" validation.toStr fields
      let jqlHint ← requiredField "jql_hint" validation.toStr fields
      let source ← requiredField "source" readSource fields
      pure { term := term, resolutionKey := resolutionKey, jqlHint := jqlHint, source := source }
  | _ => none

def validateSession : Json → Option SessionState
  | .obj fields => do
      let sessionId ← requiredField "session_id" validation.toStr fields
      let state ← defaultField "state" readState .idle fields
      let pendingQuery ← defaultField "pending_query" (readOptional validation.toStr) none fields
      let pendingTerms ← defaultField "pending_terms" (readList validation.toStr) [] fields
      let pendingQuestion ←
        defaultField "pending_question" (readOptional validation.toStr) none fields
      let clarificationRounds ← defaultField "clarification_rounds" (readCount validation) 0 fields
      let resolutions ←
        defaultField "resolutions" (readDict (validateResolution validation)) ∅ fields
      pure {
        sessionId := sessionId
        state := state
        pendingQuery := pendingQuery
        pendingTerms := pendingTerms
        pendingQuestion := pendingQuestion
        clarificationRounds := clarificationRounds
        resolutions := resolutions }
  | _ => none

def validateTopic : Json → Option AgendaTopic
  | .obj fields => do
      let topicId ← requiredField "topic_id" validation.toStr fields
      let description ← requiredField "description" validation.toStr fields
      let suggestedQuery ← requiredField "suggested_query" validation.toStr fields
      pure { topicId := topicId, description := description, suggestedQuery := suggestedQuery }
  | _ => none

def validateChart : Json → Option ChartSpec
  | .obj fields => do
      let type ← requiredField "type" validation.toStr fields
      let xField ← defaultField "x_field" (readOptional validation.toStr) none fields
      let yField ← defaultField "y_field" (readOptional validation.toStr) none fields
      let title ← defaultField "title" (readOptional validation.toStr) none fields
      let colorField ← defaultField "color_field" (readOptional validation.toStr) none fields
      pure {
        type := type
        xField := xField
        yField := yField
        title := title
        colorField := colorField }
  | _ => none

def validateApplied : Json → Option AppliedConvention
  | .obj fields => do
      let term ← requiredField "term" validation.toStr fields
      let jqlHint ← requiredField "jql_hint" validation.toStr fields
      let source ← requiredField "source" readSource fields
      pure { term := term, jqlHint := jqlHint, source := source }
  | _ => none

def validateQueryResponse : Json → Option QueryResponse
  | .obj fields => do
      let sessionId ← requiredField "session_id" validation.toStr fields
      let requiresUserInput ← defaultField "requires_user_input" validation.toBool false fields
      let clarificationQuestion ←
        defaultField "clarification_question" (readOptional validation.toStr) none fields
      let answer ← defaultField "answer" (readOptional validation.toStr) none fields
      let jql ← defaultField "jql" (readOptional validation.toStr) none fields
      let total ← defaultField "total" validation.toInt 0 fields
      let shown ← defaultField "shown" validation.toInt 0 fields
      let displayFields ← defaultField "display_fields" (readList validation.toStr) [] fields
      let issues ← defaultField "issues" (readList rows.validate) [] fields
      let chartSpec ←
        defaultField "chart_spec" (readOptional (validateChart validation)) none fields
      let uiInjected ← defaultField "ui_injected" validation.toBool false fields
      let reportPath ← defaultField "report_path" (readOptional validation.toStr) none fields
      let viewUrl ← defaultField "view_url" (readOptional validation.toStr) none fields
      let appliedConventions ←
        defaultField "applied_conventions" (readList (validateApplied validation)) [] fields
      let errors ← defaultField "errors" (readList validation.toStr) [] fields
      pure {
        sessionId := sessionId
        requiresUserInput := requiresUserInput
        clarificationQuestion := clarificationQuestion
        answer := answer
        jql := jql
        total := total
        shown := shown
        displayFields := displayFields
        issues := issues
        chartSpec := chartSpec
        uiInjected := uiInjected
        reportPath := reportPath
        viewUrl := viewUrl
        appliedConventions := appliedConventions
        errors := errors }
  | _ => none

def validatePending : Json → Option BriefingPendingState
  | .obj fields => do
      let sessionId ← requiredField "session_id" validation.toStr fields
      let agendaText ← requiredField "agenda_text" validation.toStr fields
      let topics ← requiredField "topics" (readList (validateTopic validation)) fields
      let currentTopicIdx ← defaultField "current_topic_idx" (readCount validation) 0 fields
      let completedResults ←
        defaultField "completed_results" (readDict (validateQueryResponse rows validation)) ∅ fields
      pure {
        sessionId := sessionId
        agendaText := agendaText
        topics := topics
        currentTopicIdx := currentTopicIdx
        completedResults := completedResults }
  | _ => none

section Validated

variable {rows validation} (takes : TakesOwnTypes validation)

include takes

theorem count_read_back (number : Nat) : readCount validation (.int number) = some number := by
  simp [readCount, takes.int]

omit takes in
theorem source_read_back (source : ResolutionSource) :
    readSource (.str (sourceText source)) = some source := by
  apply member_read_back
  · intro left right same
    cases left <;> cases right <;> first | rfl | exact absurd same (by decide)
  · cases source <;> decide

omit takes in
theorem state_read_back (state : ClarificationState) : readState (.str state.text) = some state := by
  apply member_read_back
  · intro left right same
    cases left <;> cases right <;> first | rfl | exact absurd same (by decide)
  · cases state <;> decide

theorem resolution_read_back (resolution : TermResolution) :
    validateResolution validation (dumpResolution resolution) = some resolution := by
  simp [dumpResolution, validateResolution, requiredField, field_cons, takes.str,
    source_read_back]

theorem session_read_back (session : SessionState) :
    validateSession validation (dumpSession session) = some session := by
  have query := read_optional_written session.pendingQuery validation.toStr takes.str
  have question := read_optional_written session.pendingQuestion validation.toStr takes.str
  have terms := read_list_written session.pendingTerms fun text _ => takes.str text
  have rounds := count_read_back takes session.clarificationRounds
  have resolutions := dict_read_back dumpResolution _ session.resolutions fun resolution _ =>
    resolution_read_back takes resolution
  simp [dumpSession, validateSession, requiredField, defaultField, field_cons, takes.str,
    state_read_back, query, question, terms, rounds, resolutions]

theorem topic_read_back (topic : AgendaTopic) :
    validateTopic validation (dumpTopic topic) = some topic := by
  simp [dumpTopic, validateTopic, requiredField, field_cons, takes.str]

theorem chart_read_back (chart : ChartSpec) :
    validateChart validation (dumpChart chart) = some chart := by
  have optional (text : Option String) := read_optional_written text validation.toStr takes.str
  simp [dumpChart, validateChart, requiredField, defaultField, field_cons, takes.str, optional]

theorem applied_read_back (convention : AppliedConvention) :
    validateApplied validation (dumpApplied convention) = some convention := by
  simp [dumpApplied, validateApplied, requiredField, field_cons, takes.str, source_read_back]

theorem response_read_back
    (response : QueryResponse)
    (passed : ∀ row ∈ response.issues, rows.validate (rows.dump row) = some row) :
    validateQueryResponse rows validation (dumpQueryResponse rows response) = some response := by
  have optional (text : Option String) := read_optional_written text validation.toStr takes.str
  have texts (texts : List String) := read_list_written texts fun text _ => takes.str text
  have issues := read_list_written response.issues passed
  have chart := optional_read_back dumpChart _ (fun chart => ⟨_, rfl⟩) (chart_read_back takes)
    response.chartSpec
  have applied := read_list_written response.appliedConventions fun convention _ =>
    applied_read_back takes convention
  simp [dumpQueryResponse, validateQueryResponse, requiredField, defaultField, field_cons,
    takes.str, takes.int, takes.bool, optional, texts, issues, chart, applied]

theorem pending_read_back
    (pending : BriefingPendingState)
    (passed : ∀ response ∈ pending.completedResults.values, ∀ row ∈ response.issues,
      rows.validate (rows.dump row) = some row) :
    validatePending rows validation (dumpPending rows pending) = some pending := by
  have topics := read_list_written pending.topics fun topic _ => topic_read_back takes topic
  have index := count_read_back takes pending.currentTopicIdx
  have results := dict_read_back (dumpQueryResponse rows) _ pending.completedResults
    fun response member => response_read_back takes response (passed response member)
  simp [dumpPending, validatePending, requiredField, defaultField, field_cons, takes.str,
    topics, index, results]

end Validated

section Readable

variable (tables : Tables) (style : Style)

/-- The row is validated to itself, and its document is within the limits. -/
structure KeptRow (row : IssueRow) : Prop where
  passed : rows.validate (rows.dump row) = some row
  readable : Readable tables style rows.depth (rows.dump row)

structure KeptResponse (response : QueryResponse) : Prop where
  total : ShortInt tables response.total
  shown : ShortInt tables response.shown
  rows : ∀ row ∈ response.issues, KeptRow rows tables style row

structure KeptPending (pending : BriefingPendingState) : Prop where
  index : ShortInt tables pending.currentTopicIdx
  results : ∀ response ∈ pending.completedResults.values, KeptResponse rows tables style response

variable {rows tables style}

theorem session_readable
    (session : SessionState)
    (rounds : ShortInt tables session.clarificationRounds) :
    Readable tables style 3 (dumpSession session) := by
  have resolution (resolution : TermResolution) :
      Readable tables style 1 (dumpResolution resolution) := by
    apply object_readable
    · simp
    · simp [Readable.str]
  have resolutions := dict_readable 1 dumpResolution session.resolutions fun inner _ =>
    resolution inner
  apply object_readable
  · simp
  · simp [Readable.str, optional_readable, texts_readable, resolutions, Readable.int _ _ rounds]

theorem response_readable
    (response : QueryResponse)
    (kept : KeptResponse rows tables style response) :
    Readable tables style (rows.depth + 3) (dumpQueryResponse rows response) := by
  have chart : Readable tables style (rows.depth + 2) (dumpOptional dumpChart response.chartSpec) := by
    cases response.chartSpec with
    | none => exact Readable.null _
    | some chart =>
        apply object_readable
        · simp
        · simp [Readable.str, optional_readable]
  have applied := array_readable (rows.depth + 1) response.appliedConventions dumpApplied
    fun convention _ => (by
      apply object_readable
      · simp
      · simp [Readable.str] : Readable tables style (rows.depth + 1) (dumpApplied convention))
  have issues := array_readable (rows.depth + 1) response.issues rows.dump fun row member =>
    readable_deeper rows.depth 1 _ (kept.rows row member).readable
  apply object_readable
  · simp
  · simp [Readable.str, Readable.bool, optional_readable, texts_readable, chart, applied, issues,
      Readable.int _ _ kept.total, Readable.int _ _ kept.shown]

theorem pending_readable
    (pending : BriefingPendingState)
    (kept : KeptPending rows tables style pending) :
    Readable tables style (rows.depth + 5) (dumpPending rows pending) := by
  have topics := array_readable (rows.depth + 3) pending.topics dumpTopic fun topic _ => (by
      apply object_readable
      · simp
      · simp [Readable.str] : Readable tables style (rows.depth + 3) (dumpTopic topic))
  have results := dict_readable (rows.depth + 3) (dumpQueryResponse rows) pending.completedResults
    fun response member => response_readable response (kept.results response member)
  apply object_readable
  · simp
  · simp [Readable.str, topics, results, Readable.int _ _ kept.index]

end Readable

end Models

end AtlasMindNetra.SessionTexts
