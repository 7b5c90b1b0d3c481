import AtlasMindNetra.ConfluenceResearch
import AtlasMindNetra.JsonTrees

/-!
# Stored briefings

The JSON sidecar of a briefing: `_store_briefing_json`, `get_briefing_report`
and `_is_safe_report_id` of `core/briefing_orchestrator.py`, and the pattern of
`serve_report` in `server.py`. Of `models/responses.py` it has what
`model_dump` writes and `model_validate` reads.

The JSON library is a parameter, and so are pydantic's conversions of scalars
and the text of its complaints.
-/

namespace AtlasMindNetra.BriefingArchive

open AtlasMindNetra.PythonValues AtlasMindNetra.ResponseModels AtlasMindNetra.JsonTrees
open AtlasMindNetra.BriefingOrchestrator
open AtlasMindNetra.ConfluenceResearch (containsText)

set_option autoImplicit false

/-- `json.dumps(_, indent=2)`, and `json.loads`. -/
structure JsonLibrary where
  dumps : Json → String
  loads : String → Except LoadError Json

/-- The scalars of `model_validate`, and the text of a `ValidationError`. -/
structure ModelValidation where
  toStr : Json → Option String
  toInt : Json → Option Int
  toBool : Json → Option Bool
  toScore : Json → Option Int
  complaint : Json → String

def dumpCitation (citation : Citation) : Json :=
  .obj [("issue_key", .str citation.issueKey),
    ("comment_id", Json.optionalStr citation.commentId)]

def dumpReference (reference : ConfluenceReference) : Json :=
  .obj [("page_id", .str reference.pageId),
    ("page_title", .str reference.pageTitle),
    ("cql_excerpt", .str reference.cqlExcerpt),
    ("relevant_passage", .str reference.relevantPassage)]

def dumpAnalysis (analysis : BlockerAnalysis) : Json :=
  .obj [("issue_key", .str analysis.issueKey),
    ("summary", .str analysis.summary),
    ("blocked_reason", .str analysis.blockedReason),
    ("days_blocked", .int analysis.daysBlocked),
    ("owner", .str analysis.owner),
    ("priority", Json.optionalStr analysis.priority),
    ("dependent_issues", .arr (analysis.dependentIssues.map .str)),
    ("due_date", Json.optionalStr analysis.dueDate),
    ("flagged", .bool analysis.flagged),
    ("suggested_resolution", .str analysis.suggestedResolution),
    ("mitigation", .str analysis.mitigation),
    ("risk_note", .str analysis.riskNote),
    ("evidence", .arr (analysis.evidence.map dumpCitation)),
    ("score", .float analysis.score),
    ("confluence_refs", .arr (analysis.confluenceRefs.map dumpReference))]

def dumpSection (topic : BriefingSection) : Json :=
  .obj [("topic_id", .str topic.topicId),
    ("description", .str topic.description),
    ("query_used", Json.optionalStr topic.queryUsed),
    ("jql", Json.optionalStr topic.jql),
    ("top_issues", .arr (topic.topIssues.map dumpAnalysis)),
    ("total_found", .int topic.totalFound),
    ("errors", .arr (topic.errors.map .str))]

section Validation

variable (validation : ModelValidation)

def validateCitation : Json → Option Citation
  | .obj fields => do
      let issueKey ← requiredField "issue_key" validation.toStr fields
      let commentId ← defaultField "comment_id" (readOptional validation.toStr) none fields
      pure { issueKey := issueKey, commentId := commentId }
  | _ => none

def validateReference : Json → Option ConfluenceReference
  | .obj fields => do
      let pageId ← requiredField "page_id" validation.toStr fields
      let pageTitle ← requiredField "page_title" validation.toStr fields
      let cqlExcerpt ← defaultField "cql_excerpt" validation.toStr "" fields
      let relevantPassage ← defaultField "relevant_passage" validation.toStr "" fields
      pure {
        pageId := pageId
        pageTitle := pageTitle
        cqlExcerpt := cqlExcerpt
        relevantPassage := relevantPassage }
  | _ => none

def validateAnalysis : Json → Option BlockerAnalysis
  | .obj fields => do
      let issueKey ← requiredField "issue_key" validation.toStr fields
      let summary ← requiredField "summary" validation.toStr fields
      let blockedReason ← requiredField "blocked_reason" validation.toStr fields
      let daysBlocked ← requiredField "days_blocked" validation.toInt fields
      let owner ← requiredField "owner" validation.toStr fields
      let priority ← defaultField "priority" (readOptional validation.toStr) none fields
      let dependentIssues ← defaultField "dependent_issues" (readList validation.toStr) [] fields
      let dueDate ← defaultField "due_date" (readOptional validation.toStr) none fields
      let flagged ← defaultField "flagged" validation.toBool false fields
      let suggestedResolution ← requiredField "suggested_resolution" validation.toStr fields
      let mitigation ← requiredField "mitigation" validation.toStr fields
      let riskNote ← requiredField "risk_note" validation.toStr fields
      let evidence ← defaultField "evidence" (readList (validateCitation validation)) [] fields
      let score ← defaultField "score" validation.toScore 0 fields
      let confluenceRefs ←
        defaultField "confluence_refs" (readList (validateReference validation)) [] fields
      pure {
        issueKey := issueKey
        summary := summary
        blockedReason := blockedReason
        daysBlocked := daysBlocked
        owner := owner
        priority := priority
        dependentIssues := dependentIssues
        dueDate := dueDate
        flagged := flagged
        suggestedResolution := suggestedResolution
        mitigation := mitigation
        riskNote := riskNote
        evidence := evidence
        score := score
        confluenceRefs := confluenceRefs }
  | _ => none

def validateSection : Json → Option BriefingSection
  | .obj fields => do
      let topicId ← requiredField "topic_id" validation.toStr fields
      let description ← requiredField "description" validation.toStr fields
      let queryUsed ← defaultField "query_used" (readOptional validation.toStr) none fields
      let jql ← defaultField "jql" (readOptional validation.toStr) none fields
      let topIssues ← defaultField "top_issues" (readList (validateAnalysis validation)) [] fields
      let totalFound ← defaultField "total_found" validation.toInt 0 fields
      let errors ← defaultField "errors" (readList validation.toStr) [] fields
      pure {
        topicId := topicId
        description := description
        queryUsed := queryUsed
        jql := jql
        topIssues := topIssues
        totalFound := totalFound
        errors := errors }
  | _ => none

end Validation

/-- The files of the output directory by name. A file that is not UTF-8 is the
text of the `UnicodeDecodeError` that reading it raises. -/
abbrev ReportDirectory := OrderedDict String (Except String String)

def sidecarName (reportId : String) : String := reportId ++ ".json"

def markdownName (reportId : String) : String := reportId ++ ".md"

def reportDocument (reportId : String) (sections : List BriefingSection) : Json :=
  .obj [("report_id", .str reportId), ("sections", .arr (sections.map dumpSection))]

/-- `_store_briefing_json`; the write raises the fault, or succeeds without one. -/
def writeSidecar (library : JsonLibrary) (fault : Option PyError) (files : ReportDirectory)
    (reportId : String) (sections : List BriefingSection) : Except PyError ReportDirectory :=
  match fault with
  | some error => .error error
  | none =>
      .ok (files.set (sidecarName reportId) (.ok (library.dumps (reportDocument reportId sections))))

/-- The collaborators of a briefing whose sidecar goes to `files`. -/
def withSidecar (library : JsonLibrary) (fault : Option PyError) (files : ReportDirectory)
    (env : PipelineSide) : PipelineSide :=
  { env with
    storeBriefingJson := fun reportId sections =>
      (writeSidecar library fault files reportId sections).map fun _ => () }

/-- `[A-Za-z0-9_-]` -/
def isReportIdChar (char : Char) : Bool := char.isAlphanum || char == '_' || char == '-'

/-- `_REPORT_ID_RE.match`: its `$` also matches before a line break at the end. -/
def matchesReportId (reportId : String) : Bool :=
  let chars := reportId.toList
  let body := if chars.getLast? = some '\n' then chars.dropLast else chars
  decide (1 ≤ body.length) && decide (body.length ≤ 128) && body.all isReportIdChar

def isSafeReportId (reportId : String) : Bool :=
  if reportId = "" ∨ 128 < reportId.length then false
  else if containsText "/" reportId || containsText "\\" reportId || containsText ".." reportId then
    false
  else matchesReportId reportId

/-- The pattern of `serve_report`, in full: `[A-Za-z0-9_][A-Za-z0-9_-]{0,79}`. -/
def servesReportId (reportId : String) : Bool :=
  match reportId.toList with
  | [] => false
  | first :: rest =>
      (first.isAlphanum || first == '_') && decide (rest.length ≤ 79) && rest.all isReportIdChar

structure ReportResponse where
  reportId : String
  sections : List BriefingSection := []
  reportPath : Option String := none
  viewUrl : Option String := none
  errors : List String := []
  deriving DecidableEq

structure ArchiveSide where
  library : JsonLibrary
  validation : ModelValidation
  /-- `str(output_dir / name)` -/
  pathText : String → String
  /-- the text of an `OSError` that `read_text` raises -/
  readFault : Option String := none
  /-- `repr(text)` -/
  reprText : String → String

/-- `data.get("sections", [])` of a document, validated. -/
def sectionsOf (side : ArchiveSide) : Json → Except PyError (Except String (List BriefingSection))
  | .obj fields =>
      let sections := (fieldOf "sections" fields).getD (.arr [])
      match sections.iterated with
      | none => .error (.other ("'" ++ sections.typeName ++ "' object is not iterable"))
      | some items =>
          match items.mapM (validateSection side.validation) with
          | some sections => .ok (.ok sections)
          | none => .ok (.error (side.validation.complaint (.arr items)))
  | document => .error (.other ("'" ++ document.typeName ++ "' object has no attribute 'get'"))

/-- What the body of the `try` makes of a file's content: the sections, the text
of an error that is caught, or an error that is not. -/
def readSections (side : ArchiveSide) (content : Except String String) :
    Except PyError (Except String (List BriefingSection)) :=
  match side.readFault, content with
  | some message, _ | none, .error message => .ok (.error message)
  | none, .ok text =>
      match side.library.loads text with
      | .error (.decode message) | .error (.digits message) => .ok (.error message)
      | .error (.recursion message) => .error (.other message)
      | .ok document => sectionsOf side document

/-- `BriefingOrchestrator.get_briefing_report`, without the session id, which it
does not use. -/
def getBriefingReport (side : ArchiveSide) (settings : BriefingSettings) (files : ReportDirectory)
    (reportId : String) : Except PyError ReportResponse :=
  if isSafeReportId reportId = false then
    .error (.other ("report_id contains unsafe characters: " ++ side.reprText reportId))
  else
    let reportPath :=
      if files.contains (markdownName reportId) then some (side.pathText (markdownName reportId))
      else none
    match files.get? (sidecarName reportId) with
    | none =>
        .ok {
          reportId := reportId
          reportPath := reportPath
          errors :=
            ["report JSON not found; this may be a query_jira report, not a briefing"] }
    | some content =>
        match readSections side content with
        | .error error => .error error
        | .ok (.error message) =>
            .ok { reportId := reportId, errors := ["report could not be read: " ++ message] }
        | .ok (.ok sections) =>
            .ok {
              reportId := reportId
              sections := sections
              reportPath := reportPath
              viewUrl := briefingViewUrl settings reportId }

end AtlasMindNetra.BriefingArchive
