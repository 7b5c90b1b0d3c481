import AtlasMindNetra.ResponseModels
import AtlasMindNetra.LineRules

/-!
# The briefing report

`build_briefing_report` of `core/report_synthesiser.py` and what it calls. The
time stamp of a report is an argument. The report of a single query is not part
of this module.
-/

namespace AtlasMindNetra.ReportSynthesiser

open AtlasMindNetra.PythonValues AtlasMindNetra.ResponseModels AtlasMindNetra.LineRules

set_option autoImplicit false

/-- `text.replace(old, new)` for one character. -/
def replaceChar (old : Char) (new text : String) : String :=
  String.ofList (text.toList.flatMap fun char => if char = old then new.toList else [char])

/-- `_cell`: a single line, pipes escaped. -/
def cell (value : String) : String :=
  replaceChar '|' "\\|" (replaceChar '\n' " " (replaceChar '\r' " " value))

/-- `value or default`, in a cell -/
def cellOr (default : String) (value : Option String) : String :=
  cell ((truthyText value).getD default)

def dependentsText (issue : BlockerAnalysis) : String :=
  if issue.dependentIssues.isEmpty then "none" else String.intercalate ", " issue.dependentIssues

def citationText (citation : Citation) : String :=
  citation.issueKey ++
    match truthyText citation.commentId with
    | some commentId => " comment " ++ commentId
    | none => ""

def citationsText (issue : BlockerAnalysis) : String :=
  if issue.evidence.isEmpty then "none"
  else String.intercalate ", " (issue.evidence.map citationText)

def issueDetailLines (issue : BlockerAnalysis) : List String :=
  ["### " ++ issue.issueKey ++ ": " ++ cell issue.summary,
    "",
    "**Blocked reason (FACT):** " ++ cell issue.blockedReason,
    "**Dependent issues (FACT):** " ++ dependentsText issue,
    "**Citations:** " ++ citationsText issue,
    "",
    "**Suggested resolution (AI SUGGESTION):** " ++ cell issue.suggestedResolution,
    "**Mitigation (AI SUGGESTION):** " ++ cell issue.mitigation,
    "**Risk (AI SUGGESTION):** " ++ cell issue.riskNote,
    ""]

def issueRow (rank : Nat) (issue : BlockerAnalysis) : String :=
  "| " ++ toString rank ++ " | " ++ cell issue.issueKey ++ " | " ++ cell issue.summary ++
    " | " ++ cellOr "-" issue.priority ++ " | " ++ toString issue.daysBlocked ++
    " | " ++ cell issue.owner ++ " | " ++ toString issue.score ++ " |"

def sectionHeadLines (topic : BriefingSection) : List String :=
  ["## " ++ topic.description,
    "",
    "- Query: " ++ cellOr "(none)" topic.queryUsed,
    "- JQL: `" ++ cellOr "(none)" topic.jql ++ "`",
    "- Total found: " ++ toString topic.totalFound,
    "- Top " ++ toString topic.topIssues.length ++ " shown",
    ""]

def warningLines (errors : List String) : List String :=
  if errors.isEmpty then []
  else ["**Warnings:**"] ++ errors.map (fun error => "- " ++ cell error) ++ [""]

def issueLines (issues : List BlockerAnalysis) : List String :=
  if issues.isEmpty then ["(no issues to display)", "", "---", ""]
  else
    ["| # | Key | Summary | Priority | Days Blocked | Owner | Score |",
      "|---|---|---|---|---|---|---|"] ++
    (issues.zipIdx 1).map (fun ranked => issueRow ranked.2 ranked.1) ++ [""] ++
    issues.flatMap issueDetailLines ++ ["---", ""]

def sectionLines (topic : BriefingSection) : List String :=
  sectionHeadLines topic ++ warningLines topic.errors ++ issueLines topic.topIssues

def openingLines (timestamp sessionId : String) (topicCount : Nat) : List String :=
  ["# AtlasMind executive briefing",
    "",
    "- Generated: " ++ timestamp,
    "- Session: " ++ sessionId,
    "- Topics: " ++ toString topicCount,
    "",
    "## Agenda",
    ""]

def agendaLines (agendaText : String) : List String :=
  ["> " ++ cell (firstChars 500 agendaText), "", "---", ""]

def closingLines : List String :=
  ["---",
    "",
    "**AI SUGGESTION** fields (suggested_resolution, mitigation, risk_note) are " ++
      "LLM-generated and labelled as such. Facts (days_blocked, owner, priority, " ++
      "blocked_reason) are derived from Jira data. Citations reference Jira issue keys " ++
      "and comment IDs."]

def buildBriefingReport (timestamp agendaText : String) (sections : List BriefingSection)
    (sessionId : String) : String :=
  document (openingLines timestamp sessionId sections.length ++ agendaLines agendaText ++
    sections.flatMap sectionLines ++ closingLines)

end AtlasMindNetra.ReportSynthesiser
