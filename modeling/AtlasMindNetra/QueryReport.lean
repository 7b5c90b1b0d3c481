import AtlasMindNetra.IssuesTable
import AtlasMindNetra.SectionRules
import AtlasMindNetra.SessionTexts

/-!
# The query report

`build_query_report` of `core/report_synthesiser.py`. A report is there for a
person to check what was asked, how its terms were understood, which JQL was
run and what came of it. So all of this should be read back from its lines.
Texts that are not put into a cell can end a line, the JQL can end its block,
and an answer stands on a line of its own where it can pass for a heading.
-/

namespace AtlasMindNetra.QueryReport

open AtlasMindNetra.PythonValues AtlasMindNetra.ResponseModels AtlasMindNetra.LineRules
open AtlasMindNetra.DelimiterRules AtlasMindNetra.SectionRules AtlasMindNetra.ReportSynthesiser
open AtlasMindNetra.SessionTexts (sourceText)

set_option autoImplicit false

def preambleLines (timestamp sessionId : String) : List String :=
  ["# AtlasMind query report",
    "",
    "- Generated: " ++ timestamp,
    "- Session: " ++ sessionId,
    ""]

def queryLines (query : String) : List String := ["## Query", "", "> " ++ cell query, ""]

def interpretationRow (applied : AppliedConvention) : String :=
  "| " ++ cell applied.term ++ " | `" ++ cell applied.jqlHint ++ "` | " ++
    sourceText applied.source ++ " |"

def interpretationLines (applied : List AppliedConvention) : List String :=
  if applied.isEmpty then []
  else
    ["## Applied interpretations",
      "",
      "| Term | JQL meaning | Source |",
      "|---|---|---|"] ++ applied.map interpretationRow ++ [""]

def jqlLines (jql : Option String) : List String :=
  match truthyText jql with
  | some jql => ["## Generated JQL", "", "```jql", jql, "```", ""]
  | none => []

def answerLines (answer : Option String) : List String :=
  match truthyText answer with
  | some answer => ["## Answer", "", cell answer, ""]
  | none => []

def issuesHeading (shown total : Int) : String :=
  "## Issues (" ++ toString shown ++ " shown of " ++ toString total ++ " total)"

def issuesLines (tables : TextTables) (maxIssues : Int) (response : QueryResponse) :
    List String :=
  [issuesHeading response.shown response.total, ""] ++
    (issuesTable tables maxIssues response).getD ["(no issues returned)"] ++ [""]

def shownText (text : Option String) : String := text.getD "None"

def chartTexts (spec : ChartSpec) (uiInjected : Bool) : List String :=
  ["type: " ++ spec.type,
    "x: " ++ shownText spec.xField,
    "y: " ++ shownText spec.yField,
    "color: " ++ shownText spec.colorField,
    "title: " ++ shownText spec.title,
    "rendered in browser UI: " ++ if uiInjected then "yes" else "no"]

def chartLines (spec : Option ChartSpec) (uiInjected : Bool) : List String :=
  match spec with
  | some spec =>
      ["## Chart specification", ""] ++ (chartTexts spec uiInjected).map ("- " ++ ·) ++ [""]
  | none => []

def warningsLines (errors : List String) : List String :=
  if errors.isEmpty then []
  else ["## Warnings", ""] ++ errors.map (fun error => "- " ++ cell error) ++ [""]

def factsLines : List String :=
  ["---",
    "",
    "Facts above come from Jira via the AtlasMind backend. Applied interpretations " ++
      "are listed so a wrong assumption is caught here (design doc trust rules)."]

def buildQueryReport (tables : TextTables) (maxIssues : Int) (timestamp query : String)
    (response : QueryResponse) : String :=
  document (preambleLines timestamp response.sessionId ++ queryLines query ++
    interpretationLines response.appliedConventions ++ jqlLines response.jql ++
    answerLines response.answer ++ issuesLines tables maxIssues response ++
    chartLines response.chartSpec response.uiInjected ++ warningsLines response.errors ++
    factsLines)

/-- The headings of a report, and the rule at its end. -/
inductive ReportPart where
  | query
  | interpretations
  | jql
  | answer
  | issues
  | chart
  | warnings
  | facts
  deriving DecidableEq

namespace ReportPart

def text : ReportPart → String
  | query => "## Query"
  | interpretations => "## Applied interpretations"
  | jql => "## Generated JQL"
  | answer => "## Answer"
  | issues => "## Issues ("
  | chart => "## Chart specification"
  | warnings => "## Warnings"
  | facts => "---"

def all : List ReportPart := [query, interpretations, jql, answer, issues, chart, warnings, facts]

end ReportPart

def isHeading (line : List Char) : Bool := "## ".toList.isPrefixOf line || line == "---".toList

def opensFence (line : List Char) : Bool := "```".toList.isPrefixOf line

def closesFence (line : List Char) : Bool :=
  opensFence line && (line.drop 3).all fun char => char == ' '

def markedTexts (mark : String) (lines : List (List Char)) : List (List Char) :=
  (lines.filter fun line => mark.toList.isPrefixOf line).map (List.drop mark.toList.length)

def titleOf (lines : List (List Char)) : Option ReportPart :=
  lines.head?.bind (markOf (fun part : ReportPart => part.text.toList) ReportPart.all)

def under (part : ReportPart) (parts : List (List (List Char))) : List (List Char) :=
  match parts.find? fun lines => titleOf lines == some part with
  | some lines => lines.tail
  | none => []

structure ReportContent where
  session : Option (List Char)
  headings : List (List Char)
  query : Option (List Char)
  interpretations : List (List (List Char))
  jql : List (List Char)
  answer : Option (List Char)
  issueRows : List (List Char)
  chart : List (List Char)
  warnings : List (List Char)
  deriving DecidableEq

def readContent (before : List (List Char)) (parts : List (List (List Char))) : ReportContent where
  session := (markedTexts "- Session: " before).head?
  headings := parts.map fun lines => lines.headD []
  query := (markedTexts "> " (under .query parts)).head?.map (unescape '\\' '|')
  interpretations :=
    ((under .interpretations parts).filter fun line => "| ".toList.isPrefixOf line).tail.map
      fun line => (rowCells '\\' '|' ' ' line).map (unescape '\\' '|')
  jql := fencedLines opensFence closesFence (under .jql parts)
  answer := ((under .answer parts)[1]?).map (unescape '\\' '|')
  issueRows := (under .issues parts).filter fun line => "|".toList.isPrefixOf line
  chart := markedTexts "- " (under .chart parts)
  warnings := (markedTexts "- " (under .warnings parts)).map (unescape '\\' '|')

/-- The report as it is read by its headings, with nothing but the lines of
fenced blocks taken as they are. -/
def readReport (report : String) : ReportContent :=
  let read := sections isHeading opensFence closesFence false (linesOf report)
  readContent read.1 read.2

def interpretationTexts (applied : AppliedConvention) : List String :=
  [applied.term, "`" ++ applied.jqlHint ++ "`", sourceText applied.source]

def headingsOf (response : QueryResponse) : List String :=
  ["## Query"] ++
    (if response.appliedConventions.isEmpty then [] else ["## Applied interpretations"]) ++
    (if (truthyText response.jql).isSome then ["## Generated JQL"] else []) ++
    (if (truthyText response.answer).isSome then ["## Answer"] else []) ++
    [issuesHeading response.shown response.total] ++
    (if response.chartSpec.isSome then ["## Chart specification"] else []) ++
    (if response.errors.isEmpty then [] else ["## Warnings"]) ++ ["---"]

/-- Values in cells keep all but their line breaks. The issues are the rows of
their table up to those that are omitted. -/
def contentOf (tables : TextTables) (maxIssues : Int) (query : String)
    (response : QueryResponse) : ReportContent where
  session := some response.sessionId.toList
  headings := (headingsOf response).map String.toList
  query := some (singleLine query)
  interpretations := response.appliedConventions.map fun applied =>
    (interpretationTexts applied).map singleLine
  jql := (truthyText response.jql).elim [] linesOf
  answer := (truthyText response.answer).map singleLine
  issueRows := (rowsOf ((issuesTable tables maxIssues response).getD [])).map String.toList
  chart := (response.chartSpec.elim [] fun spec =>
    chartTexts spec response.uiInjected).map String.toList
  warnings := response.errors.map singleLine

/-- The session id and the texts of the chart are single lines, no line of the
JQL closes its block, the answer is taken neither for a heading nor for a
fence, and the pipes of the interpretations are plain. -/
structure ReportPlain (response : QueryResponse) : Prop where
  session : OneLine response.sessionId
  interpretations : ∀ applied ∈ response.appliedConventions,
    ∀ text ∈ interpretationTexts applied, PlainPipes text
  jql : ∀ jql, truthyText response.jql = some jql → ∀ line ∈ linesOf jql, closesFence line = false
  answer : ∀ answer, truthyText response.answer = some answer →
    isHeading (cell answer).toList = false ∧ opensFence (cell answer).toList = false
  chart : ∀ spec, response.chartSpec = some spec →
    ∀ text ∈ chartTexts spec response.uiInjected, OneLine text

end AtlasMindNetra.QueryReport
