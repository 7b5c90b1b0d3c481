import AtlasMindNetra.ResponseModels
import Mathlib.Algebra.GroupWithZero.Nat
import Mathlib.Data.List.Sort

/-!
# The issue analyser

`core/issue_analyser.py`: the fact fields of an analysis are computed here, the
LLM fills the suggestion fields, and results are cached by issue key and last
changelog timestamp. `_analyse_key` waits only for the LLM, so one coroutine is
two atomic parts, and the coroutines of concurrent calls take their parts in
any order. The semaphore restricts that order and nothing else. Days are
proleptic day numbers, and the cache size is read as a non-negative number.
-/

namespace AtlasMindNetra.IssueAnalyser

open AtlasMindNetra.PythonValues AtlasMindNetra.ResponseModels

set_option autoImplicit false

structure AnalyserTables extends TextTables where
  strip : String → String
  /-- `datetime.fromisoformat(text).date()`, and `none` for `ValueError` -/
  isoDay : String → Option Int

/-- What a constructed `IssueAnalyser` keeps of its arguments. -/
structure AnalyserConfig where
  blockedStatuses : List String
  cacheMaxSize : Nat

def defaultBlockedStatuses : List String := ["blocked", "stalled", "on hold", "waiting"]

/-- `build_issue_analyser`, with the default that `__init__` takes for no statuses. -/
def buildIssueAnalyser (tables : AnalyserTables) (blockedStatuses : List String)
    (analysisCacheMaxSize : Nat) : AnalyserConfig where
  blockedStatuses :=
    if blockedStatuses.isEmpty then defaultBlockedStatuses
    else blockedStatuses.map fun status => tables.lower (tables.strip status)
  cacheMaxSize := analysisCacheMaxSize

/-- The arguments that all coroutines of one `analyse` call share. -/
structure AnalyseCall where
  issueDetails : IssueDetailsResponse
  summaries : Option (OrderedDict String String) := none
  confluenceRefs : Option (OrderedDict String (List ConfluenceReference)) := none
  forceRefresh : Bool := false

/-- One coroutine of `_analyse_key` and what it passes to `_analyse_one`. -/
structure KeyAnalysis where
  key : String
  issue : IssueDetail
  summaries : Option (OrderedDict String String)
  refs : List ConfluenceReference
  today : Int
  deriving DecidableEq

/-- Only the last transition decides: the loop returns in its first round. -/
def computeDaysBlocked (tables : AnalyserTables) (blockedStatuses : List String)
    (issue : IssueDetail) (today : Int) : Int :=
  match issue.changelog.reverse with
  | [] => 0
  | entry :: _ =>
      if tables.lower (tables.strip entry.toValue) ∉ blockedStatuses then 0
      else
        match tables.isoDay entry.timestamp with
        | some day => max 0 (today - day)
        | none => 0

def ownerOf (issue : IssueDetail) : String := (truthyText issue.assignee).getD "Unassigned"

def dependentIssuesOf (issue : IssueDetail) : List String := issue.links.map IssueLink.linkedIssueKey

def summaryOf (issue : IssueDetail) (summaries : Option (OrderedDict String String)) : String :=
  ((truthyText issue.summary).or
    (truthyText (summaries.bind fun texts => texts.get? issue.key))).getD "(no summary)"

/-- Newest first; comments of one instant keep their order. -/
def sortedComments (issue : IssueDetail) : List IssueComment :=
  issue.comments.insertionSort fun first second => second.created ≤ first.created

def quoted (comment : IssueComment) : String :=
  comment.author ++ "): " ++ firstChars 200 comment.body

def blockedReasonOf (issue : IssueDetail) : String :=
  match sortedComments issue with
  | latest :: _ => "Latest comment (" ++ quoted latest
  | [] => "No comments available - blocked reason unclear."

def directionText : LinkDirection → String
  | .outward => "outward"
  | .inward => "inward"

def linkLine (link : IssueLink) : String :=
  let direction := directionText link.direction
  s!"  - {link.type} ({direction}): {link.linkedIssueKey}" ++
    match truthyText link.linkedIssueSummary with
    | some summary => s!" - {summary}"
    | none => ""

def commentLine (comment : IssueComment) : String :=
  let day := firstChars 10 comment.created
  s!"  [id:{comment.id}] {comment.author} ({day}): {comment.body}"

def refLines (ref : ConfluenceReference) : List String :=
  ("[Page: \"" ++ ref.pageTitle ++ "\"]") ::
    if ref.relevantPassage = "" then []
    else ["Passage: " ++ firstChars 300 ref.relevantPassage]

def contextLines (refs : List ConfluenceReference) : List String :=
  if refs.isEmpty then []
  else
    ["", "CONFLUENCE CONTEXT (external pages mentioning this issue - " ++
      "treat as background, not authoritative fact):"] ++
    refs.flatMap refLines ++
    ["(Use Confluence context only to enrich suggested_resolution, mitigation, " ++
      "and risk_note. Never use it for fact fields like days_blocked or owner.)"]

def buildPrompt (issue : IssueDetail) (summary : String) (comments : List IssueComment)
    (refs : List ConfluenceReference) : String :=
  let priority := (truthyText issue.priority).getD "unknown"
  let assignee := (truthyText issue.assignee).getD "unassigned"
  let dueDate := (truthyText issue.dueDate).getD "not set"
  let flagged := if issue.flagged then "True" else "False"
  let header :=
    ["OPERATION: ANALYSE ISSUE", s!"ISSUE KEY: {issue.key}", s!"SUMMARY: {summary}",
      s!"PRIORITY: {priority}", s!"ASSIGNEE: {assignee}", s!"DUE DATE: {dueDate}",
      s!"FLAGGED: {flagged}"]
  let links :=
    if issue.links.isEmpty then ["ISSUE LINKS: none"]
    else "ISSUE LINKS:" :: issue.links.map linkLine
  let discussion :=
    if comments.isEmpty then ["COMMENTS: none"]
    else "COMMENTS (newest first, with comment IDs for citation):" :: comments.map commentLine
  let instructions :=
    ["", "-> Fill suggested_resolution, mitigation, and risk_note (2-3 sentences each).",
      "-> In evidence, cite only comment IDs listed above that directly support your analysis.",
      "-> Never invent facts. Work only from the provided issue data."]
  String.intercalate "\n" (header ++ links ++ discussion ++ contextLines refs ++ instructions)

abbrev AgentReply := Except AgentError IssueAnalysisSuggestions

def promptFor (work : KeyAnalysis) : String :=
  buildPrompt work.issue (summaryOf work.issue work.summaries) (sortedComments work.issue) work.refs

def analyseOne (tables : AnalyserTables) (config : AnalyserConfig) (agent : String → AgentReply)
    (work : KeyAnalysis) : Except PyError BlockerAnalysis :=
  match agent (promptFor work) with
  | .error (.agentRun message) | .error (.user message) =>
      .error (.analysis s!"analysis LLM call failed for {work.issue.key}: {message}")
  | .error (.other message) => .error (.other message)
  | .ok suggestions =>
      .ok
        { issueKey := work.issue.key
          summary := summaryOf work.issue work.summaries
          blockedReason := blockedReasonOf work.issue
          daysBlocked := computeDaysBlocked tables config.blockedStatuses work.issue work.today
          owner := ownerOf work.issue
          priority := work.issue.priority
          dependentIssues := dependentIssuesOf work.issue
          dueDate := work.issue.dueDate
          flagged := work.issue.flagged
          suggestedResolution := suggestions.suggestedResolution
          mitigation := suggestions.mitigation
          riskNote := suggestions.riskNote
          evidence := suggestions.evidence
          confluenceRefs := work.refs }

def degraded (key reason : String) : BlockerAnalysis where
  issueKey := key
  summary := "(analysis unavailable)"
  blockedReason := reason
  daysBlocked := 0
  owner := "unknown"
  suggestedResolution := "(unavailable)"
  mitigation := "(unavailable)"
  riskNote := "(unavailable)"

abbrev AnalysisCache := OrderedDict (String × String) BlockerAnalysis

def cacheKey (work : KeyAnalysis) : String × String :=
  (work.key, (work.issue.changelog.getLast?.map ChangelogEntry.timestamp).getD "")

/-- A cached analysis as it is returned: references that came later are attached. -/
def reattached (refs : List ConfluenceReference) (cached : BlockerAnalysis) : BlockerAnalysis :=
  if !refs.isEmpty && cached.confluenceRefs.isEmpty then { cached with confluenceRefs := refs }
  else cached

def writeBack (config : AnalyserConfig) (cache : AnalysisCache) (key : String × String)
    (result : BlockerAnalysis) : AnalysisCache :=
  if config.cacheMaxSize = 0 then cache
  else if config.cacheMaxSize ≤ cache.size then cache.popFirst.set key result
  else cache.set key result

/-- `{d.key: d for d in issue_details.issues}` -/
def issueMap (details : IssueDetailsResponse) : OrderedDict String IssueDetail :=
  details.issues.foldl (fun issues detail => issues.set detail.key detail) ∅

def refsFor (call : AnalyseCall) (key : String) : List ConfluenceReference :=
  (call.confluenceRefs.bind fun refs => refs.get? key).getD []

structure AnalyserState where
  cache : AnalysisCache
  running : List KeyAnalysis

/-- `IssueAnalyser.__init__` -/
def freshAnalyser : AnalyserState where
  cache := ∅
  running := []

inductive AnalyserInput where
  | start (call : AnalyseCall) (key : String) (today : Int)
  | answer (position : Nat) (reply : AgentReply)

inductive AnalyserOutput where
  | missing (result : BlockerAnalysis)
  | served (work : KeyAnalysis) (result : BlockerAnalysis)
  | asked (work : KeyAnalysis) (prompt : String)
  | analysed (work : KeyAnalysis) (result : BlockerAnalysis)
  | failed (work : KeyAnalysis) (result : BlockerAnalysis)
  | idle
  deriving DecidableEq

def cachedFor (state : AnalyserState) (call : AnalyseCall) (work : KeyAnalysis) :
    Option BlockerAnalysis :=
  if call.forceRefresh then none else state.cache.get? (cacheKey work)

def workFor (call : AnalyseCall) (key : String) (today : Int) (issue : IssueDetail) :
    KeyAnalysis where
  key := key
  issue := issue
  summaries := call.summaries
  refs := refsFor call key
  today := today

/-- `_analyse_key` up to its result or to its call of the LLM. -/
def startKey (state : AnalyserState) (call : AnalyseCall) (key : String) (today : Int) :
    AnalyserState × AnalyserOutput :=
  match (issueMap call.issueDetails).get? key with
  | none => (state, .missing (degraded key "issue not found in /issue_details response"))
  | some issue =>
      let work := workFor call key today issue
      match cachedFor state call work with
      | some cached => (state, .served work (reattached work.refs cached))
      | none =>
          ({ state with running := state.running ++ [work] }, .asked work (promptFor work))

/-- `_analyse_key` from the LLM's answer on, and what `analyse` makes of its error. -/
def answerKey (tables : AnalyserTables) (config : AnalyserConfig) (state : AnalyserState)
    (position : Nat) (reply : AgentReply) : AnalyserState × AnalyserOutput :=
  match state.running[position]? with
  | none => (state, .idle)
  | some work =>
      let running := state.running.eraseIdx position
      match analyseOne tables config (fun _ => reply) work with
      | .error error =>
          let reason := error.text
          ({ state with running }, .failed work (degraded work.key s!"analysis failed: {reason}"))
      | .ok result =>
          ({ cache := writeBack config state.cache (cacheKey work) result, running },
            .analysed work result)

def analyserStep (tables : AnalyserTables) (config : AnalyserConfig) (state : AnalyserState) :
    AnalyserInput → AnalyserState × AnalyserOutput
  | .start call key today => startKey state call key today
  | .answer position reply => answerKey tables config state position reply

def daysBeforeMonth (month : Nat) : Nat :=
  ([31, 28, 31, 30, 31, 30, 31, 31, 30, 31, 30, 31].take (month - 1)).sum

/-- `YYYY-MM-DD`, with or without a time of day, as `date.toordinal` counts. -/
def isoDayNumber (text : String) : Option Int := do
  let number (digits : List Char) : Option Nat :=
    if digits.all Char.isDigit then
      some (digits.foldl (fun value digit => 10 * value + (digit.toNat - 48)) 0)
    else none
  match text.toList with
  | y1 :: y2 :: y3 :: y4 :: '-' :: m1 :: m2 :: '-' :: d1 :: d2 :: _ =>
      let year ← number [y1, y2, y3, y4]
      let month ← number [m1, m2]
      let day ← number [d1, d2]
      let leap := decide (2 < month ∧ year % 4 = 0 ∧ (year % 100 ≠ 0 ∨ year % 400 = 0))
      let before := year - 1
      some (Int.ofNat (365 * before + before / 4 - before / 100 + before / 400 +
        daysBeforeMonth month + day + leap.toNat))
  | _ => none

def stripBlanks (text : String) : String :=
  String.ofList (((text.toList.dropWhile Char.isWhitespace).reverse.dropWhile
    Char.isWhitespace).reverse)

def sampleTables : AnalyserTables where
  toTextTables := asciiTables
  strip := stripBlanks
  isoDay := isoDayNumber

end AtlasMindNetra.IssueAnalyser
