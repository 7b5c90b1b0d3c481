import AtlasMindNetra.PythonValues

/-!
# Response and backend models

The fields of `models/responses.py`, `models/lite.py`, `models/clarification.py`,
`models/frontend.py` and `confluence/models/reference.py` that the modelled code
reads or writes. The constant `data_scope` texts and backend fields no one reads
are left out. Scores are integers.
-/

namespace AtlasMindNetra.ResponseModels

open AtlasMindNetra.PythonValues

set_option autoImplicit false

inductive ResolutionSource where
  | convention
  | clarification
  deriving DecidableEq

structure AppliedConvention where
  term : String
  jqlHint : String
  source : ResolutionSource
  deriving DecidableEq

structure ChartSpec where
  type : String
  xField : Option String := none
  yField : Option String := none
  title : Option String := none
  colorField : Option String := none
  deriving DecidableEq

/-- What the backend's `/query` returns when it does not fail. -/
structure LiteQueryResult where
  answer : Option String := none
  jql : Option String := none
  total : Int := 0
  shown : Int := 0
  displayFields : List String := []
  issues : List IssueRow := []
  chartSpec : Option ChartSpec := none
  deriving DecidableEq

/-- Result of the `query_jira` tool. -/
structure QueryResponse where
  sessionId : String
  requiresUserInput : Bool := false
  clarificationQuestion : Option String := none
  answer : Option String := none
  jql : Option String := none
  total : Int := 0
  shown : Int := 0
  displayFields : List String := []
  issues : List IssueRow := []
  chartSpec : Option ChartSpec := none
  uiInjected : Bool := false
  reportPath : Option String := none
  viewUrl : Option String := none
  appliedConventions : List AppliedConvention := []
  errors : List String := []
  deriving DecidableEq

structure InjectAck where
  accepted : Bool
  detail : Option String := none
  deriving DecidableEq

structure VocabEntry where
  ambiguity : String
  questions : List String := []
  jqlPatterns : OrderedDict String String := ∅
  deriving DecidableEq

structure JiraField where
  id : String
  name : String
  deriving DecidableEq

structure ClarificationNeeded where
  question : String
  terms : List String := []
  deriving DecidableEq

structure TermResolutionOutput where
  term : String
  resolutionKey : String
  jqlHint : String
  deriving DecidableEq

structure ResolvedTerms where
  resolutions : List TermResolutionOutput := []
  deriving DecidableEq

structure IssueComment where
  id : String
  author : String
  body : String
  created : String
  updated : String
  deriving DecidableEq

inductive LinkDirection where
  | outward
  | inward
  deriving DecidableEq

structure IssueLink where
  type : String
  direction : LinkDirection
  linkedIssueKey : String
  linkedIssueSummary : Option String := none
  deriving DecidableEq

structure ChangelogEntry where
  fromValue : Option String := none
  toValue : String
  author : String
  timestamp : String
  deriving DecidableEq

/-- Per-issue content returned by `/issue_details`. -/
structure IssueDetail where
  key : String
  summary : Option String := none
  priority : Option String := none
  assignee : Option String := none
  dueDate : Option String := none
  flagged : Bool := false
  comments : List IssueComment := []
  links : List IssueLink := []
  changelog : List ChangelogEntry := []
  deriving DecidableEq

structure IssueDetailsResponse where
  issues : List IssueDetail := []
  notFound : List String := []
  error : Option String := none
  deriving DecidableEq

structure ConfluenceReference where
  pageId : String
  pageTitle : String
  cqlExcerpt : String := ""
  relevantPassage : String := ""
  deriving DecidableEq

structure Citation where
  issueKey : String
  commentId : Option String := none
  deriving DecidableEq

structure IssueAnalysisSuggestions where
  suggestedResolution : String
  mitigation : String
  riskNote : String
  evidence : List Citation := []
  deriving DecidableEq

structure BlockerAnalysis where
  issueKey : String
  summary : String
  blockedReason : String
  daysBlocked : Int
  owner : String
  priority : Option String := none
  dependentIssues : List String := []
  dueDate : Option String := none
  flagged : Bool := false
  suggestedResolution : String
  mitigation : String
  riskNote : String
  evidence : List Citation := []
  score : Int := 0
  confluenceRefs : List ConfluenceReference := []
  deriving DecidableEq

structure AgendaTopic where
  topicId : String
  description : String
  suggestedQuery : String
  deriving DecidableEq

structure BriefingSection where
  topicId : String
  description : String
  queryUsed : Option String := none
  jql : Option String := none
  topIssues : List BlockerAnalysis := []
  totalFound : Int := 0
  errors : List String := []
  deriving DecidableEq

/-- Result of the `generate_briefing` tool. -/
structure BriefingResponse where
  reportId : String
  sessionId : String
  requiresUserInput : Bool := false
  clarificationQuestion : Option String := none
  pendingTopicId : Option String := none
  sections : List BriefingSection := []
  reportPath : Option String := none
  viewUrl : Option String := none
  errors : List String := []
  deriving DecidableEq

end AtlasMindNetra.ResponseModels
