import AtlasMindNetra.AttemptRules
import AtlasMindNetra.BriefingRuns
import AtlasMindNetra.ConfluenceResearch

/-!
# A briefing during an outage of Confluence

The searches of a research go to the Confluence API, attempt after attempt.
When every one of them raises, no topic has a page and no key is mentioned, so
the research ends without a reference and the briefing is the one of an
installation without Confluence.
-/

namespace AtlasMindNetra.ConfluenceResearch

open AtlasMindNetra.PythonValues AtlasMindNetra.ResponseModels AtlasMindNetra.MergeRules
open AtlasMindNetra.AttemptRules AtlasMindNetra.CqlBuilder AtlasMindNetra.BriefingOrchestrator
open AtlasMindNetra.ConfluencePipeline (ContextExtractionOutput)
open AtlasMindNetra.Orchestrator (QueryCall)

set_option autoImplicit false

/-- The items of a search, each with the page it is parsed to. An item that
cannot be parsed is skipped. -/
abbrev RawResult := List (Option ConfluencePage)

/-- What the search calls of the API end in, by their caller, their query and
the number of the attempt. -/
structure SearchApi where
  /-- connection errors and timeouts -/
  isRetryable : PyError → Bool
  maxRetries : Nat
  topicCql : Nat → CqlVariant → String → Nat → Except PyError RawResult
  keyCql : Nat → String → Nat → Except PyError RawResult

/-- `_search_one`; the first attempt is made in any case. -/
def searchOne (api : SearchApi) (attempt : Nat → Except PyError RawResult) : SearchResult :=
  (retrying api.isRetryable attempt (api.maxRetries - 1) 0).2.map List.reduceOption

/-- The research whose searches go to `api`. -/
def searching (api : SearchApi)
    (analyseIntent : Option (Nat → String → Except PyError QueryIntent))
    (extract : Nat → Nat → ConfluencePage → Bool → Except PyError ContextExtractionOutput) :
    ResearchSide where
  analyseIntent := analyseIntent
  search position variant cql := searchOne api (api.topicCql position variant cql)
  extract := extract
  reverseSearch position cql := searchOne api (api.keyCql position cql)

/-- Every call raises, whoever makes it, at every attempt. -/
structure Unavailable (api : SearchApi) : Prop where
  topics : ∀ position variant cql attempt, ∃ error,
    api.topicCql position variant cql attempt = .error error
  keys : ∀ position cql attempt, ∃ error, api.keyCql position cql attempt = .error error

theorem search_one_raises
    (api : SearchApi)
    (attempt : Nat → Except PyError RawResult)
    (raises : ∀ number, ∃ error, attempt number = .error error) :
    ∃ error, searchOne api attempt = .error error := by
  have keeps : ∃ made, (retrying api.isRetryable attempt (api.maxRetries - 1) 0).2 = attempt made :=
    retrying_keeps_attempt _ _
  rcases keeps with ⟨made, kept⟩
  rcases raises made with ⟨error, raised⟩
  apply Exists.intro error
  rw [searchOne, kept, raised]
  rfl

theorem no_pages_found
    (search : CqlVariant → String → SearchResult)
    (raises : ∀ variant cql, ∃ error, search variant cql = .error error)
    (settings : ResearchSettings)
    (spaces : List String)
    (intent : QueryIntent) : intentPages settings search spaces intent = [] := by
  have skipped (seen : OrderedDict String ConfluencePage) (variant : CqlVariant) (cql : String) :
      addPages seen (search variant cql) = seen := by
    rcases raises variant cql with ⟨error, raised⟩
    rw [raised]
    rfl
  have found : searchPagesMulti search intent spaces settings.recencyDays = [] := by
    simp only [searchPagesMulti, List.foldl_cons, List.foldl_nil, skipped]
    rfl
  unfold intentPages
  split_ifs
  · rfl
  · rw [found, sliceTo]
    simp

theorem no_mentions_found
    (search : Nat → String → SearchResult)
    (raises : ∀ position cql, ∃ error, search position cql = .error error)
    (issueKeys spaces : List String) : findPagesMentioningKeys search issueKeys spaces = ∅ := by
  unfold findPagesMentioningKeys
  induction issueKeys.zipIdx with
  | nil => rfl
  | cons asked rest ih =>
      rcases raises asked.2 (reverseLookupCql asked.1 spaces) with ⟨error, raised⟩
      rw [List.foldl_cons, raised]
      exact ih

section Outage

variable (api : SearchApi) (settings : ResearchSettings)
variable (analyseIntent : Option (Nat → String → Except PyError QueryIntent))
variable (extract : Nat → Nat → ConfluencePage → Bool → Except PyError ContextExtractionOutput)
variable (unavailable : Unavailable api)

include unavailable

theorem topic_without_refs
    (analyse : Nat → String → Except PyError QueryIntent)
    (spaces : List String)
    (forceRefresh : Bool)
    (position : Nat)
    (topic : AgendaTopic)
    (refs : ConfluenceRefs) :
    addTopicRefs refs (researchTopic settings (searching api analyseIntent extract) analyse spaces
      forceRefresh position topic) = refs := by
  have nothing := no_pages_found ((searching api analyseIntent extract).search position)
    (fun variant cql => search_one_raises api _ (unavailable.topics position variant cql)) settings
    spaces
  unfold researchTopic
  cases analyse position topic.suggestedQuery with
  | error error => rfl
  | ok intent =>
      simp only [bind, Except.bind, nothing intent]
      rfl

theorem research_without_refs
    (topics : List AgendaTopic)
    (allJiraKeys : List String)
    (spaces : Option (List String))
    (forceRefresh : Bool) :
    runConfluenceResearch settings (searching api analyseIntent extract) topics allJiraKeys spaces
      forceRefresh = ∅ := by
  have nothing : (topicResults settings (searching api analyseIntent extract)
      (resolvedSpaces settings spaces) forceRefresh topics).foldl addTopicRefs ∅ = ∅ := by
    unfold topicResults
    cases given : (searching api analyseIntent extract).analyseIntent with
    | none => rfl
    | some analyse =>
        simp only
        induction topics.zipIdx with
        | nil => rfl
        | cons started rest ih =>
            rw [List.map_cons, List.foldl_cons,
              topic_without_refs api settings analyseIntent extract unavailable analyse]
            exact ih
  have unmentioned := no_mentions_found (searching api analyseIntent extract).reverseSearch
    fun position cql => search_one_raises api _ (unavailable.keys position cql)
  unfold runConfluenceResearch
  simp only [nothing, unmentioned]
  split_ifs <;> rfl

end Outage

section Briefing

variable {Handler Env : Type}

def withResearch (env : BriefingEnvironment Env)
    (research : Option (ResearchRequest → Except PyError ConfluenceRefs)) :
    BriefingEnvironment Env :=
  { env with pipeline := { env.pipeline with research := research } }

variable (handle : Handler → QueryCall → Option ElicitFn → Env →
  Handler × Except PyError QueryResponse)
variable (briefing : BriefingSettings) (env : BriefingEnvironment Env) (call : BriefingCall)
variable (research : Option (ResearchRequest → Except PyError ConfluenceRefs))

theorem conclude_without_research
    (pending : BriefingPendingState)
    (completed : OrderedDict String QueryResponse)
    (errors : List String)
    (nothing : confluenceRefs (withResearch env research).pipeline pending.topics completed
      call.forceRefresh = ∅) :
    concludeBriefing briefing (withResearch env research).pipeline call pending completed errors =
      concludeBriefing briefing (withResearch env none).pipeline call pending completed errors := by
  unfold concludeBriefing
  rw [nothing]
  rfl

theorem query_topics_without_research
    (pending : BriefingPendingState)
    (index : Nat)
    (topics : List AgendaTopic) :
    queryTopics handle briefing (withResearch env research) call pending index topics =
      queryTopics handle briefing (withResearch env none) call pending index topics := by
  induction topics generalizing index with
  | nil => rfl
  | cons topic rest ih =>
      simp only [queryTopics, ih]
      rfl

/-- A call with a research that finds nothing is a call without research. -/
theorem generate_without_research
    (nothing : ∀ topics completed, confluenceRefs (withResearch env research).pipeline topics
      completed call.forceRefresh = ∅) :
    generateBriefing handle briefing (withResearch env research) call =
      generateBriefing handle briefing (withResearch env none) call := by
  have continues (pending : BriefingPendingState) :
      continueBriefing handle briefing (withResearch env research) call pending =
        continueBriefing handle briefing (withResearch env none) call pending := by
    unfold continueBriefing
    simp only [query_topics_without_research handle briefing env call research]
    congr 1
    funext _
    congr 1
    funext question
    cases question with
    | some question => rfl
    | none =>
        simp only [conclude_without_research briefing env call research pending _ _
          (nothing pending.topics _)]
  unfold generateBriefing
  simp only [continues]
  rfl

/-- During an outage of Confluence every call does what it does where
Confluence is not configured, and returns the same. -/
theorem unavailable_equals_disabled
    (world : BriefingWorld Handler)
    (settings : ResearchSettings)
    (api : SearchApi)
    (analyseIntent : Option (Nat → String → Except PyError QueryIntent))
    (extract : Nat → Nat → ConfluencePage → Bool → Except PyError ContextExtractionOutput)
    (unavailable : Unavailable api) :
    briefingStep handle briefing world call (withResearch env
        (some (briefingResearch settings (searching api analyseIntent extract)))) =
      briefingStep handle briefing world call (withResearch env none) := by
  unfold briefingStep
  rw [generate_without_research handle briefing env call]
  intro topics completed
  simp only [confluenceRefs, withResearch, briefingResearch]
  exact research_without_refs api settings analyseIntent extract unavailable _ _ _ _

end Briefing

def refusingApi : SearchApi where
  isRetryable error := error == .os "connection refused"
  maxRetries := 3
  topicCql _ _ _ _ := .error (.os "connection refused")
  keyCql _ _ _ := .error (.other "503 Server Error")

theorem refusing_unavailable : Unavailable refusingApi :=
  ⟨fun _ _ _ _ => ⟨_, rfl⟩, fun _ _ _ => ⟨_, rfl⟩⟩

def sampleIntent (position : Nat) (_ : String) : Except PyError QueryIntent :=
  if position = 0 then .ok { intentType := .blockerAnalysis, confluenceKeywords := ["sprint"] }
  else .error (.other "intent analysis failed")

theorem sample_outage :
    briefingStep scriptedHandle {} { handler := () } sampleBriefing
        (withResearch (scriptedEnvironment fun call => .ok (foundOne call))
          (some (briefingResearch { defaultSpaces := ["TEAM"] }
            (searching refusingApi (some sampleIntent) fun _ _ _ _ => .ok {})))) =
      briefingStep scriptedHandle {} { handler := () } sampleBriefing
        (withResearch (scriptedEnvironment fun call => .ok (foundOne call)) none) :=
  unavailable_equals_disabled scriptedHandle {} (scriptedEnvironment fun call => .ok (foundOne call))
    sampleBriefing { handler := () } { defaultSpaces := ["TEAM"] } refusingApi (some sampleIntent)
    (fun _ _ _ _ => .ok {}) refusing_unavailable

end AtlasMindNetra.ConfluenceResearch
