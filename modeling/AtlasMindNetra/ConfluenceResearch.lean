import AtlasMindNetra.BriefingOrchestrator
import AtlasMindNetra.ConfluencePipeline
import AtlasMindNetra.CqlBuilder
import AtlasMindNetra.MergeRules

/-!
# Confluence research

`_run_confluence_research`, `_research_topic` and `_fetch_and_extract` of
`core/briefing_orchestrator.py` with the two searches of
`confluence/client/client.py` that they use. Topics, searches and pages run in
parallel; `asyncio.gather` gives their results in the order in which they were
started. What a collaborator does is therefore given by that position, and may
differ from one topic to the next even for the same query or page.
-/

namespace AtlasMindNetra.ConfluenceResearch

open AtlasMindNetra.PythonValues AtlasMindNetra.ResponseModels AtlasMindNetra.MergeRules
open AtlasMindNetra.CqlBuilder AtlasMindNetra.BriefingOrchestrator
open AtlasMindNetra.ConfluencePipeline (ContextExtractionOutput)

set_option autoImplicit false

/-- What a search says of a page, as far as references show it. -/
structure ConfluencePage where
  pageId : String
  title : String := ""
  cqlExcerpt : String := ""
  deriving DecidableEq

structure ResearchSettings where
  defaultSpaces : List String := []
  maxPagesTotal : Int := 8
  recencyDays : Int := 30

inductive CqlVariant where
  | titleReview
  | titleVersion
  | textVersion
  deriving DecidableEq

abbrev SearchResult := Except PyError (List ConfluencePage)

/-- What the collaborators do in one research, by the position of the topic, of
the page among those of the topic, and of the key in the reverse lookup. -/
structure ResearchSide where
  /-- absent without an intent analyser -/
  analyseIntent : Option (Nat → String → Except PyError QueryIntent)
  search : Nat → CqlVariant → String → SearchResult
  /-- `get_page_sections` and then `extract` -/
  extract : Nat → Nat → ConfluencePage → Bool → Except PyError ContextExtractionOutput
  reverseSearch : Nat → String → SearchResult

def addPages (seen : OrderedDict String ConfluencePage) :
    SearchResult → OrderedDict String ConfluencePage
  | .error _ => seen
  | .ok pages => keepFirst seen (pages.map fun page => (page.pageId, page))

/-- A failing variant is skipped, and of pages with one identifier the first stays. -/
def searchPagesMulti (search : CqlVariant → String → SearchResult) (intent : QueryIntent)
    (spaces : List String) (recencyDays : Int) : List ConfluencePage :=
  let variants := buildCqlVariants intent spaces recencyDays
  ([search .titleReview variants.titleReview, search .titleVersion variants.titleVersion,
    search .textVersion variants.textVersion].foldl addPages ∅).values

def addMentions (result : OrderedDict String (List ConfluencePage)) (key : String) :
    SearchResult → OrderedDict String (List ConfluencePage)
  | .error _ => result
  | .ok pages => if pages.isEmpty then result else result.set key pages

/-- One query for each key, and a failing one is skipped. -/
def findPagesMentioningKeys (search : Nat → String → SearchResult) (issueKeys : List String)
    (spaces : List String) : OrderedDict String (List ConfluencePage) :=
  issueKeys.zipIdx.foldl (fun result asked =>
    addMentions result asked.1 (search asked.2 (reverseLookupCql asked.1 spaces))) ∅

/-- `part in whole` -/
def containsText (part whole : String) : Bool :=
  whole.toList.tails.any fun rest => part.toList.isPrefixOf rest

def extractRelevantPassage (extraction : ContextExtractionOutput) (key : String) : String :=
  ((((extraction.actionItems.find? (containsText key)).or
    (extraction.severitySignals.find? (containsText key))).or
      extraction.actionItems.head?).map (firstChars 300)).getD ""

def pageReference (page : ConfluencePage) (extraction : ContextExtractionOutput) (key : String) :
    ConfluenceReference where
  pageId := page.pageId
  pageTitle := page.title
  cqlExcerpt := page.cqlExcerpt
  relevantPassage := extractRelevantPassage extraction key

abbrev TopicRefs := List String × OrderedDict String ConfluenceReference

/-- `_fetch_and_extract`, given what the extraction of the page does -/
def fetchAndExtract (page : ConfluencePage) (outcome : Except PyError ContextExtractionOutput) :
    Except PyError TopicRefs :=
  outcome.map fun extraction =>
    (extraction.jiraKeysMentioned,
      OrderedDict.overlay (fun key => some (pageReference page extraction key)) ∅
        extraction.jiraKeysMentioned)

def addPageRefs (found : TopicRefs) : Except PyError TopicRefs → TopicRefs
  | .error _ => found
  | .ok (keys, refs) => (found.1 ++ keys, keepFirst found.2 refs.entries)

/-- `_research_topic` from its pages on: for each key the first page wins. -/
def extractPages (extract : Nat → ConfluencePage → Bool → Except PyError ContextExtractionOutput)
    (forceRefresh : Bool) (pages : List ConfluencePage) : TopicRefs :=
  (pages.zipIdx.map fun started =>
    fetchAndExtract started.1 (extract started.2 started.1 forceRefresh)).foldl addPageRefs ([], ∅)

/-- The pages that `_research_topic` goes through for an intent. -/
def intentPages (settings : ResearchSettings) (search : CqlVariant → String → SearchResult)
    (spaces : List String) (intent : QueryIntent) : List ConfluencePage :=
  if intent.intentType = .general || intent.confluenceKeywords.isEmpty then []
  else sliceTo settings.maxPagesTotal (searchPagesMulti search intent spaces settings.recencyDays)

def researchTopic (settings : ResearchSettings) (side : ResearchSide)
    (analyseIntent : Nat → String → Except PyError QueryIntent) (spaces : List String)
    (forceRefresh : Bool) (position : Nat) (topic : AgendaTopic) : Except PyError TopicRefs := do
  let intent ← analyseIntent position topic.suggestedQuery
  let pages := intentPages settings (side.search position) spaces intent
  if pages.isEmpty then return ([], ∅)
  return extractPages (side.extract position) forceRefresh pages

def addTopicRefs (refs : ConfluenceRefs) : Except PyError TopicRefs → ConfluenceRefs
  | .error _ => refs
  | .ok (_, pageRefs) => pushAll refs pageRefs.entries

def topicResults (settings : ResearchSettings) (side : ResearchSide) (spaces : List String)
    (forceRefresh : Bool) (topics : List AgendaTopic) : List (Except PyError TopicRefs) :=
  match side.analyseIntent with
  | none => []
  | some analyseIntent =>
      topics.zipIdx.map fun started =>
        researchTopic settings side analyseIntent spaces forceRefresh started.2 started.1

/-- Found by reverse lookup only: no extraction ran. -/
def reverseReference (page : ConfluencePage) : ConfluenceReference where
  pageId := page.pageId
  pageTitle := page.title
  cqlExcerpt := page.cqlExcerpt

/-- The keys of the lookup's result are distinct, so the page identifiers seen
for a key are those of the references it already has. -/
def addMentioning (refs : ConfluenceRefs) (reverse : OrderedDict String (List ConfluencePage)) :
    ConfluenceRefs :=
  pushNewAll ConfluenceReference.pageId refs
    (reverse.entries.map fun entry => (entry.1, entry.2.map reverseReference))

/-- `spaces or default_spaces` -/
def resolvedSpaces (settings : ResearchSettings) (spaces : Option (List String)) : List String :=
  match spaces with
  | some (space :: others) => space :: others
  | some [] | none => settings.defaultSpaces

def reverseKeys (refs : ConfluenceRefs) (allJiraKeys : List String) : List String :=
  allJiraKeys.filter fun key => !refs.contains key

def runConfluenceResearch (settings : ResearchSettings) (side : ResearchSide)
    (topics : List AgendaTopic) (allJiraKeys : List String) (spaces : Option (List String))
    (forceRefresh : Bool) : ConfluenceRefs :=
  let inSpaces := resolvedSpaces settings spaces
  let refs := (topicResults settings side inSpaces forceRefresh topics).foldl addTopicRefs ∅
  let keys := reverseKeys refs allJiraKeys
  if keys.isEmpty || inSpaces.isEmpty then refs
  else addMentioning refs (findPagesMentioningKeys side.reverseSearch keys inSpaces)

/-- The research of a briefing, which gives no spaces of its own. -/
def briefingResearch (settings : ResearchSettings) (side : ResearchSide)
    (request : ResearchRequest) : Except PyError ConfluenceRefs :=
  .ok (runConfluenceResearch settings side request.topics request.jiraKeys none
    request.forceRefresh)

end AtlasMindNetra.ConfluenceResearch
