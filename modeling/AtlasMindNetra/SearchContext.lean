import AtlasMindNetra.ConfluenceResearch

/-!
# The context search

`search_context` of `core/briefing_orchestrator.py` with `extract_page_id` of
`confluence/client/url_parser.py`. Pinned pages are fetched in parallel, and
then the merged pages are extracted in parallel; `asyncio.gather` gives the
outcomes in the order in which the calls were started, so a collaborator is
given by that position. An entry of the errors is kept with what it is about.
-/

namespace AtlasMindNetra.SearchContext

open AtlasMindNetra.PythonValues AtlasMindNetra.ConfluenceResearch AtlasMindNetra.CqlBuilder
open AtlasMindNetra.ConfluencePipeline (ContextExtractionOutput)

set_option autoImplicit false

/-- What Python reads off a URL. -/
structure UrlTables where
  /-- the `\d` class of `re` -/
  isDecimal : Char → Bool
  /-- the first `pageId` of `parse_qs(urlparse(url).query)`; `urlparse` raises on some texts -/
  queryPageId : String → Except PyError (Option String)

/-- What `asyncio.gather` collects of one call. A cancelled call is not an
ordinary exception. -/
inductive Gathered (Value : Type) where
  | returned (value : Value)
  | raised (message : String)
  | cancelled

def Gathered.value? {Value : Type} : Gathered Value → Option Value
  | returned value => some value
  | raised _ | cancelled => none

def Gathered.message? {Value : Type} : Gathered Value → Option String
  | raised message => some message
  | returned _ | cancelled => none

/-- What the collaborators do in one search, by the position of the pinned page
and of the merged page. -/
structure ContextSide where
  analyseIntent : String → Except PyError QueryIntent
  search : CqlVariant → String → SearchResult
  fetchPageMetadata : Nat → String → String → Bool → Gathered ConfluencePage
  /-- `_fetch_one`: `get_page_sections` and then `extract` -/
  fetchOne : Nat → ConfluencePage → Bool → Gathered ContextExtractionOutput

/-- The arguments of one call; no `page_urls` count as an empty list. -/
structure ContextCall where
  query : String
  spaces : Option (List String) := none
  recencyDays : Option Int := none
  limit : Int := 5
  forceRefresh : Bool := false
  pageUrls : List String := []

/-- One entry of `errors`. -/
inductive ContextNotice where
  | unrecognised (url : String)
  | fetchFailed (url message : String)
  | pageFailed (pageId message : String)
  deriving DecidableEq

/-- The entry as text, given `repr`. -/
def ContextNotice.text (repr : String → String) : ContextNotice → String
  | unrecognised url => "cannot extract page ID from URL: " ++ repr url
  | fetchFailed url message => "failed to fetch pinned page " ++ repr url ++ ": " ++ message
  | pageFailed pageId message => "page " ++ pageId ++ ": " ++ message

structure ContextSearchResult where
  page : ConfluencePage
  jiraKeysMentioned : List String := []
  extractedMitigations : List String := []
  extractedOwners : List String := []
  deriving DecidableEq

structure ConfluenceContextResponse where
  results : List ContextSearchResult := []
  totalPagesFound : Nat := 0
  cqlUsed : List String := []
  errors : List ContextNotice := []
  deriving DecidableEq

section Urls

variable (tables : UrlTables)

/-- `(?:[/?#]|$)` -/
def endsSegment : List Char → Bool
  | [] | ['\n'] => true
  | char :: _ => char == '/' || char == '?' || char == '#'

/-- `/pages/(\d+)(?:[/?#]|$)` at the start of the text -/
def pathIdHere (text : List Char) : Option String :=
  if "/pages/".toList.isPrefixOf text then
    let rest := text.drop 7
    let digits := rest.takeWhile tables.isDecimal
    if !digits.isEmpty && endsSegment (rest.dropWhile tables.isDecimal) then
      some (String.ofList digits)
    else none
  else none

def extractPageId (url : String) : Except PyError (Option String) :=
  match url.toList.tails.findSome? (pathIdHere tables) with
  | some pageId => .ok (some pageId)
  | none => tables.queryPageId url

/-- `valid_ids` and `errors` so far. -/
structure PinReading where
  pins : List (String × String) := []
  notices : List ContextNotice := []

def readUrl (reading : PinReading) (url : String) : Except PyError PinReading := do
  match ← extractPageId tables url with
  | none => pure { reading with notices := reading.notices ++ [.unrecognised url] }
  | some pageId =>
      if pageId ∈ reading.pins.map Prod.snd then pure reading
      else pure { reading with pins := reading.pins ++ [(url, pageId)] }

/-- The pinned pages, each once, in the order of their first mention. -/
def readUrls (urls : List String) : Except PyError PinReading := urls.foldlM (readUrl tables) {}

end Urls

section Search

variable (tables : UrlTables) (settings : ResearchSettings) (side : ContextSide)
variable (call : ContextCall)

def contextVariants (intent : QueryIntent) : CqlVariants :=
  buildCqlVariants intent (resolvedSpaces settings call.spaces)
    (call.recencyDays.getD settings.recencyDays)

/-- The pages and the queries of the keyword search, which does not run when
the pinned pages fill the budget. -/
def keywordSearch (pinned : Nat) : Except PyError (List ConfluencePage × List String) :=
  if pinned < call.limit then do
    let intent ← side.analyseIntent call.query
    let spaces := resolvedSpaces settings call.spaces
    let recency := call.recencyDays.getD settings.recencyDays
    pure (sliceTo call.limit (searchPagesMulti side.search intent spaces recency),
      (contextVariants settings call intent).asList)
  else .ok ([], [])

/-- `pin_results` -/
def pinOutcomes (pins : List (String × String)) :
    List ((String × String) × Gathered ConfluencePage) :=
  pins.zipIdx.map fun started =>
    (started.1,
      side.fetchPageMetadata started.2 started.1.2 started.1.1 call.forceRefresh)

def pinnedPages (pins : List (String × String)) : List ConfluencePage :=
  (pinOutcomes side call pins).filterMap fun fetched => fetched.2.value?

def pinNotices (pins : List (String × String)) : List ContextNotice :=
  (pinOutcomes side call pins).filterMap fun fetched =>
    fetched.2.message?.map (ContextNotice.fetchFailed fetched.1.1)

/-- `all_pages` -/
def mergePages (limit : Int) (pinned searched : List ConfluencePage) : List ConfluencePage :=
  sliceTo limit
    (pinned ++ searched.filter fun page => page.pageId ∉ pinned.map ConfluencePage.pageId)

/-- `gather_results` with their pages -/
def pageOutcomes (pages : List ConfluencePage) :
    List (ConfluencePage × Gathered ContextExtractionOutput) :=
  pages.zipIdx.map fun started => (started.1, side.fetchOne started.2 started.1 call.forceRefresh)

def contextResult (page : ConfluencePage) (extraction : ContextExtractionOutput) :
    ContextSearchResult where
  page := page
  jiraKeysMentioned := extraction.jiraKeysMentioned
  extractedMitigations := extraction.actionItems
  extractedOwners := extraction.mitigationOwners

def pageResults (pages : List ConfluencePage) : List ContextSearchResult :=
  (pageOutcomes side call pages).filterMap fun processed =>
    processed.2.value?.map (contextResult processed.1)

def pageNotices (pages : List ConfluencePage) : List ContextNotice :=
  (pageOutcomes side call pages).filterMap fun processed =>
    processed.2.message?.map (ContextNotice.pageFailed processed.1.pageId)

def searchConfluence : Except PyError ConfluenceContextResponse := do
  let reading ← readUrls tables call.pageUrls
  let (searched, cqlUsed) ← keywordSearch settings side call reading.pins.length
  let pages := mergePages call.limit (pinnedPages side call reading.pins) searched
  pure {
    results := pageResults side call pages
    totalPagesFound := pages.length
    cqlUsed := cqlUsed
    errors := reading.notices ++ pinNotices side call reading.pins ++ pageNotices side call pages }

/-- `search_context`; without a Confluence client there is nothing to search. -/
def searchContext (configured : Option ContextSide) : Except PyError ConfluenceContextResponse :=
  match configured with
  | none => .ok {}
  | some side => searchConfluence tables settings side call

end Search

end AtlasMindNetra.SearchContext
