import AtlasMindNetra.PythonValues

/-!
# The Confluence pipeline

The page cache of `confluence/client/client.py`, the extraction cache of
`confluence/extraction/extractor.py` and the coroutines of
`core/briefing_orchestrator.py` that use them (`_fetch_and_extract` and
`search_context._fetch_one`), with their locks and their common semaphore. A
coroutine moves from one suspension point to the next, in any order with the
others. A page of the site is the sequence of its bodies, and the number of a
body in it stands for its `last_modified` stamp. Either cache may lose any
entry at any time, by age, by size or by recency of use. A turn tests and reads
a cache at one time: the `KeyError` of an entry that expires in between is left
out here, and is the subject of `PageLookups`.
-/

namespace AtlasMindNetra.ConfluencePipeline

open AtlasMindNetra.PythonValues

set_option autoImplicit false

/-- What a search or the page API says of a page, as far as the caches read it. -/
structure ConfluencePage where
  pageId : String
  lastModified : Nat
  deriving DecidableEq

abbrev Sections := List (String × String)

structure ContextExtractionOutput where
  jiraKeysMentioned : List String := []
  mitigationOwners : List String := []
  severitySignals : List String := []
  actionItems : List String := []
  deriving DecidableEq

/-- An output of the LLM. The sections of its prompt are kept only to be reasoned about. -/
structure Extraction where
  output : ContextExtractionOutput
  sections : Sections
  deriving DecidableEq

/-- Where a page coroutine stands in `get_page_sections` and then in `extract`. -/
inductive PagePhase where
  /-- waiting for the semaphore -/
  | queued
  /-- before the first lookup in the page cache -/
  | reading
  /-- waiting for the lock of the page -/
  | locking
  /-- waiting for the page API, under the lock -/
  | fetching
  | fetched (html : String)
  /-- before the first lookup in the extraction cache -/
  | extracting (sections : Sections)
  /-- waiting for the lock of the page's version -/
  | extractLocking (sections : Sections)
  /-- waiting for the LLM, under the lock -/
  | asking (sections : Sections)
  | finished
  deriving DecidableEq

/-- Where a coroutine of `fetch_page_metadata` stands. -/
inductive PinPhase where
  | locking
  | fetching
  | fetched (html : String) (lastModified : Nat)
  | finished
  deriving DecidableEq

/-- `fetch_page_metadata` takes `force_refresh` too and does not read it. -/
inductive Coroutine where
  | page (page : ConfluencePage) (forceRefresh : Bool) (phase : PagePhase)
  | pin (pageId : String) (phase : PinPhase)
  deriving DecidableEq

structure PipelineState where
  site : String → List String
  found : List ConfluencePage
  pageCache : OrderedDict String String
  extractCache : OrderedDict (String × Nat) Extraction
  pageLocks : List String
  extractLocks : List (String × Nat)
  slots : Nat
  coroutines : List Coroutine

inductive PipelineInput where
  | edit (pageId html : String)
  | search (pageId : String)
  | beginPage (page : ConfluencePage) (forceRefresh : Bool)
  | beginPin (pageId : String)
  | resume (index : Nat)
  | respond (index : Nat)
  | refuse (index : Nat) (message : String)
  | reply (index : Nat) (reply : Except AgentError ContextExtractionOutput)
  | losePage (pageId : String)
  | loseExtraction (key : String × Nat)
  deriving DecidableEq

inductive PipelineOutput where
  | silent
  /-- `extract` returns. -/
  | extracted (page : ConfluencePage) (extraction : Extraction)
  | raised (error : PyError)
  deriving DecidableEq

namespace PipelineState

/-- Empty caches over a site, and a semaphore with `slots` free slots. -/
def start (site : String → List String) (slots : Nat) : PipelineState where
  site := site
  found := []
  pageCache := ∅
  extractCache := ∅
  pageLocks := []
  extractLocks := []
  slots := slots
  coroutines := []

def moved (state : PipelineState) (index : Nat) (coroutine : Coroutine) : PipelineState :=
  { state with coroutines := state.coroutines.set index coroutine }

def returned (state : PipelineState) (page : ConfluencePage) : PipelineState :=
  { state with found := state.found ++ [page] }

/-- `async with sem` is left. -/
def released (state : PipelineState) : PipelineState := { state with slots := state.slots + 1 }

end PipelineState

def extractionKey (page : ConfluencePage) : String × Nat := (page.pageId, page.lastModified)

def cachedPage (state : PipelineState) (page : ConfluencePage) (forceRefresh : Bool) :
    Option String :=
  if forceRefresh then none else state.pageCache.get? page.pageId

def cachedExtraction (state : PipelineState) (page : ConfluencePage) (forceRefresh : Bool) :
    Option Extraction :=
  if forceRefresh then none else state.extractCache.get? (extractionKey page)

section Coroutines

-- `extract_sections` for the target headings and the character budget
variable (extractSections : String → Sections)

/-- A turn of `_fetch_one`, up to its next suspension point or lookup. -/
def resumePage (state : PipelineState) (index : Nat) (page : ConfluencePage)
    (forceRefresh : Bool) : PagePhase → PipelineState × PipelineOutput
  | .queued =>
      if state.slots = 0 then (state, .silent)
      else
        ({ state with slots := state.slots - 1 }.moved index (.page page forceRefresh .reading),
          .silent)
  | .reading =>
      match cachedPage state page forceRefresh with
      | some html =>
          (state.moved index (.page page forceRefresh (.extracting (extractSections html))),
            .silent)
      | none => (state.moved index (.page page forceRefresh .locking), .silent)
  | .locking =>
      if page.pageId ∈ state.pageLocks then (state, .silent)
      else
        match cachedPage state page forceRefresh with
        | some html =>
            (state.moved index (.page page forceRefresh (.extracting (extractSections html))),
              .silent)
        | none =>
            ({ state with pageLocks := page.pageId :: state.pageLocks }.moved index
              (.page page forceRefresh .fetching), .silent)
  | .fetched html =>
      ({ state with
          pageCache := state.pageCache.set page.pageId html
          pageLocks := state.pageLocks.erase page.pageId }.moved index
        (.page page forceRefresh (.extracting (extractSections html))), .silent)
  | .extracting sections =>
      match cachedExtraction state page forceRefresh with
      | some extraction =>
          (state.released.moved index (.page page forceRefresh .finished),
            .extracted page extraction)
      | none => (state.moved index (.page page forceRefresh (.extractLocking sections)), .silent)
  | .extractLocking sections =>
      if extractionKey page ∈ state.extractLocks then (state, .silent)
      else
        match cachedExtraction state page forceRefresh with
        | some extraction =>
            (state.released.moved index (.page page forceRefresh .finished),
              .extracted page extraction)
        | none =>
            ({ state with extractLocks := extractionKey page :: state.extractLocks }.moved index
              (.page page forceRefresh (.asking sections)), .silent)
  | .fetching | .asking _ | .finished => (state, .silent)

/-- A turn of `fetch_page_metadata`. The cache is written after the lock is
released, but before anything else can run. -/
def resumePin (state : PipelineState) (index : Nat) (pageId : String) :
    PinPhase → PipelineState × PipelineOutput
  | .locking =>
      if pageId ∈ state.pageLocks then (state, .silent)
      else
        ({ state with pageLocks := pageId :: state.pageLocks }.moved index
          (.pin pageId .fetching), .silent)
  | .fetched html lastModified =>
      (({ state with
          pageLocks := state.pageLocks.erase pageId
          pageCache := state.pageCache.set pageId html }.returned ⟨pageId, lastModified⟩).moved
        index (.pin pageId .finished), .silent)
  | .fetching | .finished => (state, .silent)

def resume (state : PipelineState) (index : Nat) : PipelineState × PipelineOutput :=
  match state.coroutines[index]? with
  | some (.page page forceRefresh phase) =>
      resumePage extractSections state index page forceRefresh phase
  | some (.pin pageId phase) => resumePin state index pageId phase
  | none => (state, .silent)

def respond (state : PipelineState) (index : Nat) : PipelineState :=
  match state.coroutines[index]? with
  | some (.page page forceRefresh .fetching) =>
      match (state.site page.pageId).getLast? with
      | some html => state.moved index (.page page forceRefresh (.fetched html))
      | none => state
  | some (.pin pageId .fetching) =>
      match (state.site pageId).getLast? with
      | some html =>
          state.moved index (.pin pageId (.fetched html ((state.site pageId).length - 1)))
      | none => state
  | _ => state

def refuse (state : PipelineState) (index : Nat) (message : String) :
    PipelineState × PipelineOutput :=
  match state.coroutines[index]? with
  | some (.page page forceRefresh .fetching) =>
      ({ state.released with pageLocks := state.pageLocks.erase page.pageId }.moved index
        (.page page forceRefresh .finished), .raised (.other message))
  | some (.pin pageId .fetching) =>
      ({ state with pageLocks := state.pageLocks.erase pageId }.moved index
        (.pin pageId .finished), .raised (.other message))
  | _ => (state, .silent)

def agentFailure (page : ConfluencePage) : AgentError → PyError
  | .agentRun message | .user message =>
      .analysis s!"context extraction LLM call failed for page {page.pageId}: {message}"
  | .other message => .other message

def reply (state : PipelineState) (index : Nat)
    (answer : Except AgentError ContextExtractionOutput) : PipelineState × PipelineOutput :=
  match state.coroutines[index]? with
  | some (.page page forceRefresh (.asking sections)) =>
      let unlocked :=
        { state.released with extractLocks := state.extractLocks.erase (extractionKey page) }
      match answer with
      | .ok output =>
          let extraction := { output, sections }
          ({ unlocked with
              extractCache := state.extractCache.set (extractionKey page) extraction }.moved index
            (.page page forceRefresh .finished), .extracted page extraction)
      | .error error =>
          (unlocked.moved index (.page page forceRefresh .finished),
            .raised (agentFailure page error))
  | _ => (state, .silent)

def edited (site : String → List String) (pageId html : String) : String → List String :=
  fun other => if other = pageId then site other ++ [html] else site other

/-- A search finds a page that exists, with its current stamp. -/
def search (state : PipelineState) (pageId : String) : PipelineState :=
  match state.site pageId with
  | [] => state
  | _ :: later => state.returned ⟨pageId, later.length⟩

def pipelineStep (state : PipelineState) : PipelineInput → PipelineState × PipelineOutput
  | .edit pageId html => ({ state with site := edited state.site pageId html }, .silent)
  | .search pageId => (search state pageId, .silent)
  | .beginPage page forceRefresh =>
      if page ∈ state.found then
        ({ state with
            coroutines := state.coroutines ++ [.page page forceRefresh .queued] }, .silent)
      else (state, .silent)
  | .beginPin pageId =>
      ({ state with coroutines := state.coroutines ++ [.pin pageId .locking] }, .silent)
  | .resume index => resume extractSections state index
  | .respond index => (respond state index, .silent)
  | .refuse index message => refuse state index message
  | .reply index answer => reply state index answer
  | .losePage pageId => ({ state with pageCache := state.pageCache.erase pageId }, .silent)
  | .loseExtraction key => ({ state with extractCache := state.extractCache.erase key }, .silent)

end Coroutines

end AtlasMindNetra.ConfluencePipeline
