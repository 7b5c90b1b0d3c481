import AtlasMindNetra.AttemptRules
import AtlasMindNetra.HtmlExtractor
import AtlasMindNetra.JsonTrees
import AtlasMindNetra.TtlRules

/-!
# Pages and the page cache

`get_page_sections` and `fetch_page_metadata` of `confluence/client/client.py`
with the page cache that they share. Its values are what the page API gave as a
body: `get_page_sections` makes a text of it first, `fetch_page_metadata` does
not. Both take the response apart by chained lookups that may raise. While a
call waits, for the lock or for the API, other calls may change the cache.
-/

namespace AtlasMindNetra.ConfluenceClient

open AtlasMindNetra.PythonValues AtlasMindNetra.JsonTrees AtlasMindNetra.TtlRules
open AtlasMindNetra.AttemptRules AtlasMindNetra.HtmlExtractor

set_option autoImplicit false

/-- What a call raises; `request` is the error of the page API. -/
inductive PageError (Error : Type) where
  | request (error : Error)
  | attributeError (message : String)
  | keyError (key : String)
  | typeError (message : String)
  deriving DecidableEq

structure ConfluencePage where
  pageId : String
  title : String
  spaceKey : String
  url : String
  lastModified : String
  cqlExcerpt : String := ""
  deriving DecidableEq

structure ClientTables extends HtmlTables where
  /-- `str(value)` -/
  str : Json → String

abbrev PageCache (Time : Type) := TtlCache String Json Time

/-- The settings of the client. For its page cache: `time + ttl`, and what a write
leaves of the entries to make room. -/
structure PageSettings (Time : Type) where
  maxRetries : Int := 3
  contentMaxChars : Int := 10000
  expiry : Time → Time
  makeRoom : OrderedDict String (Json × Time) → OrderedDict String (Json × Time)

section Client

variable {Error Time : Type} [LinearOrder Time]
variable (tables : ClientTables) (settings : PageSettings Time)
variable (isRetryable : Error → Bool)

/-- `value.get(key, default)` -/
def getOr (value : Json) (key : String) (default : Json) : Except (PageError Error) Json :=
  match value with
  | .obj fields => .ok ((fieldOf key fields).getD default)
  | other => .error (.attributeError ("'" ++ other.typeName ++ "' object has no attribute 'get'"))

/-- `raw[key]` -/
def entryOf (fields : List (String × Json)) (key : String) : Except (PageError Error) Json :=
  match fieldOf key fields with
  | some value => .ok value
  | none => .error (.keyError key)

/-- `(raw.get(key) or {})` -/
def objectOr (fields : List (String × Json)) (key : String) : Json :=
  match fieldOf key fields with
  | some value => if value.truthy then value else .obj []
  | none => .obj []

/-- `raw.get("body", {}).get("view", {}).get("value", "")` -/
def bodyValue (raw : Json) : Except (PageError Error) Json := do
  let body ← getOr raw "body" (.obj [])
  let view ← getOr body "view" (.obj [])
  getOr view "value" (.str "")

/-- The page that `fetch_page_metadata` makes of a response. -/
def pageOf (raw : Json) (sourceUrl : String) : Except (PageError Error) ConfluencePage :=
  match raw with
  | .obj fields => do
      let id ← entryOf fields "id"
      let spaceKey ← getOr (objectOr fields "space") "key" (.str "")
      let lastModified ← getOr (objectOr fields "version") "when" (.str "")
      .ok
        { pageId := tables.str id
          title := tables.str ((fieldOf "title" fields).getD (.str ""))
          spaceKey := tables.str spaceKey
          url := sourceUrl
          lastModified := tables.str lastModified }
  | other => .error (.attributeError ("'" ++ other.typeName ++ "' object has no attribute 'get'"))

/-- `get_page_by_id`, attempted again after connection errors and timeouts. -/
def requestPage (attempts : Nat → Except Error Json) : Except Error Json :=
  (retrying isRetryable attempts (settings.maxRetries - 1).toNat 0).2

def fetchPageHtml (attempts : Nat → Except Error Json) : Except (PageError Error) String :=
  match requestPage settings isRetryable attempts with
  | .error error => .error (.request error)
  | .ok raw => (bodyValue raw).map tables.str

/-- What a call of `get_page_sections` meets: the readings of the clock in turn,
the cache at the call, under the lock and when the body has come, and what the
attempts at the request end in. -/
structure SectionsSide (Error Time : Type) where
  clock : Nat → Time
  cache : PageCache Time
  underLock : PageCache Time
  afterFetch : PageCache Time
  attempts : Nat → Except Error Json

variable (pageId : String) (targetHeadings : List String)

/-- `extract_sections` of a cached body: the pattern search refuses what is no text. -/
def sectionsOf (html : Json) : Except (PageError Error) (OrderedDict String String) :=
  match html with
  | .str text =>
      .ok (extractSections tables.toHtmlTables text targetHeadings settings.contentMaxChars)
  | other =>
      if targetHeadings.isEmpty then .ok ∅
      else
        .error (.typeError
          ("expected string or bytes-like object, got '" ++ other.typeName ++ "'"))

/-- `extract_sections(self._page_cache[page_id], ...)` -/
def readSections (cache : PageCache Time) (now : Time) :
    Except (PageError Error) (OrderedDict String String) :=
  match cache.read? now pageId with
  | some html => sectionsOf tables settings targetHeadings html
  | none => .error (.keyError pageId)

/-- The part under the lock, from reading number `turn` of the clock on. -/
def lockedSections (forceRefresh : Bool) (side : SectionsSide Error Time) (turn : Nat) :
    Except (PageError Error) (OrderedDict String String) × PageCache Time :=
  if !forceRefresh && side.underLock.contains (side.clock turn) pageId then
    (readSections tables settings pageId targetHeadings side.underLock (side.clock (turn + 1)),
      side.underLock)
  else
    match fetchPageHtml tables settings isRetryable side.attempts with
    | .error error => (.error error, side.afterFetch)
    | .ok html =>
        (sectionsOf tables settings targetHeadings (.str html),
          side.afterFetch.write settings.makeRoom (settings.expiry (side.clock (turn + 1))) pageId
            (.str html))

def getPageSections (forceRefresh : Bool) (side : SectionsSide Error Time) :
    Except (PageError Error) (OrderedDict String String) × PageCache Time :=
  if !forceRefresh && side.cache.contains (side.clock 0) pageId then
    (readSections tables settings pageId targetHeadings side.cache (side.clock 1), side.cache)
  else lockedSections tables settings isRetryable pageId targetHeadings forceRefresh side 1

/-- The body is cached before the page is made of the rest of the response. -/
def fetchPageMetadata (cache : PageCache Time) (now : Time) (sourceUrl : String)
    (attempts : Nat → Except Error Json) :
    Except (PageError Error) ConfluencePage × PageCache Time :=
  match requestPage settings isRetryable attempts with
  | .error error => (.error (.request error), cache)
  | .ok raw =>
      match bodyValue raw with
      | .error error => (.error error, cache)
      | .ok html =>
          (pageOf tables raw sourceUrl,
            cache.write settings.makeRoom (settings.expiry now) pageId html)

end Client

end AtlasMindNetra.ConfluenceClient
