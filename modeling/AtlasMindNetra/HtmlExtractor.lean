import AtlasMindNetra.PythonValues
import AtlasMindNetra.ScanRules

/-!
# Page sections and the extraction prompt

`extract_sections` of `confluence/client/html_extractor.py`, and what
`_build_extraction_prompt` of `confluence/extraction/extractor.py` makes of the
sections. Both regular expressions of the extractor are patterns of a scan.
What `html.parser` reads as text is a table.
-/

namespace AtlasMindNetra.HtmlExtractor

open AtlasMindNetra.PythonValues AtlasMindNetra.ScanRules

set_option autoImplicit false

structure HtmlTables extends TextTables where
  strip : String → String
  /-- the texts that `html.parser` hands to `handle_data` -/
  dataPieces : String → List String

/-- `h` under `re.IGNORECASE` -/
def isHeadingLetter (char : Char) : Bool := char == 'h' || char == 'H'

/-- `[1-6]` -/
def isHeadingLevel (char : Char) : Bool := ['1', '2', '3', '4', '5', '6'].contains char

/-- What follows the first `>`. -/
def afterBracket (text : List Char) : Option (List Char) :=
  match text.dropWhile (· ≠ '>') with
  | [] => none
  | _ :: rest => some rest

/-- `<h[1-6][^>]*>` -/
def headingOpen : List Char → Option (List Char)
  | '<' :: letter :: level :: rest =>
      if isHeadingLetter letter && isHeadingLevel level then afterBracket rest else none
  | _ => none

/-- `</h[1-6]>` -/
def headingClose : List Char → Option (List Char)
  | '<' :: '/' :: letter :: level :: '>' :: rest =>
      if isHeadingLetter letter && isHeadingLevel level then some rest else none
  | _ => none

/-- `(.*?)</h[1-6]>`, with the group and what follows -/
def untilClose : List Char → Option (List Char × List Char)
  | [] => none
  | char :: rest =>
      match headingClose (char :: rest) with
      | some after => some ([], after)
      | none => (untilClose rest).map fun found => (char :: found.1, found.2)

/-- `_HEADING_RE` -/
def headingHere (text : List Char) : Option (List Char × List Char) :=
  (headingOpen text).bind untilClose

/-- `_TAG_RE`: `<[^>]+>` -/
def tagHere : List Char → Option (Unit × List Char)
  | '<' :: first :: rest =>
      if first = '>' then none else (afterBracket (first :: rest)).map fun after => ((), after)
  | _ => none

/-- `text[:count]` -/
def cutText (count : Int) (text : String) : String := String.ofList (sliceTo count text.toList)

section Extraction

variable (tables : HtmlTables)

def stripHtml (html : String) : String :=
  String.intercalate " " (((tables.dataPieces html).map tables.strip).filter fun piece =>
    piece ≠ "")

/-- `raw_heading` -/
def headingText (inner : List Char) : String :=
  tables.strip (String.ofList (remove tagHere inner))

def headingSections (html : String) : List (List Char × List Char) :=
  (split headingHere html.toList).2

def targetLower (targetHeadings : List String) : OrderedDict String String :=
  targetHeadings.foldl (fun table heading => table.set (tables.lower heading) heading) ∅

/-- The sections under a target heading, in page order, each with its plain text. -/
def foundSections (html : String) (targetHeadings : List String) : List (String × String) :=
  (headingSections html).filterMap fun found =>
    ((targetLower tables targetHeadings).get?
      (tables.lower (headingText tables found.1))).map fun original =>
        (original, stripHtml tables (String.ofList found.2))

/-- `extract_sections`; a later section under the same heading replaces an
earlier one. -/
def extractSections (html : String) (targetHeadings : List String) (maxChars : Int) :
    OrderedDict String String :=
  (foundSections tables html targetHeadings).foldl (fun sections found =>
    sections.set found.1 (cutText maxChars found.2)) ∅

end Extraction

/-- `_TARGET_HEADINGS` -/
def pageTargetHeadings : List String :=
  ["At Risk", "Blocked", "Blocker", "Mitigation", "Action Items", "Actions", "Risk", "Escalation",
    "Open Items", "Status"]

structure PromptPage where
  title : String
  spaceKey : String
  lastModified : String

def promptSections (sections : OrderedDict String String) : List (String × String) :=
  sections.entries.map fun entry => (entry.1, firstChars 2000 entry.2)

def sectionLines (sections : OrderedDict String String) : List String :=
  if sections.entries.isEmpty then ["(no target sections found in this page)", ""]
  else (promptSections sections).flatMap fun shown => ["=== " ++ shown.1 ++ " ===", shown.2, ""]

def buildExtractionPrompt (page : PromptPage) (sections : OrderedDict String String) : String :=
  String.intercalate "\n"
    (["OPERATION: EXTRACT CONFLUENCE CONTEXT",
      "PAGE: " ++ page.title,
      "SPACE: " ++ page.spaceKey,
      "LAST MODIFIED: " ++ page.lastModified,
      ""] ++ sectionLines sections ++
      ["-> Extract jira_keys_mentioned: all Jira issue keys (PROJECT-NNN format) found.",
        "-> Extract mitigation_owners: person names in owner / responsible / action columns.",
        "-> Extract severity_signals: words like blocked, escalated, at risk, critical.",
        "-> Extract action_items: explicit action/task lines or table rows with owners/dates.",
        "-> Return empty lists for categories not found. Never fabricate data."])

end AtlasMindNetra.HtmlExtractor
