import AtlasMindNetra.CqlStructure
import AtlasMindNetra.SearchContext

/-!
# Constraints of a context search

The space clause stands in each of the three queries. The recency constraint
stands in two of them unless the third search text is missing, and it stands
there also when the caller asks for none, because the default takes its place.
Values hold no double quote here, but one that ends with a backslash keeps its
literal open, and the clauses behind it are swallowed.
-/

namespace AtlasMindNetra.SearchContext

open AtlasMindNetra.PythonValues AtlasMindNetra.ConfluenceResearch AtlasMindNetra.CqlBuilder
open AtlasMindNetra.QuotingRules

set_option autoImplicit false

/-- The query has the clause outside of its literals, with these literals in it. -/
def Carries (query : String) (clause : List (Piece Char)) : Prop := meant clause <:+: readCql query

def Says (query word : String) : Prop := word.toList.map some <:+: outside (readCql query)

def spaceClausePieces (spaces : List String) : List (Piece Char) :=
  text "space IN (" :: listedValues ", " spaces ++ [text ")"]

def recencyClausePieces (days : Int) : List (Piece Char) :=
  [text "lastModified > now(", value ("-" ++ toString days ++ "d"), text ")"]

def PlainPieces (pieces : List (Piece Char)) : Prop := ∀ piece ∈ pieces, piece.Plain '"' '\\'

def Lacks (char : Char) (pieces : List (Piece Char)) : Prop :=
  ∀ piece ∈ pieces, piece.Quoteless char

theorem literals_read
    (query : String)
    (pieces : List (Piece Char))
    (same : writtenCql pieces = query.toList)
    (plain : PlainPieces pieces)
    (safe : SafePieces pieces) : readCql query = meant pieces := by
  unfold readCql
  rw [← same]
  exact (read_written_iff '"' '\\' pieces fun piece member =>
    plain_quoteless '"' '\\' piece (plain piece member)).mpr safe

theorem says_of_carries
    (query fixed word : String)
    (rest : List (Piece Char))
    (starts : word.toList <+: fixed.toList)
    (carried : Carries query (text fixed :: rest)) : Says query word := by
  have shown : outsidePieces (text fixed :: rest) <:+: outside (readCql query) := by
    unfold outsidePieces outside
    exact carried.map _
  rw [outside_text] at shown
  unfold Says
  exact ((starts.map _).trans (List.prefix_append _ _)).isInfix.trans shown

theorem outside_lacks
    (char : Char)
    (pieces : List (Piece Char))
    (lacks : Lacks char pieces) : some char ∉ outside (meant pieces) := by
  intro shown
  obtain ⟨token, inTokens, isChar⟩ := List.mem_map.mp shown
  obtain ⟨piece, inPieces, inPiece⟩ := List.mem_flatMap.mp inTokens
  have without := lacks piece inPieces
  cases piece with
  | text symbols =>
      obtain ⟨symbol, inText, rfl⟩ := List.mem_map.mp inPiece
      cases isChar
      exact without inText
  | value symbols =>
      cases List.mem_singleton.mp inPiece
      cases isChar

theorem says_nothing
    (query word : String)
    (char : Char)
    (absent : some char ∉ outside (readCql query))
    (inWord : char ∈ word.toList) : ¬ Says query word := by
  intro said
  exact absent (said.subset (List.mem_map_of_mem inWord))

theorem plain_together (first second : List (Piece Char)) :
    PlainPieces (first ++ second) ↔ PlainPieces first ∧ PlainPieces second :=
  List.forall_mem_append

theorem plain_text (fixed : String) (rest : List (Piece Char)) :
    PlainPieces (text fixed :: rest) ↔
      ('"' ∉ fixed.toList ∧ '\\' ∉ fixed.toList) ∧ PlainPieces rest :=
  List.forall_mem_cons

theorem plain_value (content : String) (rest : List (Piece Char)) :
    PlainPieces (value content :: rest) ↔ '"' ∉ content.toList ∧ PlainPieces rest :=
  List.forall_mem_cons

theorem plain_nothing : PlainPieces [] := fun _ member => by cases member

theorem plain_listed
    (separator : String)
    (values : List String)
    (plainSeparator : '"' ∉ separator.toList ∧ '\\' ∉ separator.toList)
    (plainValues : ∀ content ∈ values, '"' ∉ content.toList) :
    PlainPieces (listedValues separator values) := by
  apply listed_plain '"' '\\' separator.toList _ plainSeparator
  intro symbols member
  obtain ⟨content, inValues, rfl⟩ := List.mem_map.mp member
  exact plainValues content inValues

theorem lacks_together (char : Char) (first second : List (Piece Char)) :
    Lacks char (first ++ second) ↔ Lacks char first ∧ Lacks char second :=
  List.forall_mem_append

theorem lacks_text (char : Char) (fixed : String) (rest : List (Piece Char)) :
    Lacks char (text fixed :: rest) ↔ char ∉ fixed.toList ∧ Lacks char rest :=
  List.forall_mem_cons

theorem lacks_value (char : Char) (content : String) (rest : List (Piece Char)) :
    Lacks char (value content :: rest) ↔ Lacks char rest := by
  rw [Lacks, List.forall_mem_cons]
  exact and_iff_right trivial

theorem lacks_nothing (char : Char) : Lacks char [] := fun _ member => by cases member

theorem lacks_listed
    (char : Char)
    (separator : String)
    (values : List String)
    (lacks : char ∉ separator.toList) : Lacks char (listedValues separator values) :=
  listed_quoteless char separator.toList _ lacks

theorem spaces_part_clause
    (spaces : List String)
    (given : spaces ≠ []) :
    spacesPart spaces = text " AND " :: spaceClausePieces spaces := by
  cases spaces with
  | nil => exact absurd rfl given
  | cons space rest => rfl

theorem recency_part_clause
    (days : Int) : recencyPart days = text " AND " :: recencyClausePieces days := rfl

theorem days_plain (days : Int) : '"' ∉ ("-" ++ toString days ++ "d").toList := by
  intro member
  rw [String.toList_append, String.toList_append, List.mem_append, List.mem_append] at member
  rcases member with (sign | inNumber) | unit
  · exact absurd sign (by decide)
  · rcases int_text_char days '"' inNumber with sign | digit
    · exact absurd sign (by decide)
    · exact absurd digit (by decide)
  · exact absurd unit (by decide)

theorem plain_spaces_part
    (spaces : List String)
    (plain : ∀ space ∈ spaces, '"' ∉ space.toList) : PlainPieces (spacesPart spaces) := by
  cases spaces with
  | nil => exact plain_nothing
  | cons space rest =>
      rw [spaces_part_clause _ (List.cons_ne_nil _ _), spaceClausePieces]
      simp only [List.cons_append, plain_text, plain_together]
      exact ⟨by decide, by decide, plain_listed _ _ (by decide) plain, by decide, plain_nothing⟩

theorem lacks_spaces_part
    (char : Char)
    (spaces : List String)
    (joined : char ∉ " AND ".toList)
    (begun : char ∉ "space IN (".toList)
    (separated : char ∉ ", ".toList)
    (ended : char ∉ ")".toList) : Lacks char (spacesPart spaces) := by
  cases spaces with
  | nil => exact lacks_nothing char
  | cons space rest =>
      rw [spaces_part_clause _ (List.cons_ne_nil _ _), spaceClausePieces]
      simp only [List.cons_append, lacks_text, lacks_together]
      exact ⟨joined, begun, lacks_listed char _ _ separated, ended, lacks_nothing char⟩

theorem plain_recency_part (days : Int) : PlainPieces (recencyPart days) := by
  rw [recency_part_clause, recencyClausePieces]
  simp only [plain_text, plain_value]
  exact ⟨by decide, by decide, days_plain days, by decide, plain_nothing⟩

theorem lacks_recency_part
    (char : Char)
    (days : Int)
    (joined : char ∉ " AND ".toList)
    (begun : char ∉ "lastModified > now(".toList)
    (ended : char ∉ ")".toList) : Lacks char (recencyPart days) := by
  rw [recency_part_clause, recencyClausePieces]
  simp only [lacks_text, lacks_value]
  exact ⟨joined, begun, ended, lacks_nothing char⟩

def recencyTail : Option Int → List (Piece Char)
  | some days => recencyPart days
  | none => []

/-- The query searches, is restricted to the spaces, and to the days if any. -/
def Shaped (query : String) (spaces : List String) (recency : Option Int) : Prop :=
  ∃ base, writtenCql (base ++ spacesPart spaces ++ recencyTail recency) = query.toList ∧
    PlainPieces base ∧ SafePieces base ∧ Lacks 'M' base ∧ Lacks 'p' base

section Shapes

variable (query : String) (spaces : List String) (recency : Option Int)
variable (plainSpaces : ∀ space ∈ spaces, '"' ∉ space.toList)
variable (safeSpaces : ∀ space ∈ spaces, SelfEnclosed space)

include plainSpaces

theorem shaped_plain
    (base : List (Piece Char))
    (plain : PlainPieces base) :
    PlainPieces (base ++ spacesPart spaces ++ recencyTail recency) := by
  rw [plain_together, plain_together]
  refine ⟨⟨plain, plain_spaces_part spaces plainSpaces⟩, ?_⟩
  cases recency with
  | none => exact plain_nothing
  | some days => exact plain_recency_part days

include safeSpaces

omit plainSpaces in
theorem shaped_safe
    (base : List (Piece Char))
    (safe : SafePieces base) :
    SafePieces (base ++ spacesPart spaces ++ recencyTail recency) := by
  rw [safe_together, safe_together, safe_spaces_part]
  refine ⟨⟨safe, safeSpaces⟩, ?_⟩
  cases recency with
  | none => exact safe_nothing
  | some days => exact safe_recency_part days

theorem shaped_read
    (shaped : Shaped query spaces recency) :
    ∃ base, readCql query = meant (base ++ spacesPart spaces ++ recencyTail recency) ∧
      Lacks 'M' base ∧ Lacks 'p' base := by
  obtain ⟨base, written, plain, safe, lacks⟩ := shaped
  refine ⟨base, literals_read query _ written ?_ ?_, lacks⟩
  · exact shaped_plain spaces recency plainSpaces base plain
  · exact shaped_safe spaces recency safeSpaces base safe

theorem shaped_carries_spaces
    (shaped : Shaped query spaces recency)
    (given : spaces ≠ []) : Carries query (spaceClausePieces spaces) := by
  obtain ⟨base, reading, _⟩ := shaped_read query spaces recency plainSpaces safeSpaces shaped
  have parts : base ++ spacesPart spaces ++ recencyTail recency =
      base ++ [text " AND "] ++ spaceClausePieces spaces ++ recencyTail recency := by
    rw [spaces_part_clause spaces given, List.append_assoc base [_], List.singleton_append]
  unfold Carries
  rw [reading, parts, meant_append, meant_append]
  exact ⟨_, _, rfl⟩

theorem shaped_carries_recency
    (days : Int)
    (shaped : Shaped query spaces (some days)) : Carries query (recencyClausePieces days) := by
  obtain ⟨base, reading, _⟩ := shaped_read query spaces _ plainSpaces safeSpaces shaped
  have parts : base ++ spacesPart spaces ++ recencyTail (some days) =
      base ++ spacesPart spaces ++ [text " AND "] ++ recencyClausePieces days ++ [] := by
    rw [recencyTail, recency_part_clause, List.append_nil, List.append_assoc _ [_],
      List.singleton_append]
  unfold Carries
  rw [reading, parts, meant_append, meant_append]
  exact ⟨_, _, rfl⟩

theorem shaped_without_spaces
    (shaped : Shaped query spaces recency)
    (none : spaces = []) : ¬ Says query "space" := by
  obtain ⟨base, reading, _, lacks⟩ := shaped_read query spaces recency plainSpaces safeSpaces shaped
  apply says_nothing query "space" 'p' _ (by decide)
  rw [reading]
  apply outside_lacks
  subst none
  rw [lacks_together, lacks_together]
  refine ⟨⟨lacks, lacks_nothing 'p'⟩, ?_⟩
  cases recency with
  | none => exact lacks_nothing 'p'
  | some days => exact lacks_recency_part 'p' days (by decide) (by decide) (by decide)

end Shapes

section Queries

variable (intent : QueryIntent) (spaces : List String) (days : Int)

theorem title_review_shaped :
    Shaped (titleReviewCql spaces days) spaces (some days) := by
  refine ⟨[text "title ~ ", value "Review"], written_title_review spaces days, ?_, ?_, ?_, ?_⟩
  · simp only [plain_text, plain_value]
    exact ⟨by decide, by decide, plain_nothing⟩
  · simp only [safe_text, safe_value]
    exact ⟨by decide, safe_nothing⟩
  · simp only [lacks_text, lacks_value]
    exact ⟨by decide, lacks_nothing 'M'⟩
  · simp only [lacks_text, lacks_value]
    exact ⟨by decide, lacks_nothing 'p'⟩

/-- No string of the intent holds a double quote. -/
structure PlainIntent : Prop where
  versions : ∀ version ∈ intent.versionRefs, '"' ∉ version.toList
  keywords : ∀ keyword ∈ intent.confluenceKeywords, '"' ∉ keyword.toList

variable (plainIntent : PlainIntent intent)

include plainIntent

theorem first_keyword_plain : '"' ∉ (intent.confluenceKeywords.head?.getD "").toList := by
  cases keywords : intent.confluenceKeywords with
  | nil => exact List.not_mem_nil
  | cons keyword rest => exact plainIntent.keywords keyword (keywords ▸ List.mem_cons_self)

theorem version_short_plain
    (version : String)
    (given : version ∈ intent.versionRefs) : '"' ∉ (versionShort version).toList := by
  intro member
  rw [versionShort, afterLast, String.toList_ofList, List.mem_reverse] at member
  exact plainIntent.versions version given
    (List.mem_reverse.mp ((List.takeWhile_sublist _).subset member))

theorem search_version_plain : '"' ∉ (searchVersion intent).toList := by
  unfold searchVersion
  cases versions : intent.versionRefs with
  | nil => exact first_keyword_plain intent plainIntent
  | cons version rest =>
      exact version_short_plain intent plainIntent version (versions ▸ List.mem_cons_self)

theorem search_abbrev_plain : '"' ∉ (searchAbbrev intent).toList := by
  unfold searchAbbrev
  cases versions : intent.versionRefs with
  | nil => exact first_keyword_plain intent plainIntent
  | cons version rest =>
      intro member
      dsimp only at member
      rw [beforeFirst, String.toList_ofList] at member
      exact version_short_plain intent plainIntent version (versions ▸ List.mem_cons_self)
        ((List.takeWhile_sublist _).subset member)

theorem title_version_shaped
    (safe : SelfEnclosed (searchAbbrev intent)) :
    Shaped (titleVersionCql intent spaces) spaces none := by
  have written := written_title_version intent spaces
  unfold titleVersionPieces at written
  split_ifs at written with named
  · refine ⟨_, by rw [recencyTail, List.append_nil]; exact written, ?_, ?_, ?_, ?_⟩
    · simp only [plain_text, plain_value]
      exact ⟨by decide, search_abbrev_plain intent plainIntent, by decide, by decide,
        plain_nothing⟩
    · simp only [safe_text, safe_value]
      exact ⟨safe, by decide, safe_nothing⟩
    · simp only [lacks_text, lacks_value]
      exact ⟨by decide, by decide, lacks_nothing 'M'⟩
    · simp only [lacks_text, lacks_value]
      exact ⟨by decide, by decide, lacks_nothing 'p'⟩
  · refine ⟨_, by rw [recencyTail, List.append_nil]; exact written, ?_, ?_, ?_, ?_⟩
    · simp only [plain_text, plain_value]
      exact ⟨by decide, by decide, plain_nothing⟩
    · simp only [safe_text, safe_value]
      exact ⟨by decide, safe_nothing⟩
    · simp only [lacks_text, lacks_value]
      exact ⟨by decide, lacks_nothing 'M'⟩
    · simp only [lacks_text, lacks_value]
      exact ⟨by decide, lacks_nothing 'p'⟩

/-- The third query has a search text of its own, or takes over the first query. -/
def TextIsBounded : Prop := searchVersion intent ≠ "" ∨ intent.confluenceKeywords = []

instance : Decidable (TextIsBounded intent) := inferInstanceAs (Decidable (_ ∨ _))

theorem keyword_pieces_plain
    (keywords : List String)
    (listed : ∀ keyword ∈ keywords, keyword ∈ intent.confluenceKeywords) :
    PlainPieces (text "text ~ (" :: listedValues " OR " keywords ++ [text ")"]) := by
  simp only [List.cons_append, plain_text, plain_together]
  exact ⟨by decide, plain_listed _ _ (by decide) fun keyword member =>
    plainIntent.keywords keyword (listed keyword member), by decide, plain_nothing⟩

theorem text_version_shaped
    (safe : ∀ content ∈ searchTexts intent, SelfEnclosed content) :
    Shaped (textVersionCql intent spaces days) spaces
      (if TextIsBounded intent then some days else none) := by
  have written := written_text_version intent spaces days
  unfold textVersionPieces at written
  unfold searchTexts at safe
  split_ifs at written safe with versioned wordless
  · have bounded : TextIsBounded intent := Or.inl versioned
    rw [if_pos bounded]
    rw [List.forall_mem_singleton] at safe
    refine ⟨_, written, ?_, ?_, ?_, ?_⟩
    · simp only [plain_text, plain_value]
      exact ⟨by decide, search_version_plain intent plainIntent, plain_nothing⟩
    · simp only [safe_text, safe_value]
      exact ⟨safe, safe_nothing⟩
    · simp only [lacks_text, lacks_value]
      exact ⟨by decide, lacks_nothing 'M'⟩
    · simp only [lacks_text, lacks_value]
      exact ⟨by decide, lacks_nothing 'p'⟩
  · -- Without keywords the third query is the first one.
    have none : intent.confluenceKeywords = [] := by
      cases keywords : intent.confluenceKeywords with
      | nil => rfl
      | cons keyword rest =>
          rw [keywords] at wordless
          cases wordless
    have bounded : TextIsBounded intent := Or.inr none
    rw [if_pos bounded]
    have same : textVersionCql intent spaces days = titleReviewCql spaces days := by
      apply String.toList_injective
      rw [← written, written_title_review]
    rw [same]
    exact title_review_shaped spaces days
  · have some : intent.confluenceKeywords ≠ [] := fun none => wordless (by rw [none]; rfl)
    have unbounded : ¬ TextIsBounded intent := fun bounded => bounded.elim versioned some
    rw [if_neg unbounded]
    refine ⟨_, by rw [recencyTail, List.append_nil]; exact written,
      keyword_pieces_plain intent plainIntent _ fun _ => List.mem_of_mem_take, ?_, ?_, ?_⟩
    · simp only [List.cons_append, safe_text, safe_together, safe_listed]
      exact ⟨safe, safe_nothing⟩
    · simp only [List.cons_append, lacks_text, lacks_together]
      exact ⟨by decide, lacks_listed 'M' _ _ (by decide), by decide, lacks_nothing 'M'⟩
    · simp only [List.cons_append, lacks_text, lacks_together]
      exact ⟨by decide, lacks_listed 'p' _ _ (by decide), by decide, lacks_nothing 'p'⟩

end Queries

section RunningOn

variable (query : String)

theorem running_on_read
    (before : List (Piece Char))
    (content : String)
    (rest : List (Piece Char))
    (same : writtenCql (before ++ value content :: rest) = query.toList)
    (plain : PlainPieces (before ++ value content :: rest))
    (safe : SafePieces before)
    (runsOn : ¬ SelfEnclosed content) :
    readCql query = meant before ++ swapped '"' (content.toList ++ ['"']) rest := by
  unfold readCql
  rw [← same]
  exact read_running_on '"' '\\' (by decide) before content.toList rest plain safe runsOn

/-- Behind a value that runs on, the literals go on with its double quote or are
made of fixed texts, and the days are neither. -/
theorem recency_not_swapped
    (days : Int)
    (before : List (Piece Char))
    (content : String)
    (rest : List (Piece Char))
    (same : writtenCql (before ++ value content :: rest) = query.toList)
    (plain : PlainPieces (before ++ value content :: rest))
    (safe : SafePieces before)
    (runsOn : ¬ SelfEnclosed content)
    (lacks : Lacks 'M' before)
    (signless : Lacks '-' rest) : ¬ Carries query (recencyClausePieces days) := by
  intro carried
  obtain ⟨front, behind, parts⟩ := carried
  rw [running_on_read query before content rest same plain safe runsOn] at parts
  have split : (front ++ "lastModified > now(".toList.map Token.symbol) ++
      .literal ("-" ++ toString days ++ "d").toList :: (")".toList.map Token.symbol ++ behind) =
        meant before ++ swapped '"' (content.toList ++ ['"']) rest := by
    rw [← parts, List.append_assoc, List.append_assoc]
    rfl
  rcases literal_in_part _ _ _ _ _ split with ⟨later, inBefore⟩ | inRest
  · apply outside_lacks 'M' before lacks
    rw [inBefore, outside_append, outside_append]
    exact List.mem_append_left _ (List.mem_append_right _ (by decide))
  · obtain ⟨front, more, same, goesOn, signs⟩ := swapped_content '"' (fun char => char ≠ '-') _ rest
      (fun symbols listed char inText isSign =>
        signless (.text symbols) listed (isSign ▸ inText)) _ inRest
    cases goesOn with
    | inl isOpen =>
        apply days_plain days
        rw [same, isOpen]
        exact List.mem_append_left _ (List.mem_append_right _ (List.mem_singleton_self _))
    | inr none =>
        rw [none, List.nil_append] at same
        refine signs '-' ?_ rfl
        rw [← same, String.toList_append, String.toList_append]
        exact List.mem_append_left _ (List.mem_append_left _ List.mem_cons_self)

theorem meant_text (fixed : String) (rest : List (Piece Char)) :
    meant (text fixed :: rest) = fixed.toList.map Token.symbol ++ meant rest := rfl

theorem meant_space_clause (spaces : List String) :
    meant (spaceClausePieces spaces) = "space IN (".toList.map Token.symbol ++
      (meant (listedValues ", " spaces) ++ ")".toList.map Token.symbol) := by
  rw [spaceClausePieces, meant_append, meant_text, meant_text, List.append_assoc]
  rfl

theorem contents_space_clause (spaces : List String) :
    contents (meant (spaceClausePieces spaces)) = spaces.map String.toList := by
  rw [meant_space_clause, contents_append, contents_append, contents_symbols, contents_symbols,
    List.nil_append, List.append_nil, listedValues, contents_listed]

theorem carried_spaces_safe
    (spaces : List String)
    (plainSpaces : ∀ space ∈ spaces, '"' ∉ space.toList)
    (carried : Carries query (spaceClausePieces spaces)) :
    ∀ space ∈ spaces, SelfEnclosed space := by
  intro space given
  obtain ⟨front, behind, parts⟩ := carried
  have inQuery : space.toList ∈ contents (readCql query) := by
    rw [← parts, contents_append, contents_append, contents_space_clause]
    exact List.mem_append_left _ (List.mem_append_right _ (List.mem_map_of_mem given))
  exact (enclosed_after_iff_last '"' '\\' '"' space.toList (plainSpaces space given)).mpr
    (literals_enclosed '"' '\\' _ _ inQuery)

end RunningOn

section Titles

variable (query : String) (spaces : List String)

/-- How a title query is read whose search text runs on: a literal with that
text, the word of the query as text, and the space clause inside literals. -/
def runOnTitle (content : List Char) : List (Token Char) :=
  "title ~ ".toList.map Token.symbol ++ .literal (content ++ ['"'] ++ " AND text ~ ".toList) ::
    ("blocker".toList.map Token.symbol ++
      swapped '"' (" AND ".toList ++ "space IN (".toList) (listedValues ", " spaces ++ [text ")"]))

theorem run_on_title_lacks_clause
    (content : List Char)
    (given : spaces ≠ [])
    (plainSpaces : ∀ space ∈ spaces, '"' ∉ space.toList) :
    ¬ meant (spaceClausePieces spaces) <:+: runOnTitle spaces content := by
  have apart : spaces.map String.toList ≠ [] := fun none => given (List.map_eq_nil_iff.mp none)
  have plain : ∀ symbols ∈ spaces.map String.toList, '"' ∉ symbols :=
    List.forall_mem_map.mpr plainSpaces
  have shown : '"' ∈ content ++ ['"'] ++ " AND text ~ ".toList :=
    List.mem_append_left _ (List.mem_append_right _ (List.mem_singleton_self _))
  rw [meant_space_clause]
  exact listed_not_run_on '"' _ _ _ _ _ _ _ _ _ (by decide) apart plain shown

variable (intent : QueryIntent)
variable (plainIntent : PlainIntent intent)
variable (plainSpaces : ∀ space ∈ spaces, '"' ∉ space.toList)
variable (runsOn : ¬ SelfEnclosed (searchAbbrev intent))

include plainIntent plainSpaces runsOn

theorem title_version_run_on :
    readCql (titleVersionCql intent spaces) =
      meant [text "title ~ "] ++ swapped '"' ((searchAbbrev intent).toList ++ ['"'])
        ([text " AND text ~ ", value "blocker"] ++ spacesPart spaces) := by
  have named : searchAbbrev intent ≠ "" := by
    intro unnamed
    rw [unnamed] at runsOn
    exact runsOn (by decide)
  have written := written_title_version intent spaces
  unfold titleVersionPieces at written
  rw [if_pos named] at written
  refine running_on_read _ _ (searchAbbrev intent) _ written ?_ ?_ runsOn
  · simp only [List.cons_append, List.nil_append, plain_text, plain_value]
    exact ⟨by decide, search_abbrev_plain intent plainIntent, by decide, by decide,
      plain_spaces_part spaces plainSpaces⟩
  · rw [safe_text]
    exact safe_nothing

theorem title_version_lacks_clause
    (given : spaces ≠ []) :
    ¬ Carries (titleVersionCql intent spaces) (spaceClausePieces spaces) := by
  unfold Carries
  rw [title_version_run_on spaces intent plainIntent plainSpaces runsOn,
    spaces_part_clause spaces given]
  exact run_on_title_lacks_clause spaces (searchAbbrev intent).toList given plainSpaces

theorem title_version_without_spaces
    (none : spaces = []) : ¬ Says (titleVersionCql intent spaces) "space" := by
  apply says_nothing _ "space" 'p' _ (by decide)
  rw [title_version_run_on spaces intent plainIntent plainSpaces runsOn, none, outside_append,
    List.mem_append, not_or]
  refine ⟨outside_lacks 'p' _ ?_, ?_⟩
  · rw [lacks_text]
    exact ⟨by decide, lacks_nothing 'p'⟩
  · intro shown
    cases List.mem_cons.mp shown with
    | inl gap => cases gap
    | inr word => exact absurd word (by decide)

end Titles

section Texts

variable (intent : QueryIntent) (spaces : List String) (written days : Int)

theorem without_recency
    (query : String)
    (pieces : List (Piece Char))
    (same : writtenCql pieces = query.toList)
    (plain : PlainPieces pieces)
    (lacks : Lacks 'M' pieces)
    (signless : Lacks '-' pieces) : ¬ Carries query (recencyClausePieces days) := by
  by_cases safe : SafePieces pieces
  · intro carried
    apply says_nothing query "lastModified > now(" 'M' _ (by decide)
    · exact says_of_carries query "lastModified > now(" _ _ (List.prefix_refl _) carried
    · rw [literals_read query pieces same plain safe]
      exact outside_lacks 'M' pieces lacks
  · obtain ⟨before, content, rest, parts, safeBefore, runsOn⟩ :=
      first_running_on '"' '\\' pieces safe
    have named : Piece.value content = value (String.ofList content) := by
      rw [value, String.toList_ofList]
    rw [parts, named] at same plain lacks signless
    rw [lacks_together] at lacks signless
    apply recency_not_swapped query days before _ rest same plain safeBefore _ lacks.1
      ((lacks_value '-' _ rest).mp signless.2)
    rwa [SelfEnclosed, String.toList_ofList]

variable (plainIntent : PlainIntent intent)
variable (plainSpaces : ∀ space ∈ spaces, '"' ∉ space.toList)

include plainIntent plainSpaces

theorem keyword_version_without_recency
    (unbounded : ¬ TextIsBounded intent) :
    ¬ Carries (textVersionCql intent spaces written) (recencyClausePieces days) := by
  have same := written_text_version intent spaces written
  obtain ⟨versioned, keyworded⟩ := not_or.mp unbounded
  have some : (intent.confluenceKeywords.take 3).isEmpty = false := by
    cases keywords : intent.confluenceKeywords with
    | nil => exact absurd keywords keyworded
    | cons keyword rest => rfl
  unfold textVersionPieces at same
  rw [if_neg versioned, some, if_neg (by decide)] at same
  apply without_recency days _ _ same
  · rw [plain_together]
    exact ⟨keyword_pieces_plain intent plainIntent _ fun _ => List.mem_of_mem_take,
      plain_spaces_part spaces plainSpaces⟩
  · simp only [List.cons_append, lacks_text, lacks_together]
    exact ⟨by decide, ⟨lacks_listed 'M' _ _ (by decide), by decide, lacks_nothing 'M'⟩,
      lacks_spaces_part 'M' spaces (by decide) (by decide) (by decide) (by decide)⟩
  · simp only [List.cons_append, lacks_text, lacks_together]
    exact ⟨by decide, ⟨lacks_listed '-' _ _ (by decide), by decide, lacks_nothing '-'⟩,
      lacks_spaces_part '-' spaces (by decide) (by decide) (by decide) (by decide)⟩

theorem version_run_on_without_recency
    (runsOn : ¬ SelfEnclosed (searchVersion intent)) :
    ¬ Carries (textVersionCql intent spaces written) (recencyClausePieces days) := by
  have versioned : searchVersion intent ≠ "" := by
    intro unversioned
    rw [unversioned] at runsOn
    exact runsOn (by decide)
  have same := written_text_version intent spaces written
  unfold textVersionPieces at same
  rw [if_pos versioned, List.append_assoc] at same
  refine recency_not_swapped _ days [text "text ~ "] _ (spacesPart spaces ++ recencyPart written)
    same ?_ ?_ runsOn ?_ ?_
  · simp only [List.cons_append, List.nil_append, plain_text, plain_value, plain_together]
    exact ⟨by decide, search_version_plain intent plainIntent,
      plain_spaces_part spaces plainSpaces, plain_recency_part written⟩
  · rw [safe_text]
    exact safe_nothing
  · rw [lacks_text]
    exact ⟨by decide, lacks_nothing 'M'⟩
  · rw [lacks_together]
    exact ⟨lacks_spaces_part '-' spaces (by decide) (by decide) (by decide) (by decide),
      lacks_recency_part '-' written (by decide) (by decide) (by decide)⟩

end Texts

section Constraints

variable (settings : ResearchSettings) (call : ContextCall) (intent : QueryIntent)

structure ConstraintsHonoured : Prop where
  inSpaces : resolvedSpaces settings call.spaces ≠ [] →
    ∀ query ∈ (contextVariants settings call intent).asList,
      Carries query (spaceClausePieces (resolvedSpaces settings call.spaces))
  everywhere : resolvedSpaces settings call.spaces = [] →
    ∀ query ∈ (contextVariants settings call intent).asList, ¬ Says query "space"
  recent : ∀ days, call.recencyDays = some days →
    Carries (contextVariants settings call intent).titleReview (recencyClausePieces days) ∧
      Carries (contextVariants settings call intent).textVersion (recencyClausePieces days)
  anyTime : call.recencyDays = none →
    ∀ query ∈ (contextVariants settings call intent).asList, ¬ Says query "lastModified"

/-- No value that a constraint stands behind ends with a backslash. -/
structure ValuesEnclosed : Prop where
  spaces : ∀ space ∈ resolvedSpaces settings call.spaces, SelfEnclosed space
  version : SelfEnclosed (searchVersion intent)
  abbreviation : resolvedSpaces settings call.spaces ≠ [] → SelfEnclosed (searchAbbrev intent)

section Honoured

variable (plainIntent : PlainIntent intent)
variable (plainSpaces : ∀ space ∈ resolvedSpaces settings call.spaces, '"' ∉ space.toList)

include plainSpaces

theorem title_review_bounded
    (safeSpaces : ∀ space ∈ resolvedSpaces settings call.spaces, SelfEnclosed space) :
    Carries (contextVariants settings call intent).titleReview
      (recencyClausePieces (call.recencyDays.getD settings.recencyDays)) :=
  shaped_carries_recency _ _ plainSpaces safeSpaces _ (title_review_shaped _ _)

theorem honoured_spaces_enclosed
    (honoured : ConstraintsHonoured settings call intent) :
    ∀ space ∈ resolvedSpaces settings call.spaces, SelfEnclosed space := by
  intro space given
  have some : resolvedSpaces settings call.spaces ≠ [] := List.ne_nil_of_mem given
  exact carried_spaces_safe (contextVariants settings call intent).titleReview _ plainSpaces
    (honoured.inSpaces some _ List.mem_cons_self) space given

theorem honoured_has_days
    (honoured : ConstraintsHonoured settings call intent) :
    call.recencyDays ≠ none := by
  intro unset
  apply honoured.anyTime unset (contextVariants settings call intent).titleReview
    List.mem_cons_self
  exact says_of_carries _ "lastModified > now(" "lastModified" _ (by decide +kernel)
    (title_review_bounded settings call intent plainSpaces
      (honoured_spaces_enclosed settings call intent plainSpaces honoured))

include plainIntent

theorem honoured_conditions
    (honoured : ConstraintsHonoured settings call intent) :
    TextIsBounded intent ∧ ValuesEnclosed settings call intent := by
  have given := honoured_has_days settings call intent plainSpaces honoured
  obtain ⟨days, isDays⟩ := Option.ne_none_iff_exists'.mp given
  have bounded := (honoured.recent days isDays).2
  refine ⟨?_, honoured_spaces_enclosed settings call intent plainSpaces honoured, ?_, ?_⟩
  · by_contra unbounded
    exact keyword_version_without_recency intent _ _ days plainIntent plainSpaces unbounded bounded
  · by_contra runsOn
    exact version_run_on_without_recency intent _ _ days plainIntent plainSpaces runsOn bounded
  · intro some
    by_contra runsOn
    exact title_version_lacks_clause _ intent plainIntent plainSpaces runsOn some
      (honoured.inSpaces some _ (List.mem_cons_of_mem _ List.mem_cons_self))

omit plainSpaces in
theorem text_version_bounded
    (days : Int)
    (bounded : TextIsBounded intent)
    (enclosed : ValuesEnclosed settings call intent) :
    Shaped (textVersionCql intent (resolvedSpaces settings call.spaces) days)
      (resolvedSpaces settings call.spaces) (some days) := by
  have shaped := text_version_shaped intent (resolvedSpaces settings call.spaces) days plainIntent
  rw [if_pos bounded] at shaped
  apply shaped
  unfold searchTexts
  split_ifs with versioned
  · exact List.forall_mem_singleton.mpr enclosed.version
  · rw [Or.resolve_left bounded versioned]
    exact List.forall_mem_nil _

omit plainSpaces in
theorem variants_shaped
    (bounded : TextIsBounded intent)
    (enclosed : ValuesEnclosed settings call intent)
    (query : String)
    (member : query ∈ (contextVariants settings call intent).asList) :
    (∃ recency, Shaped query (resolvedSpaces settings call.spaces) recency) ∨
      query = titleVersionCql intent (resolvedSpaces settings call.spaces) ∧
        ¬ SelfEnclosed (searchAbbrev intent) := by
  simp only [CqlVariants.asList, contextVariants, buildCqlVariants, List.mem_cons,
    List.not_mem_nil, or_false] at member
  rcases member with rfl | rfl | rfl
  · exact .inl ⟨_, title_review_shaped _ _⟩
  · by_cases safe : SelfEnclosed (searchAbbrev intent)
    · exact .inl ⟨_, title_version_shaped intent _ plainIntent safe⟩
    · exact .inr ⟨rfl, safe⟩
  · exact .inl ⟨_, text_version_bounded settings call intent plainIntent _ bounded enclosed⟩

/-- The constraints are honoured exactly when the caller gives a number of days,
the third query does not search by keywords alone, and no value that a
constraint stands behind ends with a backslash. -/
theorem constraints_honoured_iff :
    ConstraintsHonoured settings call intent ↔
      call.recencyDays ≠ none ∧ TextIsBounded intent ∧ ValuesEnclosed settings call intent := by
  constructor
  · intro honoured
    exact ⟨honoured_has_days settings call intent plainSpaces honoured,
      honoured_conditions settings call intent plainIntent plainSpaces honoured⟩
  · intro conditions
    obtain ⟨given, bounded, enclosed⟩ := conditions
    have shapes := variants_shaped settings call intent plainIntent bounded enclosed
    constructor
    · intro some query member
      cases shapes query member with
      | inl shaped =>
          obtain ⟨recency, shaped⟩ := shaped
          exact shaped_carries_spaces query _ recency plainSpaces enclosed.spaces shaped some
      | inr runsOn => exact absurd (enclosed.abbreviation some) runsOn.2
    · intro none query member
      cases shapes query member with
      | inl shaped =>
          obtain ⟨recency, shaped⟩ := shaped
          exact shaped_without_spaces query _ recency plainSpaces enclosed.spaces shaped none
      | inr runsOn =>
          rw [runsOn.1]
          exact title_version_without_spaces _ intent plainIntent plainSpaces runsOn.2 none
    · intro days isDays
      have resolved : call.recencyDays.getD settings.recencyDays = days := by
        rw [isDays, Option.getD_some]
      have review := title_review_bounded settings call intent plainSpaces enclosed.spaces
      rw [resolved] at review
      refine ⟨review, ?_⟩
      unfold contextVariants
      rw [resolved]
      exact shaped_carries_recency _ _ plainSpaces enclosed.spaces days
        (text_version_bounded settings call intent plainIntent days bounded enclosed)
    · exact fun unset => absurd unset given

end Honoured

end Constraints

def releaseIntent : QueryIntent := { versionRefs := ["ACME_R1.0"], intentType := .releaseRisk }

theorem release_intent_plain : PlainIntent releaseIntent := by
  constructor
  · intro version member
    cases List.mem_singleton.mp member
    decide
  · exact fun _ member => by cases member

def backslashIntent : QueryIntent := { versionRefs := ["R1\\"], intentType := .releaseRisk }

def unnamedIntent : QueryIntent :=
  { versionRefs := ["ACME_"], confluenceKeywords := ["x"], intentType := .releaseRisk }

theorem default_recency_applied :
    ¬ ConstraintsHonoured {} { query := "risk" } releaseIntent ∧
      ¬ ConstraintsHonoured {} { query := "risk", recencyDays := some 7 } backslashIntent ∧
        ¬ ConstraintsHonoured {} { query := "risk", recencyDays := some 7 } unnamedIntent := by
  refine ⟨fun honoured => ?_, fun honoured => ?_, fun honoured => ?_⟩
  · exact honoured_has_days _ _ _ (List.forall_mem_nil _) honoured rfl
  · apply version_run_on_without_recency backslashIntent [] 7 7 ?_ (List.forall_mem_nil _) ?_
      (honoured.recent 7 rfl).2
    · exact ⟨by decide, by decide⟩
    · decide +kernel
  · apply keyword_version_without_recency unnamedIntent [] 7 7 ?_ (List.forall_mem_nil _) ?_
      (honoured.recent 7 rfl).2
    · exact ⟨by decide, by decide⟩
    · decide +kernel

theorem given_recency_honoured :
    ConstraintsHonoured { defaultSpaces := ["ENG"] } { query := "risk", recencyDays := some 7 }
      releaseIntent := by
  apply (constraints_honoured_iff { defaultSpaces := ["ENG"] }
    { query := "risk", recencyDays := some 7 } releaseIntent release_intent_plain ?_).mpr
  · refine ⟨by decide, by decide +kernel, ?_, by decide +kernel, fun _ => by decide +kernel⟩
    exact List.forall_mem_singleton.mpr (by decide)
  · exact List.forall_mem_singleton.mpr (by decide)

end AtlasMindNetra.SearchContext
