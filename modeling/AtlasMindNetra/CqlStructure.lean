import AtlasMindNetra.CqlBuilder
import AtlasMindNetra.QuotingRules

/-!
# The structure of CQL queries

Each query is meant as fixed text with values in quotes, and the values are put
there unchanged. A reader of string literals finds the meant text and values
exactly when every value that came from outside encloses itself.
-/

namespace AtlasMindNetra.CqlBuilder

open AtlasMindNetra.PythonValues AtlasMindNetra.QuotingRules

set_option autoImplicit false

def text (fixed : String) : Piece Char := .text fixed.toList

def value (content : String) : Piece Char := .value content.toList

/-- A literal ends at a double quote that no backslash precedes. -/
def readCql (query : String) : List (Token Char) := read '"' '\\' query.toList

/-- Each double quote follows a backslash, and no backslash is last. -/
def SelfEnclosed (content : String) : Prop := Enclosed '"' '\\' content.toList

instance (content : String) : Decidable (SelfEnclosed content) :=
  inferInstanceAs (Decidable (Enclosed _ _ _))

def listedValues (separator : String) (values : List String) : List (Piece Char) :=
  listed separator.toList (values.map String.toList)

def spacesPart (spaces : List String) : List (Piece Char) :=
  if spaces.isEmpty then []
  else text " AND " :: text "space IN (" :: listedValues ", " spaces ++ [text ")"]

def recencyPart (recencyDays : Int) : List (Piece Char) :=
  [text " AND ", text "lastModified > now(", value ("-" ++ toString recencyDays ++ "d"), text ")"]

def titleReviewPieces (spaces : List String) (recencyDays : Int) : List (Piece Char) :=
  [text "title ~ ", value "Review"] ++ spacesPart spaces ++ recencyPart recencyDays

def titleVersionPieces (intent : QueryIntent) (spaces : List String) : List (Piece Char) :=
  if searchAbbrev intent ≠ "" then
    [text "title ~ ", value (searchAbbrev intent), text " AND text ~ ", value "blocker"] ++
      spacesPart spaces
  else [text "text ~ ", value "blocker"] ++ spacesPart spaces

def textVersionPieces (intent : QueryIntent) (spaces : List String) (recencyDays : Int) :
    List (Piece Char) :=
  if searchVersion intent ≠ "" then
    [text "text ~ ", value (searchVersion intent)] ++ spacesPart spaces ++ recencyPart recencyDays
  else if (intent.confluenceKeywords.take 3).isEmpty then titleReviewPieces spaces recencyDays
  else
    text "text ~ (" :: listedValues " OR " (intent.confluenceKeywords.take 3) ++ [text ")"] ++
      spacesPart spaces

def reverseLookupPieces (key : String) (spaces : List String) : List (Piece Char) :=
  [text "text ~ ", value key] ++ spacesPart spaces

def writtenCql (pieces : List (Piece Char)) : List Char := written '"' pieces

theorem written_together (first second : List (Piece Char)) :
    writtenCql (first ++ second) = writtenCql first ++ writtenCql second :=
  written_append '"' first second

theorem written_text (fixed : String) (rest : List (Piece Char)) :
    writtenCql (text fixed :: rest) = fixed.toList ++ writtenCql rest := rfl

theorem written_value (content : String) (rest : List (Piece Char)) :
    writtenCql (value content :: rest) = (quoted content).toList ++ writtenCql rest := by
  change '"' :: content.toList ++ ['"'] ++ writtenCql rest = _
  simp [quoted]

theorem written_nothing : writtenCql [] = [] := rfl

theorem written_listed_values (separator : String) (values : List String) :
    writtenCql (listedValues separator values) =
      (String.intercalate separator (values.map quoted)).toList := by
  rw [writtenCql, listedValues, written_listed, String.toList_intercalate, List.map_map,
    List.map_map]
  congr 1
  apply List.map_congr_left
  intro content _
  simp [quoted]

theorem listed_empty_iff (separator : String) (values : List String) :
    String.intercalate separator (values.map quoted) = "" ↔ values = [] := by
  constructor
  · intro blank
    have letters := congrArg String.toList blank
    cases values with
    | nil => rfl
    | cons content rest =>
        cases rest with
        | nil => simp [quoted] at letters
        | cons next later => simp [quoted] at letters
  · intro none
    rw [none, List.map_nil, String.intercalate_nil]

theorem space_filter_empty_iff (spaces : List String) : spaceFilter spaces = "" ↔ spaces = [] := by
  cases spaces with
  | nil => simp [spaceFilter]
  | cons space rest =>
      constructor
      · intro blank
        have letters := congrArg String.toList blank
        simp [spaceFilter] at letters
      · intro blank
        cases blank

theorem written_spaces_part (spaces : List String) :
    writtenCql (spacesPart spaces) =
      (if spaceFilter spaces = "" then "" else " AND " ++ spaceFilter spaces).toList := by
  cases spaces with
  | nil => rfl
  | cons space rest =>
      have apart : spaceFilter (space :: rest) ≠ "" := by
        rw [Ne, space_filter_empty_iff]
        simp
      rw [if_neg apart, spacesPart, spaceFilter]
      simp only [List.isEmpty_cons, Bool.false_eq_true, if_false, List.cons_append]
      simp only [written_text, written_together, written_listed_values, written_nothing,
        String.toList_append, List.append_nil, List.append_assoc]

theorem written_recency_part (recencyDays : Int) :
    writtenCql (recencyPart recencyDays) = (" AND " ++ recencyFilter recencyDays).toList := by
  unfold recencyPart recencyFilter
  simp only [written_text, written_value, written_nothing, String.toList_append, List.append_nil,
    List.append_assoc]

theorem written_title_review (spaces : List String) (recencyDays : Int) :
    writtenCql (titleReviewPieces spaces recencyDays) =
      (titleReviewCql spaces recencyDays).toList := by
  have opening : "title ~ \"Review\" AND " = "title ~ " ++ (quoted "Review" ++ " AND ") := by
    decide +kernel
  unfold titleReviewPieces titleReviewCql
  simp only [opening, List.cons_append, List.nil_append, written_text, written_value,
    written_together, written_spaces_part, written_recency_part]
  by_cases blank : spaceFilter spaces = ""
  · simp only [blank, ne_eq, not_true_eq_false, if_true, if_false, String.toList_append,
      String.toList_empty, List.nil_append, List.append_assoc]
  · simp only [blank, ne_eq, not_false_eq_true, if_true, if_false, String.toList_append,
      List.append_assoc]

theorem written_title_version (intent : QueryIntent) (spaces : List String) :
    writtenCql (titleVersionPieces intent spaces) = (titleVersionCql intent spaces).toList := by
  have named : " AND text ~ \"blocker\"" = " AND text ~ " ++ quoted "blocker" := by
    decide +kernel
  have namedMore : " AND text ~ \"blocker\" AND " =
      " AND text ~ " ++ (quoted "blocker" ++ " AND ") := by
    decide +kernel
  have plain : "text ~ \"blocker\"" = "text ~ " ++ quoted "blocker" := by decide +kernel
  have plainMore : "text ~ \"blocker\" AND " = "text ~ " ++ (quoted "blocker" ++ " AND ") := by
    decide +kernel
  unfold titleVersionPieces titleVersionCql
  by_cases unnamed : searchAbbrev intent = "" <;> by_cases blank : spaceFilter spaces = "" <;>
    simp only [unnamed, blank, named, namedMore, plain, plainMore, ne_eq, not_true_eq_false,
      not_false_eq_true, if_true, if_false, List.cons_append, List.nil_append, List.append_nil,
      List.append_assoc, written_text, written_value, written_spaces_part, String.toList_append,
      String.toList_empty]

theorem written_text_version (intent : QueryIntent) (spaces : List String) (recencyDays : Int) :
    writtenCql (textVersionPieces intent spaces recencyDays) =
      (textVersionCql intent spaces recencyDays).toList := by
  have closing : ") AND " = ")" ++ " AND " := by decide +kernel
  unfold textVersionPieces textVersionCql
  by_cases unversioned : searchVersion intent = ""
  · by_cases wordless : intent.confluenceKeywords.take 3 = []
    · have review := written_title_review spaces recencyDays
      simp only [unversioned, wordless, review, ne_eq, not_true_eq_false, if_false, List.map_nil,
        String.intercalate_nil, List.isEmpty_nil, if_true, false_and]
    · have words : String.intercalate " OR "
          ((intent.confluenceKeywords.take 3).map quoted) ≠ "" :=
        fun blank => wordless ((listed_empty_iff _ _).mp blank)
      have some : (intent.confluenceKeywords.take 3).isEmpty = false := by
        rw [List.isEmpty_eq_false_iff]
        exact wordless
      by_cases blank : spaceFilter spaces = "" <;>
        simp only [unversioned, some, words, blank, closing, ne_eq, not_true_eq_false,
          not_false_eq_true, Bool.false_eq_true, and_true, and_false, if_true, if_false,
          List.cons_append, List.nil_append, List.append_nil, List.append_assoc, written_text,
          written_together, written_listed_values, written_spaces_part, String.toList_append,
          String.toList_empty]
  · by_cases blank : spaceFilter spaces = "" <;>
      simp only [unversioned, blank, ne_eq, not_true_eq_false, not_false_eq_true, if_true, if_false,
        List.cons_append, List.nil_append, List.append_assoc, written_text, written_value,
        written_together, written_spaces_part, written_recency_part, String.toList_append,
        String.toList_empty]

theorem written_reverse_lookup (key : String) (spaces : List String) :
    writtenCql (reverseLookupPieces key spaces) = (reverseLookupCql key spaces).toList := by
  have clause : spaceClause spaces =
      if spaceFilter spaces = "" then "" else " AND " ++ spaceFilter spaces := by
    cases spaces with
    | nil => rfl
    | cons space rest =>
        have apart : spaceFilter (space :: rest) ≠ "" := by
          rw [Ne, space_filter_empty_iff]
          exact List.cons_ne_nil space rest
        have opening : " AND space IN (" = " AND " ++ "space IN (" := by decide +kernel
        rw [if_neg apart]
        unfold spaceClause spaceFilter
        simp only [List.isEmpty_cons, Bool.false_eq_true, if_false, opening, String.append_assoc]
  unfold reverseLookupPieces reverseLookupCql
  simp only [clause, List.cons_append, List.nil_append, written_text, written_value,
    written_spaces_part, String.toList_append, List.append_assoc]

def ReadAs (query : String) (pieces : List (Piece Char)) : Prop :=
  outside (readCql query) = outside (meant pieces) ∧
    contents (readCql query) = contents (meant pieces)

def SafePieces (pieces : List (Piece Char)) : Prop :=
  ∀ piece ∈ pieces, piece.Encloses '"' '\\'

def Fixed (pieces : List (Piece Char)) : Prop := ∀ piece ∈ pieces, piece.Quoteless '"'

theorem read_as_iff
    (query : String)
    (pieces : List (Piece Char))
    (same : writtenCql pieces = query.toList)
    (quoteless : Fixed pieces) : ReadAs query pieces ↔ SafePieces pieces := by
  rw [SafePieces, ← read_written_iff '"' '\\' pieces quoteless]
  change _ ↔ read '"' '\\' (writtenCql pieces) = meant pieces
  rw [same]
  constructor
  · intro both
    exact tokens_ext _ _ both.1 both.2
  · intro tokens
    unfold ReadAs readCql
    rw [tokens]
    exact ⟨rfl, rfl⟩

theorem recency_enclosed (recencyDays : Int) :
    SelfEnclosed ("-" ++ toString recencyDays ++ "d") := by
  have plain : ∀ char : Char, char ≠ '-' → char ≠ 'd' → char.isDigit = false →
      char ∉ ("-" ++ toString recencyDays ++ "d").toList := by
    intro char noSign noUnit noDigit member
    rw [String.toList_append, String.toList_append, List.mem_append, List.mem_append] at member
    rcases member with (sign | inNumber) | unit
    · exact noSign (List.mem_singleton.mp sign)
    · rcases int_text_char recencyDays char inNumber with sign | digit
      · exact noSign sign
      · rw [noDigit] at digit
        cases digit
    · exact noUnit (List.mem_singleton.mp unit)
  apply enclosed_after_of_plain
  · decide
  · exact plain '"' (by decide) (by decide) (by decide)
  · exact plain '\\' (by decide) (by decide) (by decide)

theorem safe_together (first second : List (Piece Char)) :
    SafePieces (first ++ second) ↔ SafePieces first ∧ SafePieces second :=
  List.forall_mem_append

theorem safe_text (fixed : String) (rest : List (Piece Char)) :
    SafePieces (text fixed :: rest) ↔ SafePieces rest := by
  rw [SafePieces, List.forall_mem_cons]
  exact and_iff_right trivial

theorem safe_value (content : String) (rest : List (Piece Char)) :
    SafePieces (value content :: rest) ↔ SelfEnclosed content ∧ SafePieces rest :=
  List.forall_mem_cons

theorem safe_nothing : SafePieces [] := fun _ member => nomatch member

theorem safe_listed (separator : String) (values : List String) :
    SafePieces (listedValues separator values) ↔ ∀ content ∈ values, SelfEnclosed content := by
  rw [SafePieces, listedValues, listed_enclosed_iff, List.forall_mem_map]
  rfl

theorem fixed_together (first second : List (Piece Char)) :
    Fixed (first ++ second) ↔ Fixed first ∧ Fixed second :=
  List.forall_mem_append

theorem fixed_text (fixed : String) (rest : List (Piece Char)) :
    Fixed (text fixed :: rest) ↔ '"' ∉ fixed.toList ∧ Fixed rest :=
  List.forall_mem_cons

theorem fixed_value (content : String) (rest : List (Piece Char)) :
    Fixed (value content :: rest) ↔ Fixed rest := by
  rw [Fixed, List.forall_mem_cons]
  exact and_iff_right trivial

theorem fixed_nothing : Fixed [] := fun _ member => nomatch member

theorem fixed_spaces_part (spaces : List String) : Fixed (spacesPart spaces) := by
  unfold spacesPart
  split_ifs
  · exact fixed_nothing
  · simp only [List.cons_append, fixed_together, fixed_text]
    exact ⟨by decide, by decide, listed_quoteless '"' _ _ (by decide), by decide, fixed_nothing⟩

theorem safe_spaces_part (spaces : List String) :
    SafePieces (spacesPart spaces) ↔ ∀ space ∈ spaces, SelfEnclosed space := by
  cases spaces with
  | nil => simp [spacesPart, safe_nothing]
  | cons space rest =>
      unfold spacesPart
      simp only [List.isEmpty_cons, Bool.false_eq_true, if_false, List.cons_append, safe_together,
        safe_text, safe_listed, safe_nothing, and_true]

theorem fixed_recency_part (recencyDays : Int) : Fixed (recencyPart recencyDays) := by
  unfold recencyPart
  simp only [fixed_text, fixed_value]
  exact ⟨by decide, by decide, by decide, fixed_nothing⟩

theorem safe_recency_part (recencyDays : Int) : SafePieces (recencyPart recencyDays) := by
  unfold recencyPart
  simp only [safe_text, safe_value, safe_nothing, and_true]
  exact recency_enclosed recencyDays

theorem title_review_read_iff (spaces : List String) (recencyDays : Int) :
    ReadAs (titleReviewCql spaces recencyDays) (titleReviewPieces spaces recencyDays) ↔
      ∀ space ∈ spaces, SelfEnclosed space := by
  have review : SelfEnclosed "Review" := by decide
  rw [read_as_iff _ _ (written_title_review spaces recencyDays)]
  · unfold titleReviewPieces
    simp only [List.cons_append, List.nil_append, safe_text, safe_value, safe_together,
      safe_spaces_part, safe_recency_part, review, and_true, true_and]
  · unfold titleReviewPieces
    simp only [List.cons_append, List.nil_append, fixed_text, fixed_value, fixed_together]
    exact ⟨by decide, fixed_spaces_part spaces, fixed_recency_part recencyDays⟩

theorem title_version_read_iff (intent : QueryIntent) (spaces : List String) :
    ReadAs (titleVersionCql intent spaces) (titleVersionPieces intent spaces) ↔
      SelfEnclosed (searchAbbrev intent) ∧ ∀ space ∈ spaces, SelfEnclosed space := by
  have blocker : SelfEnclosed "blocker" := by decide
  have nothing : SelfEnclosed "" := by decide
  rw [read_as_iff _ _ (written_title_version intent spaces)]
  · unfold titleVersionPieces
    by_cases unnamed : searchAbbrev intent = "" <;>
      simp only [unnamed, ne_eq, not_true_eq_false, not_false_eq_true, if_true, if_false,
        List.cons_append, List.nil_append, safe_text, safe_value, safe_spaces_part, blocker,
        nothing, true_and]
  · unfold titleVersionPieces
    split_ifs
    · simp only [List.cons_append, List.nil_append, fixed_text, fixed_value]
      exact ⟨by decide, by decide, fixed_spaces_part spaces⟩
    · simp only [List.cons_append, List.nil_append, fixed_text, fixed_value]
      exact ⟨by decide, fixed_spaces_part spaces⟩

/-- The values that `text_version` searches for. -/
def searchTexts (intent : QueryIntent) : List String :=
  if searchVersion intent ≠ "" then [searchVersion intent] else intent.confluenceKeywords.take 3

theorem text_version_read_iff (intent : QueryIntent) (spaces : List String) (recencyDays : Int) :
    ReadAs (textVersionCql intent spaces recencyDays)
        (textVersionPieces intent spaces recencyDays) ↔
      (∀ content ∈ searchTexts intent, SelfEnclosed content) ∧
        ∀ space ∈ spaces, SelfEnclosed space := by
  by_cases unversioned : searchVersion intent = ""
  · by_cases wordless : intent.confluenceKeywords.take 3 = []
    · have review := title_review_read_iff spaces recencyDays
      have sameQuery : textVersionCql intent spaces recencyDays =
          titleReviewCql spaces recencyDays := by
        simp only [textVersionCql, unversioned, wordless, ne_eq, not_true_eq_false, if_false,
          List.map_nil, String.intercalate_nil, false_and]
      have samePieces : textVersionPieces intent spaces recencyDays =
          titleReviewPieces spaces recencyDays := by
        simp only [textVersionPieces, unversioned, wordless, ne_eq, not_true_eq_false, if_false,
          List.isEmpty_nil, if_true]
      rw [sameQuery, samePieces, review]
      simp [searchTexts, unversioned, wordless]
    · have some : (intent.confluenceKeywords.take 3).isEmpty = false := by
        rw [List.isEmpty_eq_false_iff]
        exact wordless
      rw [read_as_iff _ _ (written_text_version intent spaces recencyDays)]
      · unfold textVersionPieces searchTexts
        simp only [unversioned, some, ne_eq, not_true_eq_false, Bool.false_eq_true, if_false,
          List.cons_append, List.nil_append, List.append_assoc, safe_text, safe_together,
          safe_listed, safe_spaces_part]
      · unfold textVersionPieces
        simp only [unversioned, some, ne_eq, not_true_eq_false, Bool.false_eq_true, if_false,
          List.cons_append, List.nil_append, List.append_assoc, fixed_text, fixed_together]
        exact ⟨by decide, listed_quoteless '"' _ _ (by decide), by decide,
          fixed_spaces_part spaces⟩
  · rw [read_as_iff _ _ (written_text_version intent spaces recencyDays)]
    · unfold textVersionPieces searchTexts
      simp only [unversioned, ne_eq, not_false_eq_true, if_true, List.cons_append,
        List.nil_append, safe_text, safe_value, safe_together, safe_spaces_part,
        safe_recency_part, List.forall_mem_singleton, and_true]
    · unfold textVersionPieces
      simp only [unversioned, ne_eq, not_false_eq_true, if_true, List.cons_append,
        List.nil_append, fixed_text, fixed_value, fixed_together]
      exact ⟨by decide, fixed_spaces_part spaces, fixed_recency_part recencyDays⟩

theorem reverse_lookup_read_iff (key : String) (spaces : List String) :
    ReadAs (reverseLookupCql key spaces) (reverseLookupPieces key spaces) ↔
      SelfEnclosed key ∧ ∀ space ∈ spaces, SelfEnclosed space := by
  rw [read_as_iff _ _ (written_reverse_lookup key spaces)]
  · unfold reverseLookupPieces
    simp only [List.cons_append, List.nil_append, safe_text, safe_value, safe_spaces_part]
  · unfold reverseLookupPieces
    simp only [List.cons_append, List.nil_append, fixed_text, fixed_value]
    exact ⟨by decide, fixed_spaces_part spaces⟩

/-- Which optional parts are present, and the number of listed values. -/
structure CqlShape where
  spaces : Nat
  named : Bool
  versioned : Bool
  keywords : Nat
  deriving DecidableEq

def shapeOf (intent : QueryIntent) (spaces : List String) : CqlShape where
  spaces := spaces.length
  named := searchAbbrev intent ≠ ""
  versioned := searchVersion intent ≠ ""
  keywords := if searchVersion intent ≠ "" then 0 else (intent.confluenceKeywords.take 3).length

def outsidePieces (pieces : List (Piece Char)) : List (Option Char) := outside (meant pieces)

theorem outside_together (first second : List (Piece Char)) :
    outsidePieces (first ++ second) = outsidePieces first ++ outsidePieces second := by
  rw [outsidePieces, meant_append, outside_append]
  rfl

theorem outside_text (fixed : String) (rest : List (Piece Char)) :
    outsidePieces (text fixed :: rest) = fixed.toList.map some ++ outsidePieces rest := by
  have one : outsidePieces [text fixed] = fixed.toList.map some := by
    simp [outsidePieces, meant, outside, text, Function.comp_def]
  rw [← one, ← outside_together]
  rfl

theorem outside_value (content : String) (rest : List (Piece Char)) :
    outsidePieces (value content :: rest) = none :: outsidePieces rest := rfl

theorem outside_spaces_part
    (first second : List String)
    (sameLength : first.length = second.length) :
    outsidePieces (spacesPart first) = outsidePieces (spacesPart second) := by
  have same : outsidePieces (listedValues ", " first) = outsidePieces (listedValues ", " second) := by
    apply outside_listed
    rw [List.length_map, List.length_map, sameLength]
  cases first with
  | nil => rw [List.length_eq_zero_iff.mp sameLength.symm]
  | cons space rest =>
      cases second with
      | nil => cases sameLength
      | cons other others =>
          unfold spacesPart
          simp only [List.isEmpty_cons, Bool.false_eq_true, if_false, List.cons_append,
            outside_text, outside_together, same]

def cqlPieces (intent : QueryIntent) (spaces : List String) (recencyDays : Int) (key : String) :
    List (List (Piece Char)) :=
  [titleReviewPieces spaces recencyDays, titleVersionPieces intent spaces,
    textVersionPieces intent spaces recencyDays, reverseLookupPieces key spaces]

def cqlQueries (intent : QueryIntent) (spaces : List String) (recencyDays : Int) (key : String) :
    List String :=
  (buildCqlVariants intent spaces recencyDays).asList ++ [reverseLookupCql key spaces]

theorem outside_same_shape
    (intent other : QueryIntent)
    (spaces otherSpaces : List String)
    (recencyDays otherDays : Int)
    (key otherKey : String)
    (sameShape : shapeOf other otherSpaces = shapeOf intent spaces) :
    (cqlPieces other otherSpaces otherDays otherKey).map outsidePieces =
      (cqlPieces intent spaces recencyDays key).map outsidePieces := by
  have sameSpaces := outside_spaces_part otherSpaces spaces (congrArg CqlShape.spaces sameShape)
  have sameNamed : searchAbbrev other = "" ↔ searchAbbrev intent = "" := by
    have flags := congrArg CqlShape.named sameShape
    simpa [shapeOf] using flags
  have sameVersioned : searchVersion other = "" ↔ searchVersion intent = "" := by
    have flags := congrArg CqlShape.versioned sameShape
    simpa [shapeOf] using flags
  have recency : ∀ days : Int, outsidePieces (recencyPart days) = outsidePieces (recencyPart 0) :=
    fun _ => rfl
  have review : outsidePieces (titleReviewPieces otherSpaces otherDays) =
      outsidePieces (titleReviewPieces spaces recencyDays) := by
    unfold titleReviewPieces
    simp only [outside_together, sameSpaces, recency otherDays, recency recencyDays]
  have titled : outsidePieces (titleVersionPieces other otherSpaces) =
      outsidePieces (titleVersionPieces intent spaces) := by
    unfold titleVersionPieces
    by_cases unnamed : searchAbbrev intent = "" <;>
      simp only [sameNamed, unnamed, ne_eq, not_true_eq_false, not_false_eq_true, if_true,
        if_false, List.cons_append, List.nil_append, outside_text, outside_value, sameSpaces]
  have texted : outsidePieces (textVersionPieces other otherSpaces otherDays) =
      outsidePieces (textVersionPieces intent spaces recencyDays) := by
    unfold textVersionPieces
    by_cases unversioned : searchVersion intent = ""
    · have sameKeywords : (other.confluenceKeywords.take 3).length =
          (intent.confluenceKeywords.take 3).length := by
        have lengths := congrArg CqlShape.keywords sameShape
        simpa only [shapeOf, sameVersioned, unversioned, ne_eq, not_true_eq_false, if_false]
          using lengths
      have sameListed : outsidePieces (listedValues " OR " (other.confluenceKeywords.take 3)) =
          outsidePieces (listedValues " OR " (intent.confluenceKeywords.take 3)) := by
        apply outside_listed
        rw [List.length_map, List.length_map, sameKeywords]
      have sameEmpty : (other.confluenceKeywords.take 3).isEmpty =
          (intent.confluenceKeywords.take 3).isEmpty := by
        rw [Bool.eq_iff_iff, List.isEmpty_iff_length_eq_zero, List.isEmpty_iff_length_eq_zero,
          sameKeywords]
      simp only [sameVersioned, unversioned, sameEmpty, ne_eq, not_true_eq_false, if_false]
      split_ifs
      · exact review
      · simp only [List.cons_append, outside_text, outside_together, sameListed, sameSpaces]
    · simp only [sameVersioned, unversioned, ne_eq, not_false_eq_true, if_true, List.cons_append,
        List.nil_append, outside_text, outside_value, outside_together, sameSpaces,
        recency otherDays, recency recencyDays]
  have reversed : outsidePieces (reverseLookupPieces otherKey otherSpaces) =
      outsidePieces (reverseLookupPieces key spaces) := by
    unfold reverseLookupPieces
    simp only [List.cons_append, List.nil_append, outside_text, outside_value, sameSpaces]
  simp only [cqlPieces, List.map_cons, List.map_nil, review, titled, texted, reversed]

/-- Every query has the meant text outside its literals and the meant values in
them exactly if each interpolated value encloses itself. The meant text depends
on the shape alone. -/
theorem cql_structure_kept_iff
    (intent : QueryIntent)
    (spaces : List String)
    (recencyDays : Int)
    (key : String) :
    (List.Forall₂ ReadAs (cqlQueries intent spaces recencyDays key)
        (cqlPieces intent spaces recencyDays key) ↔
      (∀ space ∈ spaces, SelfEnclosed space) ∧ SelfEnclosed (searchAbbrev intent) ∧
        (∀ content ∈ searchTexts intent, SelfEnclosed content) ∧ SelfEnclosed key) ∧
    ∀ (other : QueryIntent) (otherSpaces : List String) (otherDays : Int) (otherKey : String),
      shapeOf other otherSpaces = shapeOf intent spaces →
        (cqlPieces other otherSpaces otherDays otherKey).map outsidePieces =
          (cqlPieces intent spaces recencyDays key).map outsidePieces := by
  constructor
  · change List.Forall₂ ReadAs [titleReviewCql spaces recencyDays, titleVersionCql intent spaces,
      textVersionCql intent spaces recencyDays, reverseLookupCql key spaces] _ ↔ _
    simp only [cqlPieces, List.forall₂_cons, List.forall₂_nil_left_iff, and_true,
      title_review_read_iff, title_version_read_iff, text_version_read_iff,
      reverse_lookup_read_iff]
    tauto
  · intro other otherSpaces otherDays otherKey sameShape
    exact outside_same_shape intent other spaces otherSpaces recencyDays otherDays key otherKey
      sameShape

def injectingIntent : QueryIntent where
  confluenceKeywords := ["x\" OR space = \"SECRET"]

/-- The keyword closes its literal and opens another one, with an `OR` between them. -/
theorem injected_keyword_changes_structure :
    ¬ List.Forall₂ ReadAs (cqlQueries injectingIntent ["PROJ"] 30 "CAR-101")
      (cqlPieces injectingIntent ["PROJ"] 30 "CAR-101") := by
  have changed :
      outside (readCql (titleVersionCql injectingIntent ["PROJ"])) ≠
        outside (meant (titleVersionPieces injectingIntent ["PROJ"])) := by decide +kernel
  intro kept
  cases kept with
  | cons review rest =>
      cases rest with
      | cons titled later => exact changed titled.1

end AtlasMindNetra.CqlBuilder
