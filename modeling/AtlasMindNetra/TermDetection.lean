import AtlasMindNetra.IntentClassifier
import AtlasMindNetra.PatternRules

/-!
# Exact detection of terms

`IntentClassifier.detect` of `core/intent_classifier.py` against the delimited
occurrences of the terms. The boundaries of the pattern ask for a word character
on one side. For a term that begins and ends with one this is the same as no
word character on the other side, as long as what is found in place of its first
or last letter is a word character as well. `re` has one character for which it
is not: U+0345 equals the letter iota when case is ignored, and is no word
character.
-/

namespace AtlasMindNetra.IntentClassifier

open AtlasMindNetra.PythonValues AtlasMindNetra.ResponseModels AtlasMindNetra.PatternRules

set_option autoImplicit false

section Tables

variable (tables : TextTables)

/-- `(?:e?s)?` -/
def pluralPattern : Pattern Char :=
  .optional (.seq (.optional (.symbol (tables.sameIgnoringCase 'e')))
    (.symbol (tables.sameIgnoringCase 's')))

/-- `\b<term>(?:e?s)?\b` -/
def termPattern (term : List Char) : Pattern Char :=
  .delimited tables.isWord
    (.seq (.literal (term.map tables.sameIgnoringCase)) (pluralPattern tables))

/-- The text is the term, with one of the endings, ignoring case. -/
def IsTermForm (term text : List Char) : Prop :=
  ∃ ending ∈ pluralEndings, List.Forall₂
    (fun expected char => tables.sameIgnoringCase expected char = true) (term ++ ending) text

theorem fits_plural_iff
    (before text after : List Char) :
    Fits (pluralPattern tables) before text after ↔ ∃ ending ∈ pluralEndings, List.Forall₂
      (fun expected char => tables.sameIgnoringCase expected char = true) ending text := by
  simp only [pluralPattern, Pattern.optional, Fits, pluralEndings, List.mem_cons,
    List.not_mem_nil, or_false, exists_eq_or_imp, exists_eq_left, List.forall₂_cons_left_iff,
    List.forall₂_nil_left_iff]
  constructor
  · rintro (⟨_, _, rfl, ⟨e, rfl, isE⟩ | rfl, s, rfl, isS⟩ | rfl)
    · exact Or.inl ⟨e, [s], isE, ⟨s, [], isS, rfl, rfl⟩, rfl⟩
    · exact Or.inr (Or.inl ⟨s, [], isS, rfl, rfl⟩)
    · exact Or.inr (Or.inr rfl)
  · rintro (⟨e, _, isE, ⟨s, _, isS, rfl, rfl⟩, rfl⟩ | ⟨s, _, isS, rfl, rfl⟩ | rfl)
    · exact Or.inl ⟨[e], [s], rfl, Or.inl ⟨e, rfl, isE⟩, s, rfl, isS⟩
    · exact Or.inl ⟨[], [s], rfl, Or.inr rfl, s, rfl, isS⟩
    · exact Or.inr rfl

theorem related_append_iff
    (same : Char → Char → Prop)
    (first second text : List Char) :
    List.Forall₂ same (first ++ second) text ↔ ∃ start stop, text = start ++ stop ∧
      List.Forall₂ same first start ∧ List.Forall₂ same second stop := by
  constructor
  · induction first generalizing text with
    | nil => exact fun related => ⟨[], text, rfl, List.Forall₂.nil, related⟩
    | cons expected first ih =>
        intro related
        rcases List.forall₂_cons_left_iff.mp related with ⟨char, rest, isSame, others, rfl⟩
        rcases ih rest others with ⟨start, stop, rfl, begun, ended⟩
        exact ⟨char :: start, stop, rfl, List.Forall₂.cons isSame begun, ended⟩
  · rintro ⟨start, stop, rfl, begun, ended⟩
    exact List.rel_append begun ended

theorem fits_term_iff
    (term before text after : List Char) :
    Fits (termPattern tables term) before text after ↔ IsTermForm tables term text ∧
      atBoundary tables.isWord before (text ++ after) = true ∧
        atBoundary tables.isWord (before ++ text) after = true := by
  rw [termPattern, fits_delimited_iff]
  apply and_congr_left
  intro _
  simp only [Fits, fits_literal_iff, fits_plural_iff, List.forall₂_map_left_iff, IsTermForm]
  constructor
  · rintro ⟨start, stop, rfl, isTerm, ending, listed, isEnding⟩
    exact ⟨ending, listed, (related_append_iff _ _ _ _).mpr ⟨start, stop, rfl, isTerm, isEnding⟩⟩
  · rintro ⟨ending, listed, both⟩
    rcases (related_append_iff _ _ _ _).mp both with ⟨start, stop, rfl, isTerm, isEnding⟩
    exact ⟨start, stop, rfl, isTerm, ending, listed, isEnding⟩

theorem boundary_at_split
    (before rest : List Char) :
    boundaryAt tables (before ++ rest) before.length =
      atBoundary tables.isWord before rest := by
  have next (text : List Char) (index : Nat) :
      wordAt tables text index = (text[index]?).any tables.isWord := by
    rw [wordAt]
    cases text[index]? <;> rfl
  rw [atBoundary]
  induction before using List.reverseRecOn with
  | nil =>
      rw [List.nil_append, List.length_nil, boundaryAt, next, List.head?_eq_getElem?]
      exact (Bool.false_bne _).symm
  | append_singleton init last _ =>
      rw [List.length_append, List.length_singleton, boundaryAt, next, next,
        List.getLast?_concat, List.head?_eq_getElem?]
      have lastHere : (init ++ [last] ++ rest)[init.length]? = some last := by simp
      have restHere : (init ++ [last] ++ rest)[init.length + 1]? = rest[0]? := by
        rw [List.getElem?_append_right (by simp)]
        simp
      rw [lastHere, restHere]

theorem literal_at_iff
    (literal rest : List Char) :
    literalAt tables literal rest = true ↔ ∃ text after, rest = text ++ after ∧ List.Forall₂
      (fun expected char => tables.sameIgnoringCase expected char = true) literal text := by
  induction literal generalizing rest with
  | nil => exact iff_of_true rfl ⟨[], rest, rfl, List.Forall₂.nil⟩
  | cons expected literal ih =>
      cases rest with
      | nil =>
          apply iff_of_false Bool.false_ne_true
          rintro ⟨text, after, split, related⟩
          rw [(List.append_eq_nil_iff.mp split.symm).1] at related
          cases related
      | cons char rest =>
          rw [literalAt, Bool.and_eq_true, ih]
          constructor
          · rintro ⟨isSame, text, after, rfl, related⟩
            exact ⟨char :: text, after, rfl, List.Forall₂.cons isSame related⟩
          · rintro ⟨text, after, split, related⟩
            rcases List.forall₂_cons_left_iff.mp related with ⟨first, text, isSame, others, rfl⟩
            rw [List.cons_append, List.cons.injEq] at split
            exact ⟨split.1 ▸ isSame, text, after, split.2, others⟩

theorem pattern_at_split
    (term before rest : List Char) :
    patternAt tables term (before ++ rest) before.length = true ↔
      ∃ text after, rest = text ++ after ∧ Fits (termPattern tables term) before text after := by
  have further (start ending after : List Char) (taken : start.length = term.length) :
      (literalAt tables ending ((before ++ (start ++ after)).drop (before.length + term.length)) &&
        boundaryAt tables (before ++ (start ++ after))
          (before.length + term.length + ending.length)) = true ↔
      ∃ stop following, after = stop ++ following ∧ List.Forall₂
        (fun expected char => tables.sameIgnoringCase expected char = true) ending stop ∧
        atBoundary tables.isWord (before ++ (start ++ stop)) following = true := by
    have length : before.length + term.length = (before ++ start).length := by
      rw [List.length_append, taken]
    rw [← List.append_assoc, length, List.drop_left, Bool.and_eq_true, literal_at_iff]
    constructor
    · rintro ⟨⟨stop, following, rfl, related⟩, behind⟩
      refine ⟨stop, following, rfl, related, ?_⟩
      rw [List.Forall₂.length_eq related, ← List.length_append, ← List.append_assoc,
        boundary_at_split, List.append_assoc] at behind
      exact behind
    · rintro ⟨stop, following, rfl, related, behind⟩
      refine ⟨⟨stop, following, rfl, related⟩, ?_⟩
      rw [List.Forall₂.length_eq related, ← List.length_append, ← List.append_assoc,
        boundary_at_split, List.append_assoc]
      exact behind
  simp only [fits_term_iff, IsTermForm, related_append_iff]
  rw [patternAt, Bool.and_eq_true, Bool.and_eq_true, boundary_at_split, List.drop_left,
    List.any_eq_true, literal_at_iff]
  constructor
  · rintro ⟨⟨ahead, start, after, rfl, isTerm⟩, ending, listed, last⟩
    rcases (further start ending after isTerm.length_eq.symm).mp last with
      ⟨stop, following, rfl, isEnding, behind⟩
    refine ⟨start ++ stop, following, (List.append_assoc _ _ _).symm,
      ⟨ending, listed, start, stop, rfl, isTerm, isEnding⟩, ?_, behind⟩
    rw [List.append_assoc]
    exact ahead
  · rintro ⟨_, following, rfl, ⟨ending, listed, start, stop, rfl, isTerm, isEnding⟩, ahead, behind⟩
    refine ⟨⟨ahead, start, stop ++ following, List.append_assoc _ _ _, isTerm⟩, ending, listed, ?_⟩
    rw [List.append_assoc]
    exact (further start ending (stop ++ following) isTerm.length_eq.symm).mpr
      ⟨stop, following, rfl, isEnding, behind⟩

theorem pattern_search_eq
    (term text : List Char) :
    patternSearch tables term text = searchFrom (termPattern tables term) [] text := by
  rw [Bool.eq_iff_iff, search_from_iff, patternSearch, List.any_eq_true]
  constructor
  · rintro ⟨index, inside, found⟩
    have length : (text.take index).length = index := by
      rw [List.length_take]
      have bound := List.mem_range.mp inside
      omega
    rw [← length] at found
    have split := pattern_at_split tables term (text.take index) (text.drop index)
    rw [List.take_append_drop] at split
    rcases split.mp found with ⟨middle, after, rest, fits⟩
    refine ⟨text.take index, middle, after, ?_, fits⟩
    rw [List.append_assoc, ← rest, List.take_append_drop]
  · rintro ⟨before, middle, after, rfl, fits⟩
    refine ⟨before.length, ?_, ?_⟩
    · rw [List.mem_range, List.append_assoc, List.length_append]
      omega
    · rw [List.append_assoc]
      exact (pattern_at_split tables term before _).mpr ⟨middle, after, rfl, fits⟩

def WordEdged (term : String) : Prop :=
  term.toList.head?.any tables.isWord = true ∧ term.toList.getLast?.any tables.isWord = true

/-- Where a form of a term can begin and end: its own edges, and the `s` of an ending. -/
def formEdges (term : String) : List Char :=
  term.toList.head?.toList ++ term.toList.getLast?.toList ++ ['s']

/-- What in the text equals an edge of the term, ignoring case, is a word character. -/
def EdgesKeepWords (term text : String) : Prop :=
  ∀ edge ∈ formEdges term, ∀ char ∈ text.toList,
    tables.sameIgnoringCase edge char = true → tables.isWord char = true

/-- The text has the term in one of its forms, with no word character on either side. -/
def HasTerm (term text : String) : Prop :=
  ∃ before middle after, text.toList = before ++ middle ++ after ∧
    IsTermForm tables term.toList middle ∧ before.getLast?.any tables.isWord = false ∧
      after.head?.any tables.isWord = false

theorem detected_iff
    (vocab : VocabLookup)
    (term text : String) :
    term ∈ detect tables vocab text ↔ term ∈ vocab.terms ∧
      ∃ before middle after, text.toList = before ++ middle ++ after ∧
        Fits (termPattern tables term.toList) before middle after := by
  rw [detect, List.mem_filter, pattern_search_eq, search_from_iff]
  rfl

theorem related_starts_word
    (first : Char)
    (expected text : List Char)
    (starts : expected.head? = some first)
    (related : List.Forall₂
      (fun expected char => tables.sameIgnoringCase expected char = true) expected text)
    (keeps : ∀ char ∈ text, tables.sameIgnoringCase first char = true →
      tables.isWord char = true) :
    text.head?.any tables.isWord = true := by
  cases related with
  | nil => cases starts
  | cons isSame others =>
      cases starts
      exact keeps _ List.mem_cons_self isSame

/-- The last letter of a form is that of the term, or the `s` of an ending. -/
theorem form_last_edge
    (term : String)
    (last : Char)
    (ends : term.toList.getLast? = some last)
    (ending : List Char)
    (listed : ending ∈ pluralEndings) :
    ∃ edge ∈ formEdges term, (term.toList ++ ending).getLast? = some edge := by
  unfold formEdges
  simp only [pluralEndings, List.mem_cons, List.not_mem_nil, or_false] at listed
  rcases listed with rfl | rfl | rfl
  · refine ⟨'s', List.mem_append_right _ (List.mem_singleton_self _), ?_⟩
    rw [List.getLast?_append]
    rfl
  · refine ⟨'s', List.mem_append_right _ (List.mem_singleton_self _), ?_⟩
    rw [List.getLast?_append]
    rfl
  · refine ⟨last, ?_, ?_⟩
    · rw [ends]
      exact List.mem_append_left _ (List.mem_append_right _ (List.mem_singleton_self _))
    · rw [List.append_nil, ends]

theorem form_edged
    (term text : String)
    (edged : WordEdged tables term)
    (keeps : EdgesKeepWords tables term text)
    (middle : List Char)
    (within : middle ⊆ text.toList)
    (form : IsTermForm tables term.toList middle) :
    middle.head?.any tables.isWord = true ∧ middle.getLast?.any tables.isWord = true := by
  obtain ⟨ending, listed, related⟩ := form
  obtain ⟨starts, ends⟩ := edged
  rw [Option.any_eq_true] at starts ends
  obtain ⟨first, starts, _⟩ := starts
  obtain ⟨last, ends, _⟩ := ends
  have keepsHere (edge : Char) (isEdge : edge ∈ formEdges term) :
      ∀ char ∈ middle, tables.sameIgnoringCase edge char = true → tables.isWord char = true :=
    fun char member => keeps edge isEdge char (within member)
  constructor
  · have isEdge : first ∈ formEdges term := by
      unfold formEdges
      rw [starts]
      exact List.mem_append_left _ (List.mem_append_left _ (List.mem_singleton_self _))
    have begins : (term.toList ++ ending).head? = some first := by
      rw [List.head?_append, starts]
      rfl
    exact related_starts_word tables first _ _ begins related (keepsHere first isEdge)
  · obtain ⟨edge, isEdge, closes⟩ := form_last_edge term last ends ending listed
    rw [← List.head?_reverse] at closes ⊢
    apply related_starts_word tables edge _ _ closes (List.forall₂_reverse_iff.mpr related)
    exact fun char member => keepsHere edge isEdge char (List.mem_reverse.mp member)

/-- At the edges of a form a boundary is the same as no word character beyond. -/
theorem fits_form_iff
    (term text : String)
    (edged : WordEdged tables term)
    (keeps : EdgesKeepWords tables term text)
    (before middle after : List Char)
    (split : text.toList = before ++ middle ++ after) :
    Fits (termPattern tables term.toList) before middle after ↔
      IsTermForm tables term.toList middle ∧ before.getLast?.any tables.isWord = false ∧
        after.head?.any tables.isWord = false := by
  rw [fits_term_iff]
  apply and_congr_right
  intro form
  have within : middle ⊆ text.toList := by
    rw [split]
    exact List.subset_append_of_subset_left _ (List.subset_append_right _ _)
  have edges := form_edged tables term text edged keeps middle within form
  have starts : (middle ++ after).head?.any tables.isWord = true := by
    cases middle with
    | nil => exact absurd edges.1 Bool.false_ne_true
    | cons char rest => exact edges.1
  have ends : (before ++ middle).getLast?.any tables.isWord = true := by
    rw [List.getLast?_append]
    cases last : middle.getLast? with
    | none =>
        rw [last] at edges
        exact absurd edges.2 Bool.false_ne_true
    | some char =>
        rw [last] at edges
        exact edges.2
  rw [boundary_before_word _ _ _ starts, boundary_after_word _ _ _ ends]

theorem detect_in_context
    (vocab : VocabLookup)
    (before text after : String)
    (ahead : before.toList.getLast?.any tables.isWord = false)
    (behind : after.toList.head?.any tables.isWord = false) :
    detect tables vocab text ⊆ detect tables vocab (before ++ text ++ after) := by
  intro term detected
  rcases (detected_iff tables vocab term text).mp detected with
    ⟨known, left, middle, right, split, fits⟩
  refine (detected_iff tables vocab term _).mpr
    ⟨known, before.toList ++ left, middle, right ++ after.toList, ?_, ?_⟩
  · rw [String.toList_append, String.toList_append, split]
    simp only [List.append_assoc]
  · rw [fits_term_iff] at fits ⊢
    refine ⟨fits.1, ?_, ?_⟩
    · rw [← List.append_assoc, boundary_in_context _ _ _ _ _ ahead behind]
      exact fits.2.1
    · rw [List.append_assoc, boundary_in_context _ _ _ _ _ ahead behind]
      exact fits.2.2

/-- Terms are detected in the order of the vocabulary, each once, and exactly
those that stand in the text by themselves; what is added to the text behind no
word character hides none of them. -/
theorem detect_exact
    (vocab : VocabLookup)
    (edged : ∀ term ∈ vocab.terms, WordEdged tables term) :
    (∀ text, (detect tables vocab text).Sublist vocab.terms ∧ (detect tables vocab text).Nodup ∧
      ∀ term ∈ vocab.terms, EdgesKeepWords tables term text →
        (term ∈ detect tables vocab text ↔ HasTerm tables term text)) ∧
    ∀ before text after : String, before.toList.getLast?.any tables.isWord = false →
      after.toList.head?.any tables.isWord = false →
        detect tables vocab text ⊆ detect tables vocab (before ++ text ++ after) := by
  constructor
  · intro text
    refine ⟨List.filter_sublist, vocab.entries.distinct.filter _, ?_⟩
    intro term known keeps
    rw [detected_iff, and_iff_right known]
    unfold HasTerm
    apply exists_congr
    intro before
    apply exists_congr
    intro middle
    apply exists_congr
    intro after
    apply and_congr_right
    exact fits_form_iff tables term text (edged term known) keeps before middle after
  · exact detect_in_context tables vocab

end Tables

def oneTerm (term : String) : VocabLookup where
  entries := (∅ : OrderedDict String VocabEntry).set term { ambiguity := "" }

/-- U+0345, the iota written below another letter -/
def iotaBelow : Char := Char.ofNat 0x345

/-- ASCII, and the two iotas as `re` has them. -/
def iotaTables : TextTables where
  lower := asciiTables.lower
  isWord char := asciiTables.isWord char || char == 'ι'
  sameIgnoringCase left right :=
    asciiTables.sameIgnoringCase left right || [left, right].all (['ι', iotaBelow].contains ·)

def iotaText : String := "OPENS" ++ String.singleton iotaBelow

theorem plural_detected :
    HasTerm iotaTables "open" iotaText ∧
      "open" ∈ detect iotaTables (oneTerm "open") ("How many " ++ iotaText ++ ", and why?") := by
  have exactly := detect_exact iotaTables (oneTerm "open") (by
    unfold WordEdged
    decide +kernel)
  have keeps : EdgesKeepWords iotaTables "open" iotaText := by
    have every : ((formEdges "open").all fun edge => iotaText.toList.all fun char =>
        !iotaTables.sameIgnoringCase edge char || iotaTables.isWord char) = true := by
      decide +kernel
    intro edge isEdge char inText same
    have here := List.all_eq_true.mp (List.all_eq_true.mp every edge isEdge) char inText
    rw [same] at here
    exact here
  have detected : "open" ∈ detect iotaTables (oneTerm "open") iotaText := by decide +kernel
  constructor
  · exact ((exactly.1 iotaText).2.2 "open" (by decide +kernel) keeps).mp detected
  · exact exactly.2 "How many " iotaText ", and why?" (by decide +kernel) (by decide +kernel)
      detected

/-- The text is the term but for case, and has no word character at all. -/
theorem iota_below_hidden :
    (oneTerm "ι").terms = ["ι"] ∧ WordEdged iotaTables "ι" ∧
      HasTerm iotaTables "ι" (String.singleton iotaBelow) ∧
      detect iotaTables (oneTerm "ι") (String.singleton iotaBelow) = [] := by
  refine ⟨rfl, by unfold WordEdged; decide +kernel, ?_, by decide +kernel⟩
  refine ⟨[], [iotaBelow], [], by decide +kernel, ⟨[], by decide, ?_⟩, rfl, rfl⟩
  exact List.Forall₂.cons (by decide +kernel) List.Forall₂.nil

end AtlasMindNetra.IntentClassifier
