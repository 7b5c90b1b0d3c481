import AtlasMindNetra.ConfluenceResearch

/-!
# Passages quoted for an issue

`_extract_relevant_passage` takes the first item in which the key occurs as a
piece of text, cuts it, and falls back to the first action item. The passage is
about the key exactly when that item has the key, standing alone, early enough.
-/

namespace AtlasMindNetra.ConfluenceResearch

open AtlasMindNetra.PythonValues AtlasMindNetra.ResponseModels
open AtlasMindNetra.ConfluencePipeline (ContextExtractionOutput)

set_option autoImplicit false

section Words

variable {Symbol : Type} (inWord : Symbol → Bool)

/-- The word occurs, and the symbols next to it are not part of a word. -/
def Stands (word text : List Symbol) : Prop :=
  ∃ before after, text = before ++ word ++ after ∧
    (∀ last ∈ before.getLast?, inWord last = false) ∧ ∀ next ∈ after.head?, inWord next = false

/-- The word occurs within the first symbols of the text, and what comes after
it there is not part of a word. -/
def StandsWithin (limit : Nat) (word text : List Symbol) : Prop :=
  ∃ before after, text = before ++ word ++ after ∧ before.length + word.length ≤ limit ∧
    (∀ last ∈ before.getLast?, inWord last = false) ∧
    (before.length + word.length < limit → ∀ next ∈ after.head?, inWord next = false)

theorem stands_take_iff
    (limit : Nat)
    (word text : List Symbol) :
    Stands inWord word (text.take limit) ↔ StandsWithin inWord limit word text := by
  constructor
  · rintro ⟨before, after, cut, left, right⟩
    have length := congrArg List.length cut
    rw [List.length_take, List.length_append, List.length_append] at length
    refine ⟨before, after ++ text.drop limit, ?_, by omega, left, ?_⟩
    · rw [← List.append_assoc, ← cut, List.take_append_drop]
    · intro inside next first
      cases after with
      | cons head rest => exact right next first
      | nil =>
          -- The text ends here, or the cut would come later.
          rw [List.length_nil, Nat.add_zero] at length
          rw [List.nil_append, List.drop_of_length_le (by omega)] at first
          cases first
  · rintro ⟨before, after, rfl, early, left, right⟩
    refine ⟨before, after.take (limit - (before.length + word.length)), ?_, left, ?_⟩
    · rw [List.take_append, List.length_append, List.take_of_length_le]
      rw [List.length_append]
      exact early
    · intro next first
      rw [List.head?_take] at first
      split_ifs at first with full
      · cases first
      · exact right (by omega) next first

end Words

theorem contains_text_iff
    (part whole : String) : containsText part whole = true ↔ part.toList <:+: whole.toList := by
  unfold containsText
  rw [List.any_eq_true]
  constructor
  · rintro ⟨rest, isTail, starts⟩
    exact (List.isPrefixOf_iff_prefix.mp starts).isInfix.trans
      ((List.mem_tails rest _).mp isTail).isInfix
  · rintro ⟨before, after, same⟩
    refine ⟨part.toList ++ after, (List.mem_tails _ _).mpr ⟨before, ?_⟩, ?_⟩
    · rw [← List.append_assoc, same]
    · exact List.isPrefixOf_iff_prefix.mpr (List.prefix_append _ _)

-- Which characters make a key longer when they stand next to it.
variable (inKey : Char → Bool)

def MentionsKey (key text : String) : Prop := Stands inKey key.toList text.toList

/-- The item that the key selects: the first action item, or else the first
severity signal, in which it occurs as a piece of text. -/
def selectedItem (extraction : ContextExtractionOutput) (key : String) : Option String :=
  (extraction.actionItems.find? (containsText key)).or
    (extraction.severitySignals.find? (containsText key))

/-- The selected item has the key standing alone within what is quoted of it,
or no item is selected and there is no first action item to quote instead. -/
def PassageFits (extraction : ContextExtractionOutput) (key : String) : Prop :=
  match selectedItem extraction key with
  | some item => item = "" ∨ StandsWithin inKey 300 key.toList item.toList
  | none => extraction.actionItems.head?.getD "" = ""

/-- Either no passage is quoted, or one that names the key. -/
def AboutKey (key passage : String) : Prop := passage = "" ∨ MentionsKey inKey key passage

theorem first_chars_empty_iff (item : String) : firstChars 300 item = "" ↔ item = "" := by
  unfold firstChars
  rw [String.ofList_eq_empty_iff, List.take_eq_nil_iff]
  constructor
  · rintro (impossible | none)
    · cases impossible
    · exact String.toList_eq_nil_iff.mp none
  · exact fun none => Or.inr (String.toList_eq_nil_iff.mpr none)

theorem cut_about_key_iff
    (key item : String) :
    AboutKey inKey key (firstChars 300 item) ↔
      item = "" ∨ StandsWithin inKey 300 key.toList item.toList := by
  unfold AboutKey MentionsKey
  rw [first_chars_empty_iff, firstChars, String.toList_ofList, stands_take_iff]

theorem mentions_contains
    (key item : String)
    (within : StandsWithin inKey 300 key.toList item.toList) : containsText key item = true := by
  rcases within with ⟨before, after, same, _⟩
  exact (contains_text_iff key item).mpr ⟨before, after, same.symm⟩

theorem passage_about_key_iff
    (extraction : ContextExtractionOutput)
    (key : String) :
    AboutKey inKey key (extractRelevantPassage extraction key) ↔
      PassageFits inKey extraction key := by
  unfold extractRelevantPassage PassageFits
  change AboutKey inKey key ((((selectedItem extraction key).or
    extraction.actionItems.head?).map (firstChars 300)).getD "") ↔ _
  cases selected : selectedItem extraction key with
  | some item => exact cut_about_key_iff inKey key item
  | none =>
      have unselected : extraction.actionItems.find? (containsText key) = none := by
        unfold selectedItem at selected
        exact (Option.or_eq_none_iff.mp selected).1
      cases items : extraction.actionItems with
      | nil => exact ⟨fun _ => rfl, fun _ => Or.inl rfl⟩
      | cons first rest =>
          change AboutKey inKey key (firstChars 300 first) ↔ first = ""
          rw [cut_about_key_iff]
          constructor
          · rintro (blank | within)
            · exact blank
            · rw [items, List.find?_eq_none] at unselected
              exact absurd (mentions_contains inKey key first within)
                (unselected first List.mem_cons_self)
          · exact Or.inl

/-- The passage stored for a key is about the key exactly when the item that
the key selects shows it in time. -/
theorem stored_passage_about_key_iff
    (page : ConfluencePage)
    (extraction : ContextExtractionOutput)
    (key : String)
    (named : key ∈ extraction.jiraKeysMentioned) :
    ∃ keys refs ref, fetchAndExtract page (.ok extraction) = .ok (keys, refs) ∧
      refs.get? key = some ref ∧
      (AboutKey inKey key ref.relevantPassage ↔ PassageFits inKey extraction key) := by
  refine ⟨_, _, pageReference page extraction key, rfl, ?_, ?_⟩
  · rw [OrderedDict.get?_overlay, if_pos named]
    rfl
  · exact passage_about_key_iff inKey extraction key

def asciiKey (char : Char) : Bool := char.isAlphanum || char == '-'

def longerKeyExtraction (key : String) : ContextExtractionOutput where
  jiraKeysMentioned := [key]
  actionItems := ["CAR-10"]

/-- The passage of `CAR-1` is an item about `CAR-10`. -/
theorem longer_key_quoted :
    ¬ ∀ (extraction : ContextExtractionOutput) (key : String),
      key ∈ extraction.jiraKeysMentioned → ∀ page keys refs ref,
        fetchAndExtract page (.ok extraction) = .ok (keys, refs) → refs.get? key = some ref →
          AboutKey asciiKey key ref.relevantPassage := by
  intro about
  have quoted := about (longerKeyExtraction "CAR-1") "CAR-1" List.mem_cons_self { pageId := "7" }
    _ _ (pageReference { pageId := "7" } (longerKeyExtraction "CAR-1") "CAR-1") rfl
    (by decide +kernel)
  have passage : (pageReference { pageId := "7" } (longerKeyExtraction "CAR-1")
      "CAR-1").relevantPassage = "CAR-10" := by decide +kernel
  rw [passage] at quoted
  rcases quoted with blank | ⟨before, after, same, _, right⟩
  · exact absurd blank (by decide)
  · cases before with
    | nil =>
        have tail : "CAR-1".toList ++ after = "CAR-1".toList ++ ['0'] := same.symm
        have rest := List.append_cancel_left tail
        exact absurd (right '0' (by rw [rest]; rfl)) (by decide)
    | cons first others =>
        have length := congrArg List.length same
        rw [List.length_append, List.length_append, List.length_cons] at length
        change 6 = others.length + 1 + 5 + after.length at length
        obtain rfl : others = [] := List.length_eq_zero_iff.mp (by omega)
        have second := congrArg (fun text => text[1]?) same
        cases second

/-- The passage of `CAR-10` is about it. -/
theorem own_key_quoted :
    ∃ ref : ConfluenceReference, ref.relevantPassage ≠ "" ∧
      AboutKey asciiKey "CAR-10" ref.relevantPassage := by
  rcases stored_passage_about_key_iff asciiKey { pageId := "7" } (longerKeyExtraction "CAR-10")
    "CAR-10" List.mem_cons_self with ⟨keys, refs, ref, fetched, found, about⟩
  cases fetched
  have stored : some (pageReference { pageId := "7" } (longerKeyExtraction "CAR-10") "CAR-10") =
      some ref := Eq.trans (by decide +kernel) found
  cases stored
  refine ⟨_, by decide +kernel, about.mpr ?_⟩
  have selected : selectedItem (longerKeyExtraction "CAR-10") "CAR-10" = some "CAR-10" := by
    decide +kernel
  unfold PassageFits
  rw [selected]
  exact Or.inr ⟨[], [], rfl, by decide, nofun, fun _ => nofun⟩

end AtlasMindNetra.ConfluenceResearch
