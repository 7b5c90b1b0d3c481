import AtlasMindNetra.PageSections
import Mathlib.Algebra.GroupWithZero.Nat
import Mathlib.Algebra.Order.BigOperators.Group.List
import Mathlib.Algebra.Order.Group.Nat

/-!
# The character budget of a page

`content_max_chars` cuts every section by itself, and so does the prompt. The
sections of a page therefore stay within it together when only one of them has
text, or when they would fit without it.
-/

namespace AtlasMindNetra.HtmlExtractor

open AtlasMindNetra.PythonValues AtlasMindNetra.ScanRules

set_option autoImplicit false

theorem sum_two_le
    (amount : Nat → Nat)
    (before after : List Nat)
    (one other : Nat)
    (elsewhere : other ∈ before ++ after) :
    amount one + amount other ≤ ((before ++ one :: after).map amount).sum := by
  have rest := List.single_le_sum (l := (before ++ after).map amount)
    (fun _ _ => Nat.zero_le _) (amount other) (List.mem_map_of_mem elsewhere)
  rw [List.map_append, List.sum_append] at rest
  rw [List.map_append, List.sum_append, List.map_cons, List.sum_cons]
  omega

theorem another_nonzero
    (before after : List Nat)
    (long : Nat)
    (several : 1 < ((before ++ long :: after).filter fun length => length ≠ 0).length) :
    ∃ other ∈ before ++ after, other ≠ 0 := by
  by_contra none
  push Not at none
  have empty : (before ++ after).filter (fun length => length ≠ 0) = [] := by
    rw [List.filter_eq_nil_iff]
    intro length inRest
    simp [none length inRest]
  rw [List.filter_append] at empty several
  rw [List.append_eq_nil_iff] at empty
  rw [empty.1, List.filter_cons, empty.2] at several
  split_ifs at several <;> simp at several

theorem one_part_cut
    (bound limit : Nat)
    (parts : List Nat)
    (few : (parts.filter fun length => length ≠ 0).length ≤ 1) :
    (parts.map fun length => min bound (min limit length)).sum ≤ limit := by
  induction parts with
  | nil => exact Nat.zero_le _
  | cons length rest ih =>
      rw [List.map_cons, List.sum_cons]
      by_cases blank : length = 0
      · rw [List.filter_cons_of_neg (by simpa using blank)] at few
        have later := ih few
        omega
      · rw [List.filter_cons_of_pos (by simpa using blank), List.length_cons] at few
        have none : rest.filter (fun length => length ≠ 0) = [] :=
          List.length_eq_zero_iff.mp (by omega)
        have zero : (rest.map fun length => min bound (min limit length)).sum = 0 := by
          rw [List.sum_eq_zero_iff_forall_eq_nat]
          intro part member
          rcases List.mem_map.mp member with ⟨length, inRest, rfl⟩
          have blank := List.filter_eq_nil_iff.mp none length inRest
          rw [decide_eq_true_eq, not_not] at blank
          omega
        omega

/-- Parts that are each cut at the limit exceed it together unless they do not
need the cut or only one of them is not empty. -/
theorem cut_sum_le_iff
    (bound limit : Nat)
    (lengths : List Nat) :
    (lengths.map fun length => min bound (min limit length)).sum ≤ limit ↔
      limit = 0 ∨ (lengths.filter fun length => length ≠ 0).length ≤ 1 ∨
        (lengths.map (min bound)).sum ≤ limit := by
  constructor
  · intro within
    by_contra apart
    rw [not_or, not_or, Nat.not_le, Nat.not_le] at apart
    rcases apart with ⟨some, several, exceeds⟩
    by_cases fit : ∀ length ∈ lengths, min bound length ≤ limit
    · have same : lengths.map (fun length => min bound (min limit length)) =
          lengths.map (min bound) := by
        apply List.map_congr_left
        intro length member
        have fits := fit length member
        omega
      rw [same] at within
      omega
    · -- One part fills the limit, and there is another one.
      push Not at fit
      rcases fit with ⟨long, member, large⟩
      rcases List.append_of_mem member with ⟨before, after, rfl⟩
      rcases another_nonzero before after long several with ⟨other, elsewhere, nonzero⟩
      have both := sum_two_le (fun length => min bound (min limit length)) before after long other
        elsewhere
      omega
  · rintro (none | single | fit)
    · rw [none]
      simp
    · exact one_part_cut bound limit lengths single
    · apply Nat.le_trans _ fit
      apply List.sum_le_sum
      intro length _
      omega

section Budget

variable (tables : HtmlTables) (html : String)

def sectionTexts : List String :=
  ((foundSections tables html pageTargetHeadings).foldl
    (fun sections found => sections.set found.1 found.2) (∅ : OrderedDict String String)).values

def promptChars (sections : OrderedDict String String) : Nat :=
  ((promptSections sections).map fun shown => shown.2.length).sum

theorem cut_twice_length
    (bound maxChars : Nat)
    (text : String) :
    (firstChars bound (cutText maxChars text)).length =
      min bound (min maxChars text.length) := by
  have nonneg : ¬ (maxChars : Int) < 0 := Int.not_lt.mpr (Int.natCast_nonneg maxChars)
  rw [firstChars, cutText, String.length_ofList, String.toList_ofList, List.length_take, sliceTo,
    if_neg nonneg, Int.toNat_natCast, List.length_take, String.length_toList]

theorem prompt_chars_cut
    (maxChars : Nat) :
    promptChars (extractSections tables html pageTargetHeadings maxChars) =
      (((sectionTexts tables html).map String.length).map fun length =>
        min 2000 (min maxChars length)).sum := by
  have entries : (extractSections tables html pageTargetHeadings maxChars).entries =
      ((foundSections tables html pageTargetHeadings).foldl
        (fun sections found => sections.set found.1 found.2)
        (∅ : OrderedDict String String)).entries.map
          fun entry => (entry.1, cutText maxChars entry.2) :=
    OrderedDict.entries_filed_map Prod.fst Prod.snd (cutText maxChars)
      (foundSections tables html pageTargetHeadings)
  unfold promptChars promptSections sectionTexts OrderedDict.values
  rw [entries, List.map_map, List.map_map, List.map_map, List.map_map]
  generalize 2000 = bound
  apply congrArg List.sum
  apply List.map_congr_left
  intro entry _
  exact cut_twice_length bound maxChars entry.2

/-- The prompt keeps to the budget of the page exactly when no second section
with text needs the cut. -/
theorem page_budget_kept_iff
    (maxChars : Nat) :
    promptChars (extractSections tables html pageTargetHeadings maxChars) ≤ maxChars ↔
      maxChars = 0 ∨
      ((sectionTexts tables html).filter fun text => text ≠ "").length ≤ 1 ∨
      ((sectionTexts tables html).map fun text => min 2000 text.length).sum ≤ maxChars := by
  rw [prompt_chars_cut, cut_sum_le_iff 2000 maxChars, List.filter_map,
    List.length_map, List.map_map]
  have blank (text : String) : (text.length ≠ 0) = (text ≠ "") := by
    rw [ne_eq, ne_eq, String.length_eq_zero_iff]
  simp only [Function.comp_def, blank]

end Budget

/-- Two sections that each fill the budget. -/
theorem two_sections_exceed :
    ¬ ∀ (html : String) (maxChars : Nat),
      promptChars (extractSections plainTables html pageTargetHeadings maxChars) ≤ maxChars := by
  intro within
  have exceeds := within "<h2>Risk</h2>aaa<h2>Status</h2>bbb" 3
  have counted : promptChars (extractSections plainTables "<h2>Risk</h2>aaa<h2>Status</h2>bbb"
      pageTargetHeadings 3) = 6 := by decide +kernel
  exact absurd (counted ▸ exceeds) (by decide)

end AtlasMindNetra.HtmlExtractor
