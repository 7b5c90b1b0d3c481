import Mathlib.Data.List.Basic
import Mathlib.Tactic.SplitIfs

/-!
# Documents made of marked lines

A document joins its lines with line breaks. Reading it back gives the lines
themselves when none of them contains a break, and more lines otherwise. A
mark is a fixed text that a line starts with; marks of which none starts
another are told apart by their lines.
-/

namespace AtlasMindNetra.LineRules

set_option autoImplicit false

def OneLine (text : String) : Prop := '\n' ∉ text.toList

instance (text : String) : Decidable (OneLine text) := inferInstanceAs (Decidable (¬ _))

@[simp]
theorem one_line_append
    (first second : String) : OneLine (first ++ second) ↔ OneLine first ∧ OneLine second := by
  unfold OneLine
  rw [String.toList_append, List.mem_append, not_or]

theorem one_line_intercalate
    (separator : String)
    (texts : List String)
    (plain : OneLine separator) :
    OneLine (String.intercalate separator texts) ↔ ∀ text, text ∈ texts → OneLine text := by
  induction texts with
  | nil => simp [String.intercalate_nil, OneLine]
  | cons head rest ih =>
      cases rest with
      | nil => simp [String.intercalate_singleton]
      | cons next rest =>
          rw [String.intercalate_cons_cons, one_line_append, one_line_append, ih]
          simp only [List.forall_mem_cons]
          exact ⟨fun both => ⟨both.1.1, both.2⟩, fun both => ⟨⟨both.1, plain⟩, both.2⟩⟩

/-- `text.split("\n")` -/
def linesOf (text : String) : List (List Char) := text.toList.splitOn '\n'

/-- `"\n".join(lines) + "\n"` -/
def document (lines : List String) : String := String.intercalate "\n" lines ++ "\n"

theorem lines_of_one_line
    (text : String)
    (single : OneLine text) : linesOf text = [text.toList] := by
  apply List.splitOnP_eq_singleton
  intro char member
  apply beq_false_of_ne
  rintro rfl
  exact single member

theorem lines_of_break
    (first second : String) :
    linesOf (first ++ "\n" ++ second) = linesOf first ++ linesOf second := by
  have split : (first ++ "\n" ++ second).toList = first.toList ++ '\n' :: second.toList := by
    simp [String.toList_append]
  unfold linesOf
  rw [split]
  exact List.splitOnP_append_cons first.toList second.toList (beq_self_eq_true '\n')

theorem lines_of_length
    (text : String) : (linesOf text).length = text.toList.count '\n' + 1 := by
  unfold linesOf
  rw [List.splitOn_eq_splitOnP]
  generalize text.toList = chars
  induction chars with
  | nil => rfl
  | cons char rest ih =>
      rw [List.splitOnP_cons_eq_if_modifyHead]
      by_cases breaks : char = '\n'
      · subst breaks
        simp only [beq_self_eq_true, if_true, List.length_cons, ih, List.count_cons_self]
      · simp only [beq_false_of_ne breaks, Bool.false_eq_true, if_false, List.length_modifyHead, ih,
          List.count_cons_of_ne breaks]

theorem lines_of_many
    (text : String)
    (broken : ¬ OneLine text) : 1 < (linesOf text).length := by
  have breaks : 0 < text.toList.count '\n' := List.count_pos_iff.mpr (not_not.mp broken)
  have length := lines_of_length text
  omega

theorem lines_of_document
    (head : String)
    (rest : List String) :
    linesOf (document (head :: rest)) = (head :: rest).flatMap linesOf ++ [[]] := by
  have last : linesOf "" = [[]] := rfl
  induction rest generalizing head with
  | nil =>
      have lines := lines_of_break head ""
      rw [String.append_empty, last] at lines
      simp only [document, String.intercalate_singleton, lines, List.flatMap_cons,
        List.flatMap_nil, List.append_nil]
  | cons next rest ih =>
      have joined : document (head :: next :: rest) = head ++ "\n" ++ document (next :: rest) := by
        simp only [document, String.intercalate_cons_cons, String.append_assoc]
      have more : (head :: next :: rest).flatMap linesOf =
          linesOf head ++ (next :: rest).flatMap linesOf := List.flatMap_cons
      rw [joined, lines_of_break, ih next, more, List.append_assoc]

theorem lines_of_joined
    (head : String)
    (rest : List String) :
    linesOf (String.intercalate "\n" (head :: rest)) = (head :: rest).flatMap linesOf := by
  have last : linesOf "" = [[]] := rfl
  have joined := lines_of_document head rest
  have lines := lines_of_break (String.intercalate "\n" (head :: rest)) ""
  rw [String.append_empty, last] at lines
  exact List.append_cancel_right (lines.symm.trans joined)

theorem flat_lines_one_line
    (lines : List String)
    (single : ∀ line, line ∈ lines → OneLine line) :
    lines.flatMap linesOf = lines.map String.toList := by
  induction lines with
  | nil => rfl
  | cons head rest ih =>
      rw [List.forall_mem_cons] at single
      rw [List.flatMap_cons, List.map_cons, lines_of_one_line head single.1, ih single.2,
        List.singleton_append]

theorem flat_lines_longer
    (lines : List String)
    (broken : ¬ ∀ line, line ∈ lines → OneLine line) :
    lines.length < (lines.flatMap linesOf).length := by
  have atLeast (texts : List String) : texts.length ≤ (texts.flatMap linesOf).length := by
    induction texts with
    | nil => exact Nat.le_refl 0
    | cons head rest ih =>
        have own := lines_of_length head
        rw [List.flatMap_cons, List.length_append, List.length_cons]
        omega
  induction lines with
  | nil => exact absurd (fun line member => absurd member (List.not_mem_nil)) broken
  | cons head rest ih =>
      rw [List.forall_mem_cons] at broken
      rw [List.flatMap_cons, List.length_append, List.length_cons]
      by_cases single : OneLine head
      · have more := ih fun others => broken ⟨single, others⟩
        have own := lines_of_length head
        omega
      · have more := lines_of_many head single
        have others := atLeast rest
        omega

/-- The lines of some texts are these texts exactly if each of them is one line. -/
theorem flat_lines_iff
    (texts : List String) :
    texts.flatMap linesOf = texts.map String.toList ↔ ∀ text, text ∈ texts → OneLine text := by
  constructor
  · intro same
    by_contra broken
    have longer := flat_lines_longer texts broken
    rw [same, List.length_map] at longer
    omega
  · exact flat_lines_one_line texts

section Marks

variable {Mark : Type} (text : Mark → List Char) (marks : List Mark)

def markOf (line : List Char) : Option Mark := marks.find? fun mark => (text mark).isPrefixOf line

def Separated : Prop :=
  ∀ first, first ∈ marks → ∀ second, second ∈ marks → text first <+: text second → first = second

theorem mark_of_marked
    (separated : Separated text marks)
    (mark : Mark)
    (listed : mark ∈ marks)
    (line : List Char)
    (starts : text mark <+: line) : markOf text marks line = some mark := by
  unfold markOf
  cases found : marks.find? fun mark => (text mark).isPrefixOf line with
  | none =>
      have none := List.find?_eq_none.mp found mark listed
      exact absurd (List.isPrefixOf_iff_prefix.mpr starts) none
  | some other =>
      have member := List.mem_of_find?_eq_some found
      have starting := List.find?_some (p := fun mark => (text mark).isPrefixOf line) found
      have also : text other <+: line := List.isPrefixOf_iff_prefix.mp starting
      rcases List.prefix_or_prefix_of_prefix also starts with shorter | longer
      · rw [separated other member mark listed shorter]
      · rw [separated mark listed other member longer]

end Marks

end AtlasMindNetra.LineRules
