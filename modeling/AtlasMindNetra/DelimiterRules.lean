import Mathlib.Algebra.GroupWithZero.Nat
import Mathlib.Algebra.Order.BigOperators.Group.List
import Mathlib.Algebra.Order.Group.Nat
import Mathlib.Data.List.Induction
import Mathlib.Tactic.SplitIfs

/-!
# Rows of cells between separators

A separator after an odd number of marks belongs to the cell it stands in, one
after an even number ends the cell. Marking every separator of a text therefore
keeps the text in one cell unless it has a separator after an odd number of
marks itself, which one mark more exposes.
-/

namespace AtlasMindNetra.DelimiterRules

set_option autoImplicit false

universe u

variable {Symbol : Type u} [DecidableEq Symbol] (mark separator pad : Symbol)

def escape (text : List Symbol) : List Symbol :=
  text.flatMap fun symbol => if symbol = separator then [mark, separator] else [symbol]

def unescape : List Symbol → List Symbol
  | [] => []
  | [symbol] => [symbol]
  | first :: second :: rest =>
      if first = mark ∧ second = separator then separator :: unescape rest
      else first :: unescape (second :: rest)

def oddAfter (odd : Bool) (symbol : Symbol) : Bool := decide (symbol = mark) && !odd

/-- The cells of a text that follows an odd number of marks, or an even one. -/
def cells : Bool → List Symbol → List (List Symbol)
  | _, [] => [[]]
  | odd, symbol :: rest =>
      if symbol = separator ∧ odd = false then [] :: cells false rest
      else (cells (oddAfter mark odd symbol) rest).modifyHead (symbol :: ·)

def oddMarks (odd : Bool) (text : List Symbol) : Bool := text.foldl (oddAfter mark) odd

/-- The number of separators after an odd number of marks. -/
def exposed : Bool → List Symbol → Nat
  | _, [] => 0
  | odd, symbol :: rest =>
      (if symbol = separator ∧ odd = true then 1 else 0) + exposed (oddAfter mark odd symbol) rest

def Unexposed (text : List Symbol) : Prop :=
  ∀ before after, text = before ++ separator :: after →
    (before.reverse.takeWhile (· = mark)).length % 2 = 0

def paddedCell (text : List Symbol) : List Symbol :=
  separator :: pad :: escape mark separator text ++ [pad]

def row (texts : List (List Symbol)) : List Symbol :=
  texts.flatMap (paddedCell mark separator pad) ++ [separator]

def unpadStart : List Symbol → List Symbol
  | [] => []
  | symbol :: rest => if symbol = pad then rest else symbol :: rest

def unpad (text : List Symbol) : List Symbol :=
  (unpadStart pad (unpadStart pad text).reverse).reverse

def rowCells (text : List Symbol) : List (List Symbol) :=
  (cells mark separator false text).tail.dropLast.map (unpad pad)

variable {mark separator pad}

theorem escape_cons
    (symbol : Symbol)
    (rest : List Symbol) :
    escape mark separator (symbol :: rest) =
      (if symbol = separator then [mark, separator] else [symbol]) ++ escape mark separator rest :=
  List.flatMap_cons

theorem unescape_cons
    (symbol : Symbol)
    (rest : List Symbol)
    (apart : rest.head? ≠ some separator) :
    unescape mark separator (symbol :: rest) = symbol :: unescape mark separator rest := by
  cases rest with
  | nil => rfl
  | cons next rest =>
      have other : ¬ (symbol = mark ∧ next = separator) := fun both => apart (congrArg some both.2)
      rw [unescape, if_neg other]

theorem escape_head
    (marks : mark ≠ separator)
    (text : List Symbol) : (escape mark separator text).head? ≠ some separator := by
  cases text with
  | nil => exact nofun
  | cons symbol rest =>
      rw [escape_cons]
      split_ifs with isSeparator
      · exact fun same => marks (Option.some.inj same)
      · exact fun same => isSeparator (Option.some.inj same)

theorem unescape_escape
    (marks : mark ≠ separator)
    (text : List Symbol) : unescape mark separator (escape mark separator text) = text := by
  induction text with
  | nil => rfl
  | cons symbol rest ih =>
      rw [escape_cons]
      split_ifs with isSeparator
      · rw [isSeparator, List.cons_append, List.singleton_append, unescape, if_pos ⟨rfl, rfl⟩, ih]
      · rw [List.singleton_append, unescape_cons symbol _ (escape_head marks rest), ih]

theorem count_escape
    (marks : mark ≠ separator)
    (text : List Symbol) :
    (escape mark separator text).count separator = text.count separator := by
  induction text with
  | nil => rfl
  | cons symbol rest ih =>
      rw [escape_cons, List.count_append, ih, List.count_cons]
      split_ifs with isSeparator test test
      · rw [List.count_cons_of_ne marks, List.count_singleton_self, Nat.add_comm]
      · exact absurd (beq_iff_eq.mpr isSeparator) test
      · exact absurd (beq_iff_eq.mp test) isSeparator
      · simp [isSeparator]

theorem count_unescape
    (marks : mark ≠ separator)
    (text : List Symbol) :
    (unescape mark separator text).count separator = text.count separator := by
  induction text using unescape.induct mark separator with
  | case1 => rfl
  | case2 symbol => rfl
  | case3 first second rest both ih =>
      rw [unescape, if_pos both, both.1, both.2, List.count_cons_self, ih,
        List.count_cons_of_ne marks, List.count_cons_self]
  | case4 first second rest other ih =>
      rw [unescape, if_neg other, List.count_cons, ih, ← List.count_cons]

theorem cells_ne_nil
    (odd : Bool)
    (text : List Symbol) : cells mark separator odd text ≠ [] := by
  induction text generalizing odd with
  | nil => exact List.cons_ne_nil _ _
  | cons symbol rest ih =>
      rw [cells]
      split_ifs
      · exact List.cons_ne_nil _ _
      · exact fun empty => ih _ (List.modifyHead_eq_nil_iff.mp empty)

theorem count_cells
    (odd : Bool)
    (text : List Symbol) :
    ((cells mark separator odd text).map (List.count separator)).sum +
        (cells mark separator odd text).length = text.count separator + 1 := by
  induction text generalizing odd with
  | nil => rfl
  | cons symbol rest ih =>
      rw [cells, List.count_cons]
      split_ifs with ends test test
      · have own := ih false
        simp only [List.map_cons, List.count_nil, List.sum_cons, List.length_cons]
        omega
      · exact absurd (beq_iff_eq.mpr ends.1) test
      all_goals
        have own := ih (oddAfter mark odd symbol)
        cases split : cells mark separator (oddAfter mark odd symbol) rest with
        | nil => exact absurd split (cells_ne_nil _ rest)
        | cons first others =>
            rw [split] at own
            simp only [List.modifyHead_cons, List.map_cons, List.count_cons, test, List.sum_cons,
              List.length_cons, if_true, if_false, Bool.false_eq_true] at own ⊢
            omega

theorem odd_after_separator
    (marks : mark ≠ separator)
    (odd : Bool) : oddAfter mark odd separator = false := by
  rw [oddAfter, decide_eq_false (fun same => marks same.symm), Bool.false_and]

/-- Each separator after an odd number of marks ends a cell that it should not end. -/
theorem cells_marked_length
    (marks : mark ≠ separator)
    (odd : Bool)
    (text following : List Symbol) :
    (cells mark separator odd (escape mark separator text ++ following)).length =
      exposed mark separator odd text +
        (cells mark separator (oddMarks mark odd text) following).length := by
  induction text generalizing odd with
  | nil => exact (Nat.zero_add _).symm
  | cons symbol rest ih =>
      rw [escape_cons, exposed, oddMarks, List.foldl_cons, ← oddMarks]
      by_cases isSeparator : symbol = separator
      · rw [isSeparator, if_pos rfl, odd_after_separator marks, Nat.add_assoc, ← ih false]
        simp only [List.cons_append, List.nil_append, cells, marks, false_and, if_false,
          List.length_modifyHead, true_and]
        cases odd with
        | true =>
            simp only [oddAfter, decide_true, Bool.not_true, Bool.and_false, if_true,
              List.length_cons]
            omega
        | false =>
            simp only [oddAfter, decide_true, Bool.not_false, Bool.and_true, Bool.true_eq_false,
              Bool.false_eq_true, if_false, List.length_modifyHead, Nat.zero_add, marks.symm,
              decide_false, Bool.false_and]
      · rw [if_neg isSeparator, if_neg (fun both => isSeparator both.1), Nat.zero_add, ← ih,
          List.singleton_append, List.cons_append, cells, if_neg (fun both => isSeparator both.1),
          List.length_modifyHead]

theorem cells_unexposed
    (marks : mark ≠ separator)
    (odd : Bool)
    (text following : List Symbol)
    (none : exposed mark separator odd text = 0) :
    cells mark separator odd (escape mark separator text ++ following) =
      (cells mark separator (oddMarks mark odd text) following).modifyHead
        (escape mark separator text ++ ·) := by
  induction text generalizing odd with
  | nil => exact (congrFun List.modifyHead_id _).symm
  | cons symbol rest ih =>
      rw [exposed, Nat.add_eq_zero_iff] at none
      have later := ih _ none.2
      rw [escape_cons, oddMarks, List.foldl_cons, ← oddMarks]
      by_cases isSeparator : symbol = separator
      · have even : odd = false := by
          by_contra isOdd
          simp [isSeparator, isOdd] at none
        rw [isSeparator, odd_after_separator marks] at later
        rw [isSeparator, if_pos rfl, odd_after_separator marks, even]
        simp only [List.cons_append, List.nil_append, cells, marks, false_and, if_false, true_and,
          oddAfter, decide_true, Bool.not_false, Bool.and_true, Bool.true_eq_false, marks.symm,
          decide_false, Bool.false_and, later, List.modifyHead_modifyHead]
        rfl
      · rw [if_neg isSeparator, List.singleton_append, List.cons_append, cells,
          if_neg (fun both => isSeparator both.1), later, List.modifyHead_modifyHead]
        rfl

theorem odd_marks_snoc
    (odd : Bool)
    (text : List Symbol)
    (symbol : Symbol) :
    oddMarks mark odd (text ++ [symbol]) = oddAfter mark (oddMarks mark odd text) symbol := by
  rw [oddMarks, List.foldl_append, List.foldl_cons, List.foldl_nil, ← oddMarks]

theorem odd_marks_iff (text : List Symbol) :
    oddMarks mark false text = true ↔ (text.reverse.takeWhile (· = mark)).length % 2 = 1 := by
  induction text using List.reverseRecOn with
  | nil => exact iff_of_false Bool.false_ne_true Nat.zero_ne_one
  | append_singleton text symbol ih =>
      rw [odd_marks_snoc, List.reverse_append, List.reverse_singleton, List.singleton_append,
        List.takeWhile_cons, oddAfter]
      by_cases isMark : symbol = mark
      · simp only [isMark, decide_true, if_true, List.length_cons, Bool.true_and,
          Bool.not_eq_true', ← Bool.not_eq_true, ih]
        omega
      · simp [isMark]

theorem exposed_eq_zero
    (odd : Bool)
    (text : List Symbol) :
    exposed mark separator odd text = 0 ↔
      ∀ before after, text = before ++ separator :: after → oddMarks mark odd before = false := by
  induction text generalizing odd with
  | nil => exact iff_of_true rfl fun before after same => by simp at same
  | cons symbol rest ih =>
      rw [exposed, Nat.add_eq_zero_iff, ih]
      constructor
      · rintro ⟨own, later⟩ before after same
        cases before with
        | nil =>
            rw [List.nil_append, List.cons.injEq] at same
            rw [oddMarks, List.foldl_nil, ← Bool.not_eq_true]
            exact fun isOdd => absurd own (by rw [if_pos ⟨same.1, isOdd⟩]; exact Nat.one_ne_zero)
        | cons first before =>
            rw [List.cons_append, List.cons.injEq] at same
            rw [oddMarks, List.foldl_cons, ← same.1]
            exact later before after same.2
      · intro all
        constructor
        · apply if_neg
          rintro ⟨rfl, isOdd⟩
          exact Bool.noConfusion ((all [] rest rfl).symm.trans isOdd)
        · intro before after same
          exact all (symbol :: before) after (by rw [same, List.cons_append])

theorem unexposed_iff (text : List Symbol) :
    Unexposed mark separator text ↔ exposed mark separator false text = 0 := by
  rw [exposed_eq_zero]
  unfold Unexposed
  simp only [← Bool.not_eq_true, odd_marks_iff, Nat.mod_two_not_eq_one]

theorem exposed_map
    (change : Symbol → Symbol)
    (keepsMark : ∀ symbol, change symbol = mark ↔ symbol = mark)
    (keepsSeparator : ∀ symbol, change symbol = separator ↔ symbol = separator)
    (odd : Bool)
    (text : List Symbol) :
    exposed mark separator odd (text.map change) = exposed mark separator odd text := by
  induction text generalizing odd with
  | nil => rfl
  | cons symbol rest ih =>
      have same : oddAfter mark odd (change symbol) = oddAfter mark odd symbol := by
        simp only [oddAfter, keepsMark]
      simp only [List.map_cons, exposed, keepsSeparator, same, ih]

section Rows

variable (marks : mark ≠ separator) (padded : pad ≠ separator ∧ pad ≠ mark)

include padded

theorem cells_pad
    (odd : Bool)
    (text : List Symbol) :
    cells mark separator odd (pad :: text) =
      (cells mark separator false text).modifyHead (pad :: ·) := by
  rw [cells, if_neg (fun both => padded.1 both.1), oddAfter, decide_eq_false padded.2,
    Bool.false_and]

include marks

theorem row_length (texts : List (List Symbol)) :
    (cells mark separator false (row mark separator pad texts)).length =
      texts.length + 2 + (texts.map (exposed mark separator false)).sum := by
  induction texts with
  | nil => simp [row, cells]
  | cons text texts ih =>
      have split : row mark separator pad (text :: texts) = separator :: pad ::
          (escape mark separator text ++ (pad :: row mark separator pad texts)) := by
        simp [row, paddedCell]
      rw [split, cells, if_pos ⟨rfl, rfl⟩, List.length_cons, cells_pad padded,
        List.length_modifyHead, cells_marked_length marks, cells_pad padded,
        List.length_modifyHead, ih, List.length_cons, List.map_cons, List.sum_cons]
      omega

theorem row_cells
    (texts : List (List Symbol))
    (none : ∀ text ∈ texts, exposed mark separator false text = 0) :
    cells mark separator false (row mark separator pad texts) =
      [] :: (texts.map fun text => pad :: escape mark separator text ++ [pad]) ++ [[]] := by
  induction texts with
  | nil => simp [row, cells]
  | cons text texts ih =>
      rw [List.forall_mem_cons] at none
      have split : row mark separator pad (text :: texts) = separator :: pad ::
          (escape mark separator text ++ (pad :: row mark separator pad texts)) := by
        simp [row, paddedCell]
      rw [split, cells, if_pos ⟨rfl, rfl⟩, cells_pad padded,
        cells_unexposed marks false text _ none.1, cells_pad padded, ih none.2]
      simp

omit marks padded in
theorem mem_row
    (texts : List (List Symbol))
    (symbol : Symbol)
    (member : symbol ∈ row mark separator pad texts) :
    symbol = mark ∨ symbol = separator ∨ symbol = pad ∨ ∃ text ∈ texts, symbol ∈ text := by
  rw [row, List.mem_append, List.mem_flatMap, List.mem_singleton] at member
  rcases member with ⟨text, listed, inCell⟩ | atEnd
  · simp only [paddedCell, List.mem_append, List.mem_cons, escape, List.mem_flatMap,
      List.not_mem_nil, or_false] at inCell
    rcases inCell with (isSeparator | isPad | ⟨own, inText, written⟩) | isPad
    · exact Or.inr (Or.inl isSeparator)
    · exact Or.inr (Or.inr (Or.inl isPad))
    · split_ifs at written with isSeparator
      · rcases List.mem_pair.mp written with isMark | same
        · exact Or.inl isMark
        · exact Or.inr (Or.inl same)
      · rw [List.mem_singleton.mp written]
        exact Or.inr (Or.inr (Or.inr ⟨text, listed, inText⟩))
    · exact Or.inr (Or.inr (Or.inl isPad))
  · exact Or.inr (Or.inl atEnd)

theorem row_cells_length (texts : List (List Symbol)) :
    (rowCells mark separator pad (row mark separator pad texts)).length =
      texts.length + (texts.map (exposed mark separator false)).sum := by
  rw [rowCells, List.length_map, List.length_dropLast, List.length_tail, row_length marks padded]
  omega

omit marks padded in
theorem unpad_padded
    (text : List Symbol) : unpad pad (pad :: text ++ [pad]) = text := by
  simp [unpad, unpadStart]

omit marks padded in
theorem count_unpad
    (text : List Symbol) : (unpad pad text).count separator ≤ text.count separator := by
  have start (text : List Symbol) : (unpadStart pad text).Sublist text := by
    cases text with
    | nil => exact List.Sublist.refl _
    | cons symbol rest =>
        rw [unpadStart]
        split_ifs
        · exact List.sublist_cons_self symbol rest
        · exact List.Sublist.refl _
  apply List.Sublist.count_le
  rw [unpad, ← List.reverse_sublist, List.reverse_reverse]
  exact (start _).trans (List.reverse_sublist.mpr (start text))

theorem count_row (texts : List (List Symbol)) :
    (row mark separator pad texts).count separator =
      (texts.map (List.count separator)).sum + texts.length + 1 := by
  induction texts with
  | nil => simp [row]
  | cons text texts ih =>
      have split : row mark separator pad (text :: texts) = separator :: pad ::
          (escape mark separator text ++ (pad :: row mark separator pad texts)) := by
        simp [row, paddedCell]
      rw [split, List.count_cons_self, List.count_cons_of_ne padded.1, List.count_append,
        count_escape marks, List.count_cons_of_ne padded.1, ih, List.map_cons, List.sum_cons,
        List.length_cons]
      omega

omit padded in
theorem sum_count_unpad (parts : List (List Symbol)) :
    ((parts.tail.dropLast.map (unescape mark separator ∘ unpad pad)).map
        (List.count separator)).sum ≤ (parts.map (List.count separator)).sum := by
  rw [List.map_map]
  calc (parts.tail.dropLast.map (List.count separator ∘ unescape mark separator ∘ unpad pad)).sum
      ≤ (parts.tail.dropLast.map (List.count separator)).sum := by
        apply List.sum_le_sum
        intro text _
        rw [Function.comp_apply, Function.comp_apply, count_unescape marks]
        exact count_unpad text
    _ ≤ (parts.map (List.count separator)).sum := by
        apply List.Sublist.sum_le_sum
        · exact ((List.dropLast_sublist _).trans (List.tail_sublist _)).map _
        · exact fun _ _ => Nat.zero_le _

/-- The texts of a row are read back from its first cells exactly if none of
them has an exposed separator: otherwise the cells have fewer separators than
the texts. -/
theorem row_reads_back_iff (texts : List (List Symbol)) :
    texts <+: (rowCells mark separator pad (row mark separator pad texts)).map
        (unescape mark separator) ↔
      ∀ text ∈ texts, exposed mark separator false text = 0 := by
  constructor
  · rintro ⟨more, same⟩
    rw [rowCells, List.map_map] at same
    have read := congrArg (fun texts => (texts.map (List.count separator)).sum) same
    rw [List.map_append, List.sum_append] at read
    have atMost : (((cells mark separator false (row mark separator pad texts)).tail.dropLast.map
        (unescape mark separator ∘ unpad pad)).map (List.count separator)).sum ≤
        ((cells mark separator false (row mark separator pad texts)).map
          (List.count separator)).sum := sum_count_unpad marks _
    have all : ((cells mark separator false (row mark separator pad texts)).map
        (List.count separator)).sum +
          (cells mark separator false (row mark separator pad texts)).length =
        (row mark separator pad texts).count separator + 1 := count_cells false _
    rw [row_length marks padded, count_row marks padded] at all
    have none : (texts.map (exposed mark separator false)).sum = 0 := by omega
    rw [List.sum_eq_zero_iff_forall_eq_nat, List.forall_mem_map] at none
    exact none
  · intro none
    rw [rowCells, row_cells marks padded texts none]
    simp only [List.cons_append, List.tail_cons, List.dropLast_concat, List.map_map]
    have back : texts.map (unescape mark separator ∘ unpad pad ∘
        fun text => pad :: (escape mark separator text ++ [pad])) = texts := by
      apply List.map_id''
      intro text
      have unpadded : unpad pad (pad :: escape mark separator text ++ [pad]) =
          escape mark separator text := unpad_padded _
      rw [Function.comp_apply, Function.comp_apply, ← List.cons_append, unpadded,
        unescape_escape marks]
    exact ⟨[], (List.append_nil texts).trans back.symm⟩

end Rows

end AtlasMindNetra.DelimiterRules
