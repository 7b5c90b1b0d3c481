import Mathlib.Data.List.Basic
import Mathlib.Tactic.SplitIfs

/-!
# Documents made of sections

A section begins at a heading and ends before the next one. A fenced block
hides the headings within it: it begins at a line that opens a fence, and ends
at the next line that closes one. Sections whose lines show no other heading
and that leave no block open are read back from the document they make.
-/

namespace AtlasMindNetra.SectionRules

set_option autoImplicit false

universe u

variable {Line : Type u} (heading opens closes : Line → Bool)

def fencedAfter (fenced : Bool) (line : Line) : Bool :=
  if fenced then !closes line else opens line

def sections : Bool → List Line → List Line × List (List Line)
  | _, [] => ([], [])
  | fenced, line :: rest =>
      let read := sections (fencedAfter opens closes fenced line) rest
      if !fenced && heading line then ([], (line :: read.1) :: read.2)
      else (line :: read.1, read.2)

def fencedLines (lines : List Line) : List Line :=
  ((lines.dropWhile fun line => !opens line).drop 1).takeWhile fun line => !closes line

/-- The lines show no heading, and lead from a fence to the one after them. -/
def Runs : Bool → List Line → Bool → Prop
  | fenced, [], after => fenced = after
  | fenced, line :: rest, after =>
      (fenced = false → heading line = false) ∧
        Runs (fencedAfter opens closes fenced line) rest after

def IsSection (part : List Line) : Prop :=
  ∃ head body, part = head :: body ∧ heading head = true ∧ opens head = false ∧
    Runs heading opens closes false body false

def Plain (line : Line) : Prop := heading line = false ∧ opens line = false

variable {heading opens closes}

theorem runs_append
    (fenced after : Bool)
    (first second : List Line) :
    Runs heading opens closes fenced (first ++ second) after ↔
      ∃ between, Runs heading opens closes fenced first between ∧
        Runs heading opens closes between second after := by
  induction first generalizing fenced with
  | nil =>
      rw [List.nil_append]
      constructor
      · intro runs
        exact ⟨fenced, rfl, runs⟩
      · intro split
        obtain ⟨between, same, runs⟩ := split
        have here : fenced = between := same
        rw [here]
        exact runs
  | cons line rest ih =>
      rw [List.cons_append, Runs, ih]
      constructor
      · intro split
        obtain ⟨hidden, between, before, behind⟩ := split
        exact ⟨between, ⟨hidden, before⟩, behind⟩
      · intro split
        obtain ⟨between, ⟨hidden, before⟩, behind⟩ := split
        exact ⟨hidden, between, before, behind⟩

theorem plain_runs
    (lines : List Line)
    (plain : ∀ line ∈ lines, Plain heading opens line) :
    Runs heading opens closes false lines false := by
  induction lines with
  | nil => rfl
  | cons line rest ih =>
      rw [List.forall_mem_cons] at plain
      have outside : fencedAfter opens closes false line = false := plain.1.2
      rw [Runs, outside]
      exact ⟨fun _ => plain.1.1, ih plain.2⟩

theorem inner_runs
    (lines : List Line)
    (inner : ∀ line ∈ lines, closes line = false) :
    Runs heading opens closes true lines true := by
  induction lines with
  | nil => rfl
  | cons line rest ih =>
      rw [List.forall_mem_cons] at inner
      have inside : fencedAfter opens closes true line = true := by
        rw [fencedAfter, if_pos rfl, inner.1, Bool.not_false]
      rw [Runs, inside]
      exact ⟨fun outside => absurd outside (by decide), ih inner.2⟩

theorem block_runs
    (first last : Line)
    (lines : List Line)
    (hidden : heading first = false)
    (opened : opens first = true)
    (inner : ∀ line ∈ lines, closes line = false)
    (closed : closes last = true) :
    Runs heading opens closes false (first :: (lines ++ [last])) false := by
  have inside : fencedAfter opens closes false first = true := opened
  have outside : fencedAfter opens closes true last = false := by
    rw [fencedAfter, if_pos rfl, closed, Bool.not_true]
  rw [Runs, inside, runs_append]
  refine ⟨fun _ => hidden, true, inner_runs lines inner, ?_⟩
  rw [Runs, outside]
  exact ⟨fun shown => absurd shown (by decide), rfl⟩

theorem sections_runs
    (fenced after : Bool)
    (lines rest : List Line)
    (runs : Runs heading opens closes fenced lines after) :
    sections heading opens closes fenced (lines ++ rest) =
      (lines ++ (sections heading opens closes after rest).1,
        (sections heading opens closes after rest).2) := by
  induction lines generalizing fenced with
  | nil =>
      have here : fenced = after := runs
      rw [here, List.nil_append, List.nil_append]
  | cons line others ih =>
      rw [Runs] at runs
      have shown : (!fenced && heading line) = false := by
        cases fenced with
        | false => exact runs.1 rfl
        | true => rfl
      rw [List.cons_append, sections, ih _ runs.2, shown]
      rfl

theorem sections_cons
    (head : Line)
    (body rest : List Line)
    (isHeading : heading head = true)
    (unopened : opens head = false)
    (runs : Runs heading opens closes false body false) :
    sections heading opens closes false (head :: (body ++ rest)) =
      ([], (head :: (body ++ (sections heading opens closes false rest).1)) ::
        (sections heading opens closes false rest).2) := by
  have outside : fencedAfter opens closes false head = false := unopened
  rw [sections, outside, sections_runs false false body rest runs, isHeading]
  rfl

theorem sections_start
    (parts : List (List Line))
    (rest : List Line)
    (each : ∀ part ∈ parts, IsSection heading opens closes part)
    (next : (sections heading opens closes false rest).1 = []) :
    sections heading opens closes false (parts.flatten ++ rest) =
      ([], parts ++ (sections heading opens closes false rest).2) := by
  induction parts with
  | nil =>
      rw [List.flatten_nil, List.nil_append, List.nil_append, ← next]
  | cons part parts ih =>
      rw [List.forall_mem_cons] at each
      obtain ⟨⟨head, body, rfl, isHeading, unopened, runs⟩, others⟩ := each
      rw [List.flatten_cons, List.append_assoc, List.cons_append,
        sections_cons head body _ isHeading unopened runs, ih others, List.append_nil,
        List.cons_append]

theorem nothing_before_heading
    (head : Line)
    (rest : List Line)
    (isHeading : heading head = true) :
    (sections heading opens closes false (head :: rest)).1 = [] := by
  rw [sections, isHeading]
  rfl

theorem sections_members
    (fenced : Bool)
    (lines : List Line) :
    (∀ line ∈ (sections heading opens closes fenced lines).1, line ∈ lines) ∧
      ∀ part ∈ (sections heading opens closes fenced lines).2, ∀ line ∈ part, line ∈ lines := by
  induction lines generalizing fenced with
  | nil => exact ⟨List.forall_mem_nil _, List.forall_mem_nil _⟩
  | cons first rest ih =>
      obtain ⟨before, within⟩ := ih (fencedAfter opens closes fenced first)
      have own : ∀ line ∈ first :: (sections heading opens closes
          (fencedAfter opens closes fenced first) rest).1, line ∈ first :: rest := by
        intro line member
        rcases List.mem_cons.mp member with rfl | later
        · exact List.mem_cons_self
        · exact List.mem_cons_of_mem _ (before line later)
      have others : ∀ part ∈ (sections heading opens closes
          (fencedAfter opens closes fenced first) rest).2, ∀ line ∈ part,
          line ∈ first :: rest := by
        intro part listed line member
        exact List.mem_cons_of_mem _ (within part listed line member)
      rw [sections]
      split_ifs
      · exact ⟨List.forall_mem_nil _, List.forall_mem_cons.mpr ⟨own, others⟩⟩
      · exact ⟨own, others⟩

theorem first_closing
    (lines : List Line) :
    (∀ line ∈ lines, closes line = false) ∨ ∃ inner last more,
      lines = inner ++ last :: more ∧ (∀ line ∈ inner, closes line = false) ∧
        closes last = true := by
  induction lines with
  | nil => exact Or.inl (List.forall_mem_nil _)
  | cons first rest ih =>
      cases closed : closes first with
      | true => exact Or.inr ⟨[], first, rest, rfl, List.forall_mem_nil _, closed⟩
      | false =>
          rcases ih with none | ⟨inner, last, more, split, kept, found⟩
          · exact Or.inl (List.forall_mem_cons.mpr ⟨closed, none⟩)
          · refine Or.inr ⟨first :: inner, last, more, ?_, ?_, found⟩
            · rw [split, List.cons_append]
            · exact List.forall_mem_cons.mpr ⟨closed, kept⟩

theorem unclosed_hides
    (lines : List Line)
    (unclosed : ∀ line ∈ lines, closes line = false) :
    sections heading opens closes true lines = (lines, []) := by
  have inner : Runs heading opens closes true lines true := inner_runs lines unclosed
  have read := sections_runs true true lines [] inner
  rw [List.append_nil] at read
  rw [read]
  simp only [sections, List.append_nil]

theorem unclosed_from
    (first : Line)
    (lines : List Line)
    (hidden : heading first = false)
    (opened : opens first = true)
    (unclosed : ∀ line ∈ lines, closes line = false) :
    sections heading opens closes false (first :: lines) = (first :: lines, []) := by
  have inside : fencedAfter opens closes false first = true := opened
  rw [sections, inside, unclosed_hides lines unclosed, hidden]
  rfl

theorem fenced_lines_block
    (before inner rest : List Line)
    (first last : Line)
    (unopened : ∀ line ∈ before, opens line = false)
    (opened : opens first = true)
    (kept : ∀ line ∈ inner, closes line = false)
    (closed : closes last = true) :
    fencedLines opens closes (before ++ first :: (inner ++ last :: rest)) = inner := by
  have start : (before ++ first :: (inner ++ last :: rest)).dropWhile (fun line => !opens line) =
      first :: (inner ++ last :: rest) := by
    rw [List.dropWhile_append_of_pos, List.dropWhile_cons_of_neg]
    · rw [opened, Bool.not_true]
      exact Bool.false_ne_true
    · intro line member
      rw [unopened line member, Bool.not_false]
  rw [fencedLines, start, List.drop_one, List.tail_cons, List.takeWhile_append_of_pos,
    List.takeWhile_cons_of_neg, List.append_nil]
  · rw [closed, Bool.not_true]
    exact Bool.false_ne_true
  · intro line member
    rw [kept line member, Bool.not_false]

end AtlasMindNetra.SectionRules
