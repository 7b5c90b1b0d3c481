import Mathlib.Data.List.Forall2
import Mathlib.Tactic.SplitIfs

/-!
# Patterns with backtracking

The ways in which a pattern matches at a position of a text come in the order
in which backtracking tries them, and the first one is taken. What the pattern
fits, whichever way is tried first, is a relation between a part of a text and
what stands around it; it has exactly the fits as its ways. A scan takes the
matches from left to right and goes on behind each of them. It finds all fits
if no fit starts within another one and none starts where another one does.
-/

namespace AtlasMindNetra.PatternRules

set_option autoImplicit false

universe u

inductive Pattern (Symbol : Type u) where
  | empty
  | symbol (accepts : Symbol → Bool)
  | many (accepts : Symbol → Bool)
  | boundary (isWord : Symbol → Bool)
  | seq (first second : Pattern Symbol)
  | either (first second : Pattern Symbol)

/-- A text cut in two. -/
structure Position (Symbol : Type u) where
  before : List Symbol
  after : List Symbol

variable {Symbol : Type u}

namespace Pattern

def optional (pattern : Pattern Symbol) : Pattern Symbol := either pattern empty

def oneOrMore (accepts : Symbol → Bool) : Pattern Symbol := seq (symbol accepts) (many accepts)

def literal (accepted : List (Symbol → Bool)) : Pattern Symbol :=
  accepted.foldr (fun accepts rest => seq (symbol accepts) rest) empty

def delimited (isWord : Symbol → Bool) (pattern : Pattern Symbol) : Pattern Symbol :=
  seq (boundary isWord) (seq pattern (boundary isWord))

end Pattern

/-- Whether a word symbol stands on one side only. -/
def atBoundary (isWord : Symbol → Bool) (before after : List Symbol) : Bool :=
  before.getLast?.any isWord != after.head?.any isWord

def manyWays (accepts : Symbol → Bool) (before : List Symbol) : List Symbol → List (Position Symbol)
  | [] => [⟨before, []⟩]
  | symbol :: rest =>
      if accepts symbol then
        manyWays accepts (before ++ [symbol]) rest ++ [⟨before, symbol :: rest⟩]
      else [⟨before, symbol :: rest⟩]

/-- The positions where a match from the given position on may end. -/
def ways : Pattern Symbol → Position Symbol → List (Position Symbol)
  | .empty, position => [position]
  | .symbol accepts, ⟨before, after⟩ =>
      match after with
      | [] => []
      | symbol :: rest => if accepts symbol then [⟨before ++ [symbol], rest⟩] else []
  | .many accepts, ⟨before, after⟩ => manyWays accepts before after
  | .boundary isWord, position =>
      if atBoundary isWord position.before position.after then [position] else []
  | .seq first second, position => (ways first position).flatMap (ways second)
  | .either first second, position => ways first position ++ ways second position

def Fits : Pattern Symbol → List Symbol → List Symbol → List Symbol → Prop
  | .empty, _, text, _ => text = []
  | .symbol accepts, _, text, _ => ∃ symbol, text = [symbol] ∧ accepts symbol = true
  | .many accepts, _, text, _ => ∀ symbol ∈ text, accepts symbol = true
  | .boundary isWord, before, text, after => text = [] ∧ atBoundary isWord before after = true
  | .seq first second, before, text, after =>
      ∃ start stop, text = start ++ stop ∧ Fits first before start (stop ++ after) ∧
        Fits second (before ++ start) stop after
  | .either first second, before, text, after =>
      Fits first before text after ∨ Fits second before text after

theorem position_stays_iff
    (start stop : Position Symbol) :
    stop = start ↔ ∃ text, stop.before = start.before ++ text ∧
      start.after = text ++ stop.after ∧ text = [] := by
  rcases start with ⟨before, after⟩
  rcases stop with ⟨stopBefore, stopAfter⟩
  simp only [Position.mk.injEq, exists_eq_right_right, List.append_nil, List.nil_append]
  constructor
  · rintro ⟨rfl, rfl⟩
    exact ⟨rfl, rfl⟩
  · rintro ⟨rfl, rfl⟩
    exact ⟨rfl, rfl⟩

theorem many_stays
    (accepts : Symbol → Bool)
    (start stop : Position Symbol)
    (same : stop = start) :
    ∃ text, stop.before = start.before ++ text ∧ start.after = text ++ stop.after ∧
      ∀ symbol ∈ text, accepts symbol = true := by
  rw [same]
  exact ⟨[], (List.append_nil _).symm, rfl, nofun⟩

theorem mem_many_ways
    (accepts : Symbol → Bool)
    (before after : List Symbol)
    (stop : Position Symbol) :
    stop ∈ manyWays accepts before after ↔ ∃ text, stop.before = before ++ text ∧
      after = text ++ stop.after ∧ ∀ symbol ∈ text, accepts symbol = true := by
  induction after generalizing before with
  | nil =>
      rw [manyWays, List.mem_singleton]
      constructor
      · exact many_stays accepts ⟨before, []⟩ stop
      · rintro ⟨text, reached, rest, -⟩
        rcases List.append_eq_nil_iff.mp rest.symm with ⟨rfl, none⟩
        exact (position_stays_iff _ _).mpr ⟨[], reached, rest, rfl⟩
  | cons symbol rest ih =>
      rw [manyWays]
      split_ifs with accepted
      · rw [List.mem_append, List.mem_singleton, ih (before ++ [symbol])]
        constructor
        · rintro (⟨text, reached, rest, all⟩ | same)
          · refine ⟨symbol :: text, ?_, ?_, ?_⟩
            · rw [reached, List.append_assoc, List.singleton_append]
            · rw [rest, List.cons_append]
            · exact List.forall_mem_cons.mpr ⟨accepted, all⟩
          · exact many_stays accepts _ stop same
        · rintro ⟨text, reached, split, all⟩
          cases text with
          | nil => exact Or.inr ((position_stays_iff _ _).mpr ⟨[], reached, split, rfl⟩)
          | cons first text =>
              rw [List.cons_append, List.cons.injEq] at split
              rcases split with ⟨rfl, split⟩
              refine Or.inl ⟨text, ?_, split, (List.forall_mem_cons.mp all).2⟩
              rw [reached, List.append_assoc, List.singleton_append]
      · rw [List.mem_singleton]
        constructor
        · exact many_stays accepts _ stop
        · rintro ⟨text, reached, split, all⟩
          cases text with
          | nil => exact (position_stays_iff _ _).mpr ⟨[], reached, split, rfl⟩
          | cons first text =>
              rw [List.cons_append, List.cons.injEq] at split
              rw [split.1] at accepted
              exact absurd (all first List.mem_cons_self) accepted

theorem mem_ways
    (pattern : Pattern Symbol)
    (start stop : Position Symbol) :
    stop ∈ ways pattern start ↔ ∃ text, stop.before = start.before ++ text ∧
      start.after = text ++ stop.after ∧ Fits pattern start.before text stop.after := by
  induction pattern generalizing start stop with
  | empty =>
      rw [ways, List.mem_singleton]
      exact position_stays_iff start stop
  | symbol accepts =>
      rcases start with ⟨before, after⟩
      rcases stop with ⟨stopBefore, stopAfter⟩
      cases after with
      | nil => simp [ways, Fits]
      | cons symbol rest =>
          simp only [ways, Fits]
          constructor
          · intro reached
            split_ifs at reached with accepted
            · cases List.mem_singleton.mp reached
              exact ⟨[symbol], rfl, rfl, symbol, rfl, accepted⟩
            · cases reached
          · rintro ⟨text, rfl, split, other, rfl, accepted⟩
            rw [List.singleton_append, List.cons.injEq] at split
            rcases split with ⟨rfl, rfl⟩
            rw [if_pos accepted]
            exact List.mem_singleton.mpr rfl
  | many accepts => exact mem_many_ways accepts _ _ _
  | boundary isWord =>
      rw [ways]
      simp only [Fits]
      split_ifs with holds
      · rw [List.mem_singleton, position_stays_iff]
        constructor
        · rintro ⟨text, reached, split, rfl⟩
          refine ⟨[], reached, split, rfl, ?_⟩
          rw [← List.nil_append stop.after, ← split]
          exact holds
        · rintro ⟨text, reached, split, none, -⟩
          exact ⟨text, reached, split, none⟩
      · constructor
        · exact nofun
        · rintro ⟨text, reached, split, rfl, atStop⟩
          rw [split, List.nil_append] at holds
          exact absurd atStop holds
  | seq first second firstIh secondIh =>
      rw [ways, List.mem_flatMap]
      simp only [firstIh, secondIh, Fits]
      constructor
      · rintro ⟨middle, ⟨text, reached, split, fits⟩, later, ended, rest, fitsLater⟩
        refine ⟨text ++ later, ?_, ?_, text, later, rfl, ?_, ?_⟩
        · rw [ended, reached, List.append_assoc]
        · rw [split, rest, List.append_assoc]
        · rw [← rest]
          exact fits
        · rw [← reached]
          exact fitsLater
      · rintro ⟨text, reached, split, begun, later, rfl, fits, fitsLater⟩
        refine ⟨⟨start.before ++ begun, later ++ stop.after⟩, ⟨begun, rfl, ?_, fits⟩,
          later, ?_, rfl, fitsLater⟩
        · rw [split, List.append_assoc]
        · rw [reached, List.append_assoc]
  | either first second firstIh secondIh =>
      rw [ways, List.mem_append, firstIh, secondIh, ← exists_or]
      simp only [Fits, ← and_or_left]

theorem fits_literal_iff
    (accepted : List (Symbol → Bool))
    (before text after : List Symbol) :
    Fits (.literal accepted) before text after ↔
      List.Forall₂ (fun accepts symbol => accepts symbol = true) accepted text := by
  induction accepted generalizing before text with
  | nil => exact List.forall₂_nil_left_iff.symm
  | cons accepts rest ih =>
      rw [List.forall₂_cons_left_iff]
      constructor
      · rintro ⟨_, stop, rfl, ⟨symbol, rfl, isAccepted⟩, fits⟩
        exact ⟨symbol, stop, isAccepted, (ih _ _).mp fits, rfl⟩
      · rintro ⟨symbol, stop, isAccepted, fits, rfl⟩
        exact ⟨[symbol], stop, rfl, ⟨symbol, rfl, isAccepted⟩, (ih _ _).mpr fits⟩

theorem fits_delimited_iff
    (isWord : Symbol → Bool)
    (pattern : Pattern Symbol)
    (before text after : List Symbol) :
    Fits (.delimited isWord pattern) before text after ↔
      Fits pattern before text after ∧ atBoundary isWord before (text ++ after) = true ∧
        atBoundary isWord (before ++ text) after = true := by
  simp only [Pattern.delimited, Fits]
  constructor
  · rintro ⟨_, _, rfl, ⟨rfl, ahead⟩, key, _, rfl, fits, rfl, behind⟩
    simp only [List.append_nil, List.nil_append] at *
    exact ⟨fits, ahead, behind⟩
  · rintro ⟨fits, ahead, behind⟩
    refine ⟨[], text, rfl, ⟨rfl, ahead⟩, text, [], (List.append_nil _).symm, ?_, rfl, ?_⟩
    · rw [List.append_nil, List.nil_append]
      exact fits
    · rw [List.append_nil]
      exact behind

theorem run_determined
    (accepts : Symbol → Bool)
    (run other rest otherRest : List Symbol)
    (same : run ++ rest = other ++ otherRest)
    (accepted : ∀ symbol ∈ run, accepts symbol = true)
    (otherAccepted : ∀ symbol ∈ other, accepts symbol = true)
    (stops : rest.head?.any accepts = false)
    (otherStops : otherRest.head?.any accepts = false) : run = other := by
  have taken (run rest : List Symbol) (accepted : ∀ symbol ∈ run, accepts symbol = true)
      (stops : rest.head?.any accepts = false) : (run ++ rest).takeWhile accepts = run := by
    rw [List.takeWhile_append_of_pos accepted]
    cases rest with
    | nil => exact List.append_nil run
    | cons symbol rest =>
        have refused : ¬ accepts symbol = true := Bool.eq_false_iff.mp stops
        rw [List.takeWhile_cons_of_neg refused, List.append_nil]
  rw [← taken run rest accepted stops, same, taken other otherRest otherAccepted otherStops]

theorem boundary_before_word
    (isWord : Symbol → Bool)
    (before after : List Symbol)
    (starts : after.head?.any isWord = true) :
    atBoundary isWord before after = true ↔ before.getLast?.any isWord = false := by
  rw [atBoundary, starts, bne_iff_ne, ne_eq, Bool.not_eq_true]

theorem boundary_after_word
    (isWord : Symbol → Bool)
    (before after : List Symbol)
    (ends : before.getLast?.any isWord = true) :
    atBoundary isWord before after = true ↔ after.head?.any isWord = false := by
  rw [atBoundary, ends, bne_iff_ne, ne_eq, eq_comm, Bool.not_eq_true]

theorem boundary_in_context
    (isWord : Symbol → Bool)
    (added before after following : List Symbol)
    (ahead : added.getLast?.any isWord = false)
    (behind : following.head?.any isWord = false) :
    atBoundary isWord (added ++ before) (after ++ following) = atBoundary isWord before after := by
  have left : (added ++ before).getLast?.any isWord = before.getLast?.any isWord := by
    cases last : before.getLast? with
    | none => rw [List.getLast?_append, last, Option.none_or, ahead, Option.any_none]
    | some symbol => rw [List.getLast?_append, last, Option.some_or]
  have right : (after ++ following).head?.any isWord = after.head?.any isWord := by
    cases after with
    | nil => exact behind
    | cons symbol rest => rfl
  rw [atBoundary, left, right, ← atBoundary]

def searchFrom (pattern : Pattern Symbol) (before : List Symbol) : List Symbol → Bool
  | [] => !(ways pattern ⟨before, []⟩).isEmpty
  | symbol :: rest =>
      !(ways pattern ⟨before, symbol :: rest⟩).isEmpty ||
        searchFrom pattern (before ++ [symbol]) rest

/-- A match, with what stands before it. -/
structure Occurrence (Symbol : Type u) where
  before : List Symbol
  text : List Symbol
  deriving DecidableEq

/-- The matches from left to right, each by the first way that the pattern has
there, after the number of symbols to skip. Matches are not empty. -/
def scanFrom (pattern : Pattern Symbol) : Nat → List Symbol → List Symbol → List (Occurrence Symbol)
  | _, _, [] => []
  | skipped + 1, before, symbol :: rest => scanFrom pattern skipped (before ++ [symbol]) rest
  | 0, before, symbol :: rest =>
      match (ways pattern ⟨before, symbol :: rest⟩).head? with
      | some stop =>
          let text := stop.before.drop before.length
          ⟨before, text⟩ :: scanFrom pattern (text.length - 1) (before ++ [symbol]) rest
      | none => scanFrom pattern 0 (before ++ [symbol]) rest

def scan (pattern : Pattern Symbol) (text : List Symbol) : List (Occurrence Symbol) :=
  scanFrom pattern 0 [] text

def Occurs (pattern : Pattern Symbol) (whole before text : List Symbol) : Prop :=
  ∃ after, whole = before ++ text ++ after ∧ Fits pattern before text after

/-- No fit in the text is empty, no two start at one place, and none starts
within another. -/
structure Apart (pattern : Pattern Symbol) (whole : List Symbol) : Prop where
  nonempty : ∀ before text, Occurs pattern whole before text → text ≠ []
  determined : ∀ before text other, Occurs pattern whole before text →
    Occurs pattern whole before other → text = other
  disjoint : ∀ before start symbol rest other,
    Occurs pattern whole before (start ++ symbol :: rest) →
    Occurs pattern whole (before ++ start) other → start = []

theorem first_way
    (pattern : Pattern Symbol)
    (whole before after : List Symbol)
    (split : whole = before ++ after) :
    ((ways pattern ⟨before, after⟩).head? = none ∧ ∀ text, ¬ Occurs pattern whole before text) ∨
      ∃ text stop, (ways pattern ⟨before, after⟩).head? = some stop ∧
        stop.before.drop before.length = text ∧ Occurs pattern whole before text := by
  cases head : (ways pattern ⟨before, after⟩).head? with
  | none =>
      refine Or.inl ⟨rfl, ?_⟩
      rintro text ⟨following, same, fits⟩
      have member := (mem_ways pattern ⟨before, after⟩ ⟨before ++ text, following⟩).mpr
        ⟨text, rfl, by rwa [split, List.append_assoc, List.append_cancel_left_eq] at same, fits⟩
      rw [List.head?_eq_none_iff.mp head] at member
      cases member
  | some stop =>
      have member : stop ∈ ways pattern ⟨before, after⟩ := List.mem_of_head? head
      rcases (mem_ways pattern _ stop).mp member with ⟨text, reached, rest, fits⟩
      refine Or.inr ⟨text, stop, rfl, ?_, stop.after, ?_, fits⟩
      · rw [reached, List.drop_left]
      · rw [split, List.append_assoc]
        exact congrArg (before ++ ·) rest

def Ahead (pattern : Pattern Symbol) (whole : List Symbol) (skipped : Nat) (before : List Symbol)
    (found : Occurrence Symbol) : Prop :=
  ∃ moved, found.before = before ++ moved ∧ skipped ≤ moved.length ∧
    Occurs pattern whole found.before found.text

theorem ahead_succ_iff
    (pattern : Pattern Symbol)
    (skipped : Nat)
    (before : List Symbol)
    (symbol : Symbol)
    (rest : List Symbol)
    (found : Occurrence Symbol) :
    Ahead pattern (before ++ symbol :: rest) (skipped + 1) before found ↔
      Ahead pattern (before ++ symbol :: rest) skipped (before ++ [symbol]) found := by
  constructor
  · rintro ⟨moved, reached, far, after, split, fits⟩
    cases moved with
    | nil => exact absurd far (Nat.not_succ_le_zero skipped)
    | cons first moved =>
        have same := split
        rw [reached, List.append_assoc, List.append_assoc, List.append_cancel_left_eq,
          List.cons_append, List.cons.injEq] at same
        refine ⟨moved, ?_, Nat.le_of_succ_le_succ far, after, split, fits⟩
        rw [reached, same.1, List.append_assoc, List.singleton_append]
  · rintro ⟨moved, reached, far, occurs⟩
    refine ⟨symbol :: moved, ?_, Nat.succ_le_succ far, occurs⟩
    rw [reached, List.append_assoc, List.singleton_append]

theorem ahead_zero_iff
    (pattern : Pattern Symbol)
    (whole before : List Symbol)
    (found : Occurrence Symbol) :
    Ahead pattern whole 0 before found ↔
      (found.before = before ∧ Occurs pattern whole before found.text) ∨
        Ahead pattern whole 1 before found := by
  constructor
  · rintro ⟨moved, reached, -, occurs⟩
    cases moved with
    | nil =>
        rw [List.append_nil] at reached
        exact Or.inl ⟨reached, reached ▸ occurs⟩
    | cons symbol moved =>
        exact Or.inr ⟨symbol :: moved, reached, Nat.succ_le_succ (Nat.zero_le _), occurs⟩
  · rintro (⟨reached, occurs⟩ | ⟨moved, reached, -, occurs⟩)
    · exact ⟨[], by rw [reached, List.append_nil], Nat.zero_le _, reached ▸ occurs⟩
    · exact ⟨moved, reached, Nat.zero_le _, occurs⟩

theorem ahead_of_fit
    (pattern : Pattern Symbol)
    (whole before text : List Symbol)
    (apart : Apart pattern whole)
    (occurs : Occurs pattern whole before text)
    (found : Occurrence Symbol) :
    Ahead pattern whole 0 before found ↔
      found = ⟨before, text⟩ ∨ Ahead pattern whole text.length before found := by
  constructor
  · rintro ⟨moved, reached, -, other⟩
    by_cases far : text.length ≤ moved.length
    · exact Or.inr ⟨moved, reached, far, other⟩
    · have within : ∃ symbol rest, text = moved ++ symbol :: rest := by
        rcases occurs with ⟨after, split, -⟩
        rcases other with ⟨afterOther, splitOther, -⟩
        rw [split, reached, List.append_assoc, List.append_assoc, List.append_assoc,
          List.append_cancel_left_eq] at splitOther
        rcases List.append_eq_append_iff.mp splitOther with ⟨more, longer, -⟩ | ⟨more, shorter, -⟩
        · rw [longer, List.length_append] at far
          omega
        · cases more with
          | nil =>
              rw [shorter, List.append_nil] at far
              omega
          | cons symbol rest => exact ⟨symbol, rest, shorter⟩
      rcases within with ⟨symbol, rest, rfl⟩
      have first := apart.disjoint before moved symbol rest found.text occurs (reached ▸ other)
      rw [first, List.append_nil] at reached
      rw [reached] at other
      left
      rw [apart.determined before _ _ occurs other, ← reached]
  · rintro (rfl | ⟨moved, reached, -, other⟩)
    · exact ⟨[], (List.append_nil _).symm, Nat.zero_le _, occurs⟩
    · exact ⟨moved, reached, Nat.zero_le _, other⟩

theorem mem_scan_from
    (pattern : Pattern Symbol)
    (whole : List Symbol)
    (apart : Apart pattern whole)
    (skipped : Nat)
    (before after : List Symbol)
    (split : whole = before ++ after)
    (found : Occurrence Symbol) :
    found ∈ scanFrom pattern skipped before after ↔ Ahead pattern whole skipped before found := by
  induction after generalizing skipped before with
  | nil =>
      rw [scanFrom]
      apply iff_of_false List.not_mem_nil
      rintro ⟨moved, reached, -, occurs⟩
      apply apart.nonempty _ _ occurs
      rcases occurs with ⟨following, same, -⟩
      rw [split, reached, List.append_assoc, List.append_assoc,
        List.append_cancel_left_eq] at same
      exact (List.append_eq_nil_iff.mp (List.append_eq_nil_iff.mp same.symm).2).1
  | cons symbol rest ih =>
      have next : whole = (before ++ [symbol]) ++ rest := by
        rw [split, List.append_assoc, List.singleton_append]
      have later (skipped : Nat) : found ∈ scanFrom pattern skipped (before ++ [symbol]) rest ↔
          Ahead pattern whole (skipped + 1) before found := by
        rw [ih skipped _ next, split, ahead_succ_iff]
      cases skipped with
      | succ skipped => exact later skipped
      | zero =>
          rcases first_way pattern whole before (symbol :: rest) split with
            ⟨none, misses⟩ | ⟨text, stop, first, taken, occurs⟩
          · simp only [scanFrom, none]
            rw [later, ahead_zero_iff, or_iff_right]
            exact fun here => misses _ here.2
          · have length : text.length - 1 + 1 = text.length :=
              Nat.succ_pred (mt List.length_eq_zero_iff.mp (apart.nonempty _ _ occurs))
            simp only [scanFrom, first, taken]
            rw [List.mem_cons, later, length, ahead_of_fit pattern whole before text apart occurs]

theorem mem_scan
    (pattern : Pattern Symbol)
    (whole : List Symbol)
    (apart : Apart pattern whole)
    (found : Occurrence Symbol) :
    found ∈ scan pattern whole ↔ Occurs pattern whole found.before found.text := by
  rw [scan, mem_scan_from pattern whole apart 0 [] whole rfl]
  constructor
  · rintro ⟨moved, -, -, occurs⟩
    exact occurs
  · exact fun occurs => ⟨found.before, rfl, Nat.zero_le _, occurs⟩

theorem scan_from_ordered
    (pattern : Pattern Symbol)
    (skipped : Nat)
    (before after : List Symbol) :
    (∀ found ∈ scanFrom pattern skipped before after, before.length ≤ found.before.length) ∧
      (scanFrom pattern skipped before after).Pairwise fun first second =>
        first.before.length < second.before.length := by
  induction after generalizing skipped before with
  | nil =>
      rw [scanFrom]
      exact ⟨nofun, List.Pairwise.nil⟩
  | cons symbol rest ih =>
      have later (skipped : Nat) :
          (∀ found ∈ scanFrom pattern skipped (before ++ [symbol]) rest,
            before.length < found.before.length) ∧
          (scanFrom pattern skipped (before ++ [symbol]) rest).Pairwise fun first second =>
            first.before.length < second.before.length := by
        have own := ih skipped (before ++ [symbol])
        rw [List.length_append] at own
        exact ⟨fun found member => Nat.lt_of_succ_le (own.1 found member), own.2⟩
      have weaker (skipped : Nat) : ∀ found ∈ scanFrom pattern skipped (before ++ [symbol]) rest,
          before.length ≤ found.before.length :=
        fun found member => Nat.le_of_lt ((later skipped).1 found member)
      cases skipped with
      | succ skipped => exact ⟨weaker skipped, (later skipped).2⟩
      | zero =>
          rw [scanFrom]
          cases (ways pattern ⟨before, symbol :: rest⟩).head? with
          | none => exact ⟨weaker 0, (later 0).2⟩
          | some stop =>
              constructor
              · exact List.forall_mem_cons.mpr ⟨Nat.le_refl _, weaker _⟩
              · exact List.pairwise_cons.mpr ⟨(later _).1, (later _).2⟩

theorem ways_exist_iff
    (pattern : Pattern Symbol)
    (before after : List Symbol) :
    (!(ways pattern ⟨before, after⟩).isEmpty) = true ↔
      ∃ text following, after = text ++ following ∧ Fits pattern before text following := by
  rw [Bool.not_eq_true', List.isEmpty_eq_false_iff_exists_mem]
  constructor
  · rintro ⟨stop, member⟩
    rcases (mem_ways pattern _ stop).mp member with ⟨text, -, rest, fits⟩
    exact ⟨text, stop.after, rest, fits⟩
  · rintro ⟨text, following, split, fits⟩
    exact ⟨⟨before ++ text, following⟩, (mem_ways pattern _ _).mpr ⟨text, rfl, split, fits⟩⟩

/-- A search succeeds if the pattern fits anywhere. -/
theorem search_from_iff
    (pattern : Pattern Symbol)
    (before after : List Symbol) :
    searchFrom pattern before after = true ↔
      ∃ moved text following, after = moved ++ text ++ following ∧
        Fits pattern (before ++ moved) text following := by
  induction after generalizing before with
  | nil =>
      rw [searchFrom, ways_exist_iff]
      constructor
      · rintro ⟨text, following, split, fits⟩
        exact ⟨[], text, following, split, by rwa [List.append_nil]⟩
      · rintro ⟨moved, text, following, split, fits⟩
        have none := List.append_eq_nil_iff.mp (List.append_eq_nil_iff.mp split.symm).1
        rw [none.1, List.append_nil] at fits
        rw [none.1, List.nil_append] at split
        exact ⟨text, following, split, fits⟩
  | cons symbol rest ih =>
      rw [searchFrom, Bool.or_eq_true, ways_exist_iff, ih (before ++ [symbol])]
      constructor
      · rintro (⟨text, following, split, fits⟩ | ⟨moved, text, following, split, fits⟩)
        · exact ⟨[], text, following, split, by rwa [List.append_nil]⟩
        · refine ⟨symbol :: moved, text, following, ?_, ?_⟩
          · rw [split, List.cons_append, List.cons_append]
          · rwa [List.append_assoc, List.singleton_append] at fits
      · rintro ⟨moved, text, following, split, fits⟩
        cases moved with
        | nil =>
            rw [List.append_nil] at fits
            exact Or.inl ⟨text, following, split, fits⟩
        | cons first moved =>
            rw [List.cons_append, List.cons_append, List.cons.injEq] at split
            rcases split with ⟨rfl, split⟩
            refine Or.inr ⟨moved, text, following, split, ?_⟩
            rwa [List.append_assoc, List.singleton_append]

end AtlasMindNetra.PatternRules
