import Mathlib.Data.List.Basic

/-!
# Rules for scanning with a pattern

A pattern is tried at one position after the other. Where it matches, what it
found is kept and the scan goes on after the match. A text is thereby split
into what comes before the first match, and what comes after each match up to
the next one.
-/

namespace AtlasMindNetra.ScanRules

set_option autoImplicit false

universe u v

variable {Symbol : Type u} {Found : Type v}

/-- A word whose first symbol comes only once in it starts in a text only where
it ends in it, if the first symbol comes next. -/
theorem word_ends_within
    (first : Symbol)
    (others text following rest : List Symbol)
    (once : first ∉ others)
    (startsAnew : following = [] ∨ ∃ more, following = first :: more)
    (nonempty : text ≠ [])
    (same : text ++ following = first :: others ++ rest) : first :: others <+: text := by
  rcases List.append_eq_append_iff.mp same with ⟨spilled, inText, after⟩ | ⟨left, inText, _⟩
  · cases spilled with
    | nil =>
        rw [List.append_nil] at inText
        exact ⟨[], by rw [inText, List.append_nil]⟩
    | cons symbol later =>
        exfalso
        cases text with
        | nil => exact nonempty rfl
        | cons head tail =>
            have inOthers := (List.cons.inj inText).2
            rcases startsAnew with none | ⟨more, same⟩
            · rw [none] at after
              cases after
            · rw [same] at after
              rw [← (List.cons.inj after).1] at inOthers
              exact once (inOthers ▸ List.mem_append_right _ List.mem_cons_self)
  · exact ⟨left, inText.symm⟩

theorem word_ends_before
    (symbol : Symbol)
    (text word following rest : List Symbol)
    (absent : symbol ∉ word)
    (same : text ++ symbol :: following = word ++ rest) :
    ∃ between, text = word ++ between ∧ rest = between ++ symbol :: following := by
  rcases List.append_eq_append_iff.mp same with ⟨spilled, inWord, after⟩ | ⟨between, inText, after⟩
  · cases spilled with
    | nil => exact ⟨[], by rw [inWord, List.append_nil, List.append_nil], after.symm⟩
    | cons other spilled =>
        rw [← (List.cons.inj after).1] at inWord
        exact absurd (inWord ▸ List.mem_append_right _ List.mem_cons_self) absent
  · exact ⟨between, inText, after⟩

section Scan

-- What the pattern finds at the start of a text, and what is left after the match.
variable (here : List Symbol → Option (Found × List Symbol))

/-- `fuel` bounds the number of positions. -/
def splitFrom : Nat → List Symbol → List Symbol × List (Found × List Symbol)
  | 0, text => (text, [])
  | fuel + 1, text =>
      match here text with
      | some (found, rest) =>
          ([], (found, (splitFrom fuel rest).1) :: (splitFrom fuel rest).2)
      | none =>
          match text with
          | [] => ([], [])
          | symbol :: rest => (symbol :: (splitFrom fuel rest).1, (splitFrom fuel rest).2)

def split (text : List Symbol) : List Symbol × List (Found × List Symbol) :=
  splitFrom here text.length text

def remove (text : List Symbol) : List Symbol :=
  (split here text).1 ++ (split here text).2.flatMap Prod.snd

variable (consumes : ∀ text found rest, here text = some (found, rest) →
  rest.length < text.length)

include consumes

theorem none_here_nil : here [] = none := by
  cases found : here [] with
  | none => rfl
  | some result => exact absurd (consumes [] result.1 result.2 found) (Nat.not_lt_zero _)

theorem split_from_enough
    (fuel : Nat)
    (text : List Symbol)
    (enough : text.length ≤ fuel) : splitFrom here fuel text = split here text := by
  unfold split
  induction fuel using Nat.strongRecOn generalizing text with
  | ind fuel ih =>
      cases fuel with
      | zero => rw [List.length_eq_zero_iff.mp (Nat.le_zero.mp enough), List.length_nil]
      | succ fuel =>
          cases text with
          | nil => simp only [splitFrom, none_here_nil here consumes, List.length_nil]
          | cons symbol rest =>
              rw [List.length_cons] at enough ⊢
              unfold splitFrom
              have same (later : List Symbol) (shorter : later.length ≤ rest.length) :
                  splitFrom here fuel later = splitFrom here rest.length later := by
                rw [ih fuel (Nat.lt_succ_self fuel) later (by omega)]
                rcases Nat.lt_or_ge rest.length fuel.succ with less | more
                · exact (ih rest.length less later shorter).symm
                · omega
              cases found : here (symbol :: rest) with
              | none => simp only [same rest (Nat.le_refl _)]
              | some result =>
                  have shorter := consumes _ result.1 result.2 found
                  rw [List.length_cons] at shorter
                  simp only [same result.2 (by omega)]

theorem split_found
    (text : List Symbol)
    (found : Found)
    (rest : List Symbol)
    (matched : here text = some (found, rest)) :
    split here text = ([], (found, (split here rest).1) :: (split here rest).2) := by
  have shorter := consumes text found rest matched
  have step : splitFrom here (text.length + 1) text =
      ([], (found, (splitFrom here text.length rest).1) ::
        (splitFrom here text.length rest).2) := by
    simp only [splitFrom, matched]
  rw [← split_from_enough here consumes (text.length + 1) text (Nat.le_succ _), step,
    split_from_enough here consumes text.length rest (Nat.le_of_lt shorter)]

omit consumes in
theorem split_passed
    (symbol : Symbol)
    (rest : List Symbol)
    (unmatched : here (symbol :: rest) = none) :
    split here (symbol :: rest) = (symbol :: (split here rest).1, (split here rest).2) := by
  rw [split, List.length_cons, splitFrom, unmatched]
  rfl

def Passes (text following : List Symbol) : Prop :=
  ∀ before symbol after, text = before ++ symbol :: after →
    here (symbol :: (after ++ following)) = none

omit consumes in
theorem split_plain
    (text following : List Symbol)
    (passes : Passes here text following) :
    split here (text ++ following) =
      (text ++ (split here following).1, (split here following).2) := by
  induction text with
  | nil => rfl
  | cons symbol rest ih =>
      have later : Passes here rest following := fun before other after same =>
        passes (symbol :: before) other after (by rw [same, List.cons_append])
      rw [List.cons_append, split_passed here symbol _ (passes [] symbol rest rfl),
        ih later]
      rfl

theorem remove_found
    (text : List Symbol)
    (found : Found)
    (rest : List Symbol)
    (matched : here text = some (found, rest)) : remove here text = remove here rest := by
  unfold remove
  rw [split_found here consumes text found rest matched]
  rfl

omit consumes in
theorem remove_plain
    (text following : List Symbol)
    (passes : Passes here text following) :
    remove here (text ++ following) = text ++ remove here following := by
  unfold remove
  rw [split_plain here text following passes, List.append_assoc]

def behind (plain : List Symbol) : List (Found × List Symbol) → List (Found × List Symbol)
  | [] => []
  | [last] => [(last.1, last.2 ++ plain)]
  | part :: next :: others => part :: behind plain (next :: others)

def joined (first second : List Symbol × List (Found × List Symbol)) :
    List Symbol × List (Found × List Symbol) :=
  (if first.2.isEmpty then first.1 ++ second.1 else first.1, behind second.1 first.2 ++ second.2)

omit consumes in
theorem joined_found
    (found : Found)
    (first second : List Symbol × List (Found × List Symbol)) :
    joined ([], (found, first.1) :: first.2) second =
      ([], (found, (joined first second).1) :: (joined first second).2) := by
  cases first with
  | mk plain parts =>
      cases parts with
      | nil => rfl
      | cons part others => rfl

omit consumes in
theorem joined_passed
    (symbol : Symbol)
    (first second : List Symbol × List (Found × List Symbol)) :
    joined (symbol :: first.1, first.2) second =
      (symbol :: (joined first second).1, (joined first second).2) := by
  cases first with
  | mk plain parts =>
      cases parts with
      | nil => rfl
      | cons part others => rfl

/-- What follows the text takes no part in its matches. -/
def Contained (text : List Symbol) : Prop :=
  ∀ start, start <:+ text → start ≠ [] → ∀ rest,
    here (start ++ rest) = (here start).map fun matched => (matched.1, matched.2 ++ rest)

variable (leaves : ∀ text found rest, here text = some (found, rest) → rest <:+ text)

include leaves

/-- A text with its own matches is split by itself, and what follows by itself. -/
theorem split_contained
    (text rest : List Symbol)
    (contained : Contained here text) :
    split here (text ++ rest) = joined (split here text) (split here rest) := by
  induction size : text.length using Nat.strongRecOn generalizing text with
  | ind size ih =>
      cases text with
      | nil => rfl
      | cons symbol later =>
          have whole := contained (symbol :: later) (List.suffix_refl _) (List.cons_ne_nil _ _) rest
          cases matched : here (symbol :: later) with
          | none =>
              rw [matched, Option.map_none, List.cons_append] at whole
              have inLater : Contained here later := fun start ends =>
                contained start (ends.trans (List.suffix_cons symbol later))
              rw [List.cons_append, split_passed here symbol _ whole,
                split_passed here symbol later matched, joined_passed,
                ih later.length (by rw [← size, List.length_cons]; omega) later inLater rfl]
          | some result =>
              rw [matched, Option.map_some] at whole
              have shorter := consumes _ result.1 result.2 matched
              have inLeft : Contained here result.2 := fun start ends =>
                contained start (ends.trans (leaves _ result.1 result.2 matched))
              rw [split_found here consumes _ result.1 _ whole,
                split_found here consumes _ result.1 _ matched, joined_found,
                ih result.2.length (by omega) result.2 inLeft rfl]

end Scan

end AtlasMindNetra.ScanRules
