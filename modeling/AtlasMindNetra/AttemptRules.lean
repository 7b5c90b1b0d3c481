import Mathlib.Logic.Basic
import Mathlib.Tactic.SplitIfs

/-!
# Repeated attempts and gathered tasks

An operation that may fail is attempted again after certain errors, a bounded
number of times, and the error of the last attempt is kept. Tasks that run
side by side are gathered: all their values, or the error raised first.
-/

namespace AtlasMindNetra.AttemptRules

set_option autoImplicit false

variable {Error Value : Type}

/-- Attempts from number `attempt` on, with `more` further ones allowed: how
many are made, and what the last of them ends in. -/
def retrying (isRetried : Error → Bool) (operation : Nat → Except Error Value) :
    Nat → Nat → Nat × Except Error Value
  | 0, attempt => (1, operation attempt)
  | more + 1, attempt =>
      match operation attempt with
      | .ok value => (1, .ok value)
      | .error error =>
          if isRetried error then
            let later := retrying isRetried operation more (attempt + 1)
            (later.1 + 1, later.2)
          else (1, .error error)

def Retried (isRetried : Error → Bool) (outcome : Except Error Value) : Prop :=
  ∃ error, outcome = .error error ∧ isRetried error = true

variable {isRetried : Error → Bool} {operation : Nat → Except Error Value}

theorem retrying_again
    (more attempt : Nat)
    (retried : Retried isRetried (operation attempt)) :
    retrying isRetried operation (more + 1) attempt =
      ((retrying isRetried operation more (attempt + 1)).1 + 1,
        (retrying isRetried operation more (attempt + 1)).2) := by
  rcases retried with ⟨error, raised, again⟩
  rw [retrying, raised]
  simp only [again, if_true]

theorem retrying_stops
    (more attempt : Nat)
    (final : ¬ Retried isRetried (operation attempt)) :
    retrying isRetried operation more attempt = (1, operation attempt) := by
  cases more with
  | zero => rfl
  | succ more =>
      rw [retrying]
      cases ended : operation attempt with
      | ok value => rfl
      | error error =>
          have stays : ¬ isRetried error = true := fun again => final ⟨error, ended, again⟩
          simp only [if_neg stays]

theorem attempts_bounded
    (more attempt : Nat) :
    1 ≤ (retrying isRetried operation more attempt).1 ∧
      (retrying isRetried operation more attempt).1 ≤ more + 1 := by
  induction more generalizing attempt with
  | zero => simp [retrying]
  | succ more ih =>
      by_cases retried : Retried isRetried (operation attempt)
      · rw [retrying_again more attempt retried]
        have later := ih (attempt + 1)
        omega
      · rw [retrying_stops _ attempt retried]
        omega

theorem retrying_keeps_attempt
    (more attempt : Nat) :
    ∃ made, (retrying isRetried operation more attempt).2 = operation made := by
  induction more generalizing attempt with
  | zero => exact ⟨attempt, rfl⟩
  | succ more ih =>
      by_cases retried : Retried isRetried (operation attempt)
      · rw [retrying_again more attempt retried]
        exact ih (attempt + 1)
      · rw [retrying_stops _ attempt retried]
        exact ⟨attempt, rfl⟩

theorem earlier_attempts_retried
    (more attempt index : Nat)
    (earlier : index + 1 < (retrying isRetried operation more attempt).1) :
    Retried isRetried (operation (attempt + index)) := by
  induction more generalizing attempt index with
  | zero => simp [retrying] at earlier
  | succ more ih =>
      by_cases retried : Retried isRetried (operation attempt)
      · cases index with
        | zero => exact retried
        | succ index =>
            rw [retrying_again more attempt retried] at earlier
            have later := ih (attempt + 1) index (by omega)
            rwa [Nat.add_right_comm, Nat.add_assoc] at later
      · rw [retrying_stops _ attempt retried] at earlier
        omega

/-- For an ending that is not retried: the attempts end in it exactly when one
of those allowed does, all attempts before it being retried. -/
theorem retrying_ends_iff
    (ending : Except Error Value → Prop)
    (final : ∀ outcome, ending outcome → ¬ Retried isRetried outcome)
    (more attempt : Nat) :
    ending (retrying isRetried operation more attempt).2 ↔
      ∃ index, index ≤ more ∧
        (∀ earlier, earlier < index → Retried isRetried (operation (attempt + earlier))) ∧
        ending (operation (attempt + index)) := by
  induction more generalizing attempt with
  | zero =>
      constructor
      · intro ends
        exact ⟨0, Nat.le_refl 0, fun earlier before => absurd before (Nat.not_lt_zero _), ends⟩
      · rintro ⟨index, bounded, _, ends⟩
        have first : index = 0 := by omega
        subst first
        exact ends
  | succ more ih =>
      by_cases retried : Retried isRetried (operation attempt)
      · rw [retrying_again more attempt retried, ih (attempt + 1)]
        constructor
        · rintro ⟨index, bounded, before, ends⟩
          apply Exists.intro (index + 1)
          have shift (offset : Nat) : attempt + (offset + 1) = attempt + 1 + offset := by omega
          rw [shift]
          apply And.intro (by omega)
          apply And.intro _ ends
          intro earlier sooner
          cases earlier with
          | zero => exact retried
          | succ earlier =>
              rw [shift]
              exact before earlier (by omega)
        · rintro ⟨index, bounded, before, ends⟩
          cases index with
          | zero => exact absurd retried (final _ ends)
          | succ index =>
              have shift (offset : Nat) : attempt + (offset + 1) = attempt + 1 + offset := by omega
              apply Exists.intro index
              apply And.intro (by omega)
              rw [shift] at ends
              apply And.intro _ ends
              intro earlier sooner
              have reached := before (earlier + 1) (by omega)
              rwa [shift] at reached
      · rw [retrying_stops _ attempt retried]
        constructor
        · intro ends
          exact ⟨0, Nat.zero_le _, fun earlier before => absurd before (Nat.not_lt_zero _), ends⟩
        · rintro ⟨index, _, before, ends⟩
          cases index with
          | zero => exact ends
          | succ index => exact absurd (before 0 (Nat.succ_pos _)) retried

/-- The tasks from number `index` on: their values in order, or the error that
was raised first together with its time. -/
def gatherFrom (raisedAt : Nat → Nat) :
    Nat → List (Except Error Value) → Except (Nat × Error) (List Value)
  | _, [] => .ok []
  | index, .ok value :: rest =>
      match gatherFrom raisedAt (index + 1) rest with
      | .ok values => .ok (value :: values)
      | .error later => .error later
  | index, .error error :: rest =>
      match gatherFrom raisedAt (index + 1) rest with
      | .ok _ => .error (raisedAt index, error)
      | .error later =>
          if later.1 < raisedAt index then .error later else .error (raisedAt index, error)

/-- `asyncio.gather`: every value, or the error raised first. -/
def gather (raisedAt : Nat → Nat) (outcomes : List (Except Error Value)) :
    Except Error (List Value) :=
  (gatherFrom raisedAt 0 outcomes).mapError Prod.snd

theorem gather_from_error
    (raisedAt : Nat → Nat)
    (index : Nat)
    (outcomes : List (Except Error Value))
    (raised : Nat × Error)
    (gathered : gatherFrom raisedAt index outcomes = .error raised) :
    ∃ task, outcomes[task]? = some (.error raised.2) ∧ raised.1 = raisedAt (index + task) := by
  induction outcomes generalizing index raised with
  | nil => simp [gatherFrom] at gathered
  | cons outcome rest ih =>
      have fromRest (later : Nat × Error)
          (others : gatherFrom raisedAt (index + 1) rest = .error later) :
          ∃ task, (outcome :: rest)[task]? = some (.error later.2) ∧
            later.1 = raisedAt (index + task) := by
        rcases ih (index + 1) later others with ⟨task, position, time⟩
        apply Exists.intro (task + 1)
        rw [List.getElem?_cons_succ, time, Nat.add_right_comm, Nat.add_assoc]
        exact ⟨position, rfl⟩
      cases others : gatherFrom raisedAt (index + 1) rest with
      | ok values =>
          cases outcome with
          | ok value => simp [gatherFrom, others] at gathered
          | error error =>
              simp only [gatherFrom, others, Except.error.injEq] at gathered
              subst gathered
              exact ⟨0, rfl, rfl⟩
      | error later =>
          cases outcome with
          | ok value =>
              simp only [gatherFrom, others, Except.error.injEq] at gathered
              exact gathered ▸ fromRest later others
          | error error =>
              simp only [gatherFrom, others] at gathered
              split_ifs at gathered with sooner
              · exact Except.error.inj gathered ▸ fromRest later others
              · rw [← Except.error.inj gathered]
                exact ⟨0, rfl, rfl⟩

theorem gather_from_first
    (raisedAt : Nat → Nat)
    (index : Nat)
    (outcomes : List (Except Error Value))
    (task : Nat)
    (error : Error)
    (raises : outcomes[task]? = some (.error error))
    (first : ∀ other, other ≠ index + task → raisedAt (index + task) < raisedAt other) :
    gatherFrom raisedAt index outcomes = .error (raisedAt (index + task), error) := by
  induction outcomes generalizing index task with
  | nil => simp at raises
  | cons outcome rest ih =>
      cases task with
      | zero =>
          rw [List.getElem?_cons_zero, Option.some.injEq] at raises
          subst raises
          cases others : gatherFrom raisedAt (index + 1) rest with
          | ok values => simp only [gatherFrom, others, Nat.add_zero]
          | error later =>
              rcases gather_from_error raisedAt (index + 1) rest later others with
                ⟨task, _, time⟩
              have after : raisedAt index < raisedAt (index + 1 + task) :=
                first (index + 1 + task) (by omega)
              have notSooner : ¬ later.1 < raisedAt index := by omega
              simp only [gatherFrom, others, Nat.add_zero, if_neg notSooner]
      | succ task =>
          rw [List.getElem?_cons_succ] at raises
          have position : index + (task + 1) = index + 1 + task := by omega
          rw [position] at first ⊢
          have others := ih (index + 1) task raises first
          cases outcome with
          | ok value => simp only [gatherFrom, others]
          | error own =>
              have sooner : raisedAt (index + 1 + task) < raisedAt index :=
                first index (by omega)
              simp only [gatherFrom, others, if_pos sooner]

theorem gather_all_ok
    (raisedAt : Nat → Nat)
    (values : List Value) :
    gather raisedAt (values.map Except.ok : List (Except Error Value)) = .ok values := by
  have from_ (index : Nat) :
      gatherFrom raisedAt index (values.map Except.ok : List (Except Error Value)) =
        .ok values := by
    induction values generalizing index with
    | nil => rfl
    | cons value rest ih =>
        rw [List.map_cons, gatherFrom, ih]
  unfold gather
  rw [from_]
  rfl

theorem gather_error
    (raisedAt : Nat → Nat)
    (outcomes : List (Except Error Value))
    (error : Error)
    (gathered : gather raisedAt outcomes = .error error) : .error error ∈ outcomes := by
  unfold gather at gathered
  cases ended : gatherFrom raisedAt 0 outcomes with
  | ok values => simp [ended, Except.mapError] at gathered
  | error raised =>
      simp only [ended, Except.mapError, Except.error.injEq] at gathered
      rcases gather_from_error raisedAt 0 outcomes raised ended with ⟨task, position, _⟩
      exact gathered ▸ List.mem_of_getElem? position

theorem gather_some_order
    (outcomes : List (Except Error Value))
    (error : Error)
    (raises : .error error ∈ outcomes) :
    ∃ raisedAt, gather raisedAt outcomes = .error error := by
  rcases List.mem_iff_getElem?.mp raises with ⟨task, position⟩
  apply Exists.intro fun index => if index = task then 0 else 1
  have first := gather_from_first (fun index => if index = task then 0 else 1) 0 outcomes task
    error position (by
      intro other differs
      rw [Nat.zero_add] at differs ⊢
      simp only [if_true, if_neg differs]
      omega)
  unfold gather
  rw [first]
  rfl

end AtlasMindNetra.AttemptRules
