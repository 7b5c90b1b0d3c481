import Mathlib.Logic.Basic

/-!
# Runs of a machine that answers each input

A machine is a step function from a state and an input to the next state and
an output. A condition on steps is read at the state in which each step is
taken, so it may speak about that state and not only about the input.
-/

namespace AtlasMindNetra.RunRules

set_option autoImplicit false

variable {State Input Output : Type}

/-- The final state and the outputs of feeding `inputs` in order. -/
def run (step : State → Input → State × Output) : State → List Input → State × List Output
  | state, [] => (state, [])
  | state, input :: rest =>
      let (next, output) := step state input
      let (final, outputs) := run step next rest
      (final, output :: outputs)

/-- What is observed of the steps of a run, in order, read off the state before each step. -/
def observed {Event : Type} (step : State → Input → State × Output)
    (observe : State → Input → List Event) : State → List Input → List Event
  | _, [] => []
  | state, input :: rest => observe state input ++ observed step observe (step state input).1 rest

/-- `holds` is true of every step of the run, at the state before the step. -/
def EveryStep (step : State → Input → State × Output) (holds : State → Input → Prop) :
    State → List Input → Prop
  | _, [] => True
  | state, input :: rest =>
      holds state input ∧ EveryStep step holds (step state input).1 rest

/-- The states visited by runs from `initial` whose steps all satisfy `allowed`. -/
def Reachable (step : State → Input → State × Output) (allowed : State → Input → Prop)
    (initial state : State) : Prop :=
  ∃ inputs, EveryStep step allowed initial inputs ∧ (run step initial inputs).1 = state

variable {step : State → Input → State × Output} {allowed : State → Input → Prop}

instance decidableEveryStep [∀ state input, Decidable (allowed state input)] :
    ∀ (state : State) (inputs : List Input), Decidable (EveryStep step allowed state inputs)
  | _, [] => isTrue trivial
  | state, input :: rest =>
      have := decidableEveryStep (step state input).1 rest
      inferInstanceAs (Decidable (_ ∧ _))

theorem run_cons (step : State → Input → State × Output) (state : State) (input : Input)
    (rest : List Input) :
    run step state (input :: rest) =
      ((run step (step state input).1 rest).1,
        (step state input).2 :: (run step (step state input).1 rest).2) := rfl

theorem run_outputs_length (step : State → Input → State × Output) (state : State)
    (inputs : List Input) : (run step state inputs).2.length = inputs.length := by
  induction inputs generalizing state with
  | nil => rfl
  | cons input rest ih => rw [run_cons, List.length_cons, List.length_cons, ih]

theorem run_snoc (step : State → Input → State × Output) (state : State) (inputs : List Input)
    (last : Input) :
    run step state (inputs ++ [last]) =
      ((step (run step state inputs).1 last).1,
        (run step state inputs).2 ++ [(step (run step state inputs).1 last).2]) := by
  induction inputs generalizing state with
  | nil => rfl
  | cons input rest ih => rw [List.cons_append, run_cons, ih, run_cons, List.cons_append]

theorem run_append (step : State → Input → State × Output) (state : State)
    (inputs later : List Input) :
    run step state (inputs ++ later) =
      ((run step (run step state inputs).1 later).1,
        (run step state inputs).2 ++ (run step (run step state inputs).1 later).2) := by
  induction inputs generalizing state with
  | nil => rfl
  | cons input rest ih => rw [List.cons_append, run_cons, ih, run_cons, List.cons_append]

theorem every_step_always {holds : State → Input → Prop}
    (always : ∀ state input, holds state input) (state : State) (inputs : List Input) :
    EveryStep step holds state inputs := by
  induction inputs generalizing state with
  | nil => trivial
  | cons input rest ih => exact ⟨always state input, ih _⟩

theorem every_step_mono {holds : State → Input → Prop}
    (follows : ∀ state input, allowed state input → holds state input) (state : State)
    (inputs : List Input) (steps : EveryStep step allowed state inputs) :
    EveryStep step holds state inputs := by
  induction inputs generalizing state with
  | nil => trivial
  | cons input rest ih => exact ⟨follows state input steps.1, ih _ steps.2⟩

theorem every_step_and {first second : State → Input → Prop} (state : State) (inputs : List Input)
    (left : EveryStep step first state inputs) (right : EveryStep step second state inputs) :
    EveryStep step (fun state input => first state input ∧ second state input) state inputs := by
  induction inputs generalizing state with
  | nil => trivial
  | cons input rest ih => exact ⟨⟨left.1, right.1⟩, ih _ left.2 right.2⟩

theorem every_step_append {holds : State → Input → Prop} (state : State)
    (inputs : List Input) (last : Input) (steps : EveryStep step holds state (inputs ++ [last])) :
    EveryStep step holds state inputs ∧ holds (run step state inputs).1 last := by
  induction inputs generalizing state with
  | nil => exact ⟨trivial, steps.1⟩
  | cons input rest ih =>
      rcases steps with ⟨first, later⟩
      rcases ih _ later with ⟨front, back⟩
      exact ⟨⟨first, front⟩, back⟩

theorem every_step_snoc {holds : State → Input → Prop} (state : State) (inputs : List Input)
    (last : Input) (steps : EveryStep step holds state inputs)
    (holdsLast : holds (run step state inputs).1 last) :
    EveryStep step holds state (inputs ++ [last]) := by
  induction inputs generalizing state with
  | nil => exact ⟨holdsLast, trivial⟩
  | cons input rest ih => exact ⟨steps.1, ih _ steps.2 holdsLast⟩

theorem reachable_next {initial state : State} (input : Input)
    (reached : Reachable step allowed initial state) (allowedNow : allowed state input) :
    Reachable step allowed initial (step state input).1 := by
  rcases reached with ⟨inputs, steps, rfl⟩
  refine ⟨inputs ++ [input], every_step_snoc initial inputs input steps allowedNow, ?_⟩
  rw [run_snoc]

/-- What every allowed step preserves holds at the end of an allowed run. -/
theorem run_invariant (invariant : State → Prop)
    (preserved : ∀ state input, invariant state → allowed state input →
      invariant (step state input).1)
    (state : State) (inputs : List Input) (initial : invariant state)
    (steps : EveryStep step allowed state inputs) : invariant (run step state inputs).1 := by
  induction inputs generalizing state with
  | nil => exact initial
  | cons input rest ih =>
      rw [run_cons]
      exact ih (step state input).1 (preserved state input initial steps.1) steps.2

theorem run_history_invariant (invariant : State → List Output → Prop)
    (preserved : ∀ state past input, invariant state past → allowed state input →
      invariant (step state input).1 (past ++ [(step state input).2]))
    (state : State) (past : List Output) (inputs : List Input) (initial : invariant state past)
    (steps : EveryStep step allowed state inputs) :
    invariant (run step state inputs).1 (past ++ (run step state inputs).2) := by
  induction inputs generalizing state past with
  | nil =>
      rw [run, List.append_nil]
      exact initial
  | cons input rest ih =>
      have next := ih (step state input).1 _ (preserved state past input initial steps.1) steps.2
      rw [run_cons, List.append_cons]
      exact next

theorem run_input_invariant (invariant : State → List Input → Prop)
    (preserved : ∀ state past input, invariant state past →
      invariant (step state input).1 (past ++ [input]))
    (state : State) (past inputs : List Input) (initial : invariant state past) :
    invariant (run step state inputs).1 (past ++ inputs) := by
  induction inputs generalizing state past with
  | nil =>
      rw [run, List.append_nil]
      exact initial
  | cons input rest ih =>
      rw [run_cons, List.append_cons]
      exact ih (step state input).1 _ (preserved state past input initial)

theorem run_observed_invariant {Event : Type} {observe : State → Input → List Event}
    (invariant : State → List Event → Prop)
    (preserved : ∀ state past input, invariant state past → allowed state input →
      invariant (step state input).1 (past ++ observe state input))
    (state : State) (past : List Event) (inputs : List Input) (initial : invariant state past)
    (steps : EveryStep step allowed state inputs) :
    invariant (run step state inputs).1 (past ++ observed step observe state inputs) := by
  induction inputs generalizing state past with
  | nil =>
      rw [run, observed, List.append_nil]
      exact initial
  | cons input rest ih =>
      rw [run_cons, observed, ← List.append_assoc]
      exact ih (step state input).1 _ (preserved state past input initial steps.1) steps.2

theorem every_step_of_invariant (invariant : State → Prop) {holds : State → Input → Prop}
    (preserved : ∀ state input, invariant state → allowed state input →
      invariant (step state input).1)
    (follows : ∀ state input, invariant state → allowed state input → holds state input)
    (state : State) (inputs : List Input) (initial : invariant state)
    (steps : EveryStep step allowed state inputs) : EveryStep step holds state inputs := by
  induction inputs generalizing state with
  | nil => trivial
  | cons input rest ih =>
      exact ⟨follows state input initial steps.1,
        ih (step state input).1 (preserved state input initial steps.1) steps.2⟩

theorem reachable_invariant (invariant : State → Prop)
    (preserved : ∀ state input, invariant state → allowed state input →
      invariant (step state input).1)
    {initial state : State} (start : invariant initial)
    (reached : Reachable step allowed initial state) : invariant state := by
  rcases reached with ⟨inputs, steps, rfl⟩
  exact run_invariant invariant preserved initial inputs start steps

/-- If a step's output is good exactly when a condition held before the step,
a run's outputs are all good exactly when the condition held at every step. -/
theorem outputs_iff_every_step (good : Output → Prop) (holds : State → Input → Prop)
    (state : State) (inputs : List Input)
    (exact : ∀ state, ∀ input ∈ inputs, good (step state input).2 ↔ holds state input) :
    (∀ output ∈ (run step state inputs).2, good output) ↔ EveryStep step holds state inputs := by
  induction inputs generalizing state with
  | nil => simp [run, EveryStep]
  | cons input rest ih =>
      have tail := ih (step state input).1 fun state member later =>
        exact state member (List.mem_cons_of_mem _ later)
      rw [run_cons, List.forall_mem_cons, tail, exact state input List.mem_cons_self]
      rfl

def ownOutputs (step : State → Input → State × Output) (own : Input → Bool) :
    State → List Input → List Output :=
  observed step fun state input => if own input then [(step state input).2] else []

/-- Two lists of outputs for the inputs, alike one by one. -/
inductive OutputsAlike (alike : Input → Output → Output → Prop) :
    List Input → List Output → List Output → Prop where
  | none : OutputsAlike alike [] [] []
  | more (input : Input) (inputs : List Input) (output other : Output)
      (outputs others : List Output) :
      alike input output other → OutputsAlike alike inputs outputs others →
        OutputsAlike alike (input :: inputs) (output :: outputs) (other :: others)

/-- Where own steps do alike on states that fit, and the steps of others keep a
state fitting, the others can be left out of the run. -/
theorem run_own_alone (own : Input → Bool) (fits : State → State → Prop)
    (alike : Input → Output → Output → Prop)
    (ownStep : ∀ state other input, own input = true → fits state other → allowed state input →
      alike input (step state input).2 (step other input).2 ∧
        fits (step state input).1 (step other input).1)
    (otherStep : ∀ state other input, own input = false → fits state other →
      allowed state input → fits (step state input).1 other)
    (state other : State) (inputs : List Input) (start : fits state other)
    (steps : EveryStep step allowed state inputs) :
    OutputsAlike alike (inputs.filter own) (ownOutputs step own state inputs)
        (run step other (inputs.filter own)).2 ∧
      fits (run step state inputs).1 (run step other (inputs.filter own)).1 := by
  induction inputs generalizing state other with
  | nil => exact ⟨OutputsAlike.none, start⟩
  | cons input rest ih =>
      rw [ownOutputs, observed]
      cases mine : own input with
      | true =>
          have both := ownStep state other input mine start steps.1
          have later := ih _ _ both.2 steps.2
          rw [List.filter_cons_of_pos mine, run_cons, run_cons]
          exact ⟨OutputsAlike.more input _ _ _ _ _ both.1 later.1, later.2⟩
      | false =>
          have later := ih _ _ (otherStep state other input mine start steps.1) steps.2
          rw [List.filter_cons_of_neg (Bool.eq_false_iff.mp mine), run_cons]
          exact later

/-- Two machines over one state space that take the same step wherever a step
is allowed have the same runs. -/
theorem lockstep_run (other : State → Input → State × Output)
    (same : ∀ state input, allowed state input → other state input = step state input)
    (state : State) (inputs : List Input) (steps : EveryStep step allowed state inputs) :
    run other state inputs = run step state inputs := by
  induction inputs generalizing state with
  | nil => rfl
  | cons input rest ih => rw [run_cons, run_cons, same state input steps.1, ih _ steps.2]

/-- If, where an invariant holds, the other machine takes the same step exactly
when the step is allowed, then the runs agree at every point of the way exactly
when all steps are allowed. -/
theorem lockstep_iff (invariant : State → Prop)
    (preserved : ∀ state input, invariant state → invariant (step state input).1)
    (other : State → Input → State × Output)
    (exact : ∀ state input, invariant state →
      (other state input = step state input ↔ allowed state input))
    (state : State) (inputs : List Input) (initial : invariant state) :
    (∀ done, done <+: inputs → run other state done = run step state done) ↔
      EveryStep step allowed state inputs := by
  induction inputs generalizing state with
  | nil =>
      constructor
      · exact fun _ => trivial
      · intro _ done front
        rw [List.prefix_nil.mp front]
        rfl
  | cons input rest ih =>
      have later := ih (step state input).1 (preserved state input initial)
      constructor
      · intro same
        have first : other state input = step state input := by
          have one := same [input] ⟨rest, rfl⟩
          rw [run_cons, run_cons, run, run] at one
          exact Prod.ext (Prod.mk.inj one).1 (List.cons.inj (Prod.mk.inj one).2).1
        refine ⟨(exact state input initial).mp first, later.mp ?_⟩
        intro done front
        have more := same (input :: done) (List.cons_prefix_cons.mpr ⟨rfl, front⟩)
        rw [run_cons, run_cons, first] at more
        exact Prod.ext (Prod.mk.inj more).1 (List.cons.inj (Prod.mk.inj more).2).2
      · intro steps done front
        cases done with
        | nil => rfl
        | cons head tail =>
            rcases List.cons_prefix_cons.mp front with ⟨rfl, tailFront⟩
            rw [run_cons, run_cons, (exact state head initial).mpr steps.1,
              later.mpr steps.2 tail tailFront]

end AtlasMindNetra.RunRules
