import AtlasMindNetra.EffectRules

/-!
# Two programs side by side

Programs that do the same up to one place are compared from that place on. They
return values that fit, or raise the same error, and leave states that fit.
-/

namespace AtlasMindNetra.TwinRules

open AtlasMindNetra.EffectRules

set_option autoImplicit false

variable {Error State Value Next : Type}

/-- How two programs ended. -/
inductive Fits (values : Value → Value → Prop) (states : State → State → Prop) :
    EStateM.Result Error State Value → EStateM.Result Error State Value → Prop where
  | returned (left right : Value) (final other : State) :
      values left right → states final other → Fits values states (.ok left final) (.ok right other)
  | raised (error : Error) (final other : State) :
      states final other → Fits values states (.error error final) (.error error other)

def Twins (values : Value → Value → Prop) (states : State → State → Prop)
    (left right : EStateM Error State Value) : Prop :=
  ∀ start, Fits values states (left start) (right start)

theorem run_get (state : State) : (get : EStateM Error State State) state = .ok state state := rfl

theorem run_modify
    (change : State → State)
    (state : State) : (modify change : EStateM Error State Unit) state = .ok () (change state) := rfl

variable {values : Value → Value → Prop} {states : State → State → Prop}

theorem twins_refl
    (valuesRefl : ∀ value, values value value)
    (statesRefl : ∀ state, states state state)
    (program : EStateM Error State Value) : Twins values states program program := by
  intro start
  cases program start with
  | ok value final => exact Fits.returned value value final final (valuesRefl value) (statesRefl final)
  | error error final => exact Fits.raised error final final (statesRefl final)

theorem same_program (program : EStateM Error State Value) : Twins Eq Eq program program :=
  twins_refl (fun _ => rfl) (fun _ => rfl) program

/-- Two programs go on from where they fit. -/
theorem fits_bind
    {next : Next → Next → Prop}
    {middle : State → State → Prop}
    (left right : EStateM Error State Value)
    (leftNext rightNext : Value → EStateM Error State Next)
    (start other : State)
    (first : Fits values middle (left start) (right other))
    (kept : ∀ final other, middle final other → states final other)
    (rest : ∀ value other, values value other → ∀ final state, middle final state →
      Fits next states (leftNext value final) (rightNext other state)) :
    Fits next states ((left >>= leftNext) start) ((right >>= rightNext) other) := by
  simp only [bind, EStateM.bind]
  cases leftRun : left start with
  | ok value final =>
      rw [leftRun] at first
      cases rightRun : right other with
      | ok otherValue otherFinal =>
          rw [rightRun] at first
          cases first with
          | returned _ _ _ _ valuesFit statesFit =>
              exact rest value otherValue valuesFit final otherFinal statesFit
      | error error otherFinal =>
          rw [rightRun] at first
          cases first
  | error error final =>
      rw [leftRun] at first
      cases rightRun : right other with
      | ok otherValue otherFinal =>
          rw [rightRun] at first
          cases first
      | error otherError otherFinal =>
          rw [rightRun] at first
          cases first with
          | raised _ _ _ statesFit => exact Fits.raised error final otherFinal (kept _ _ statesFit)

theorem twins_bind
    {next : Next → Next → Prop}
    (statesRefl : ∀ state, states state state)
    (first : EStateM Error State Value)
    (left right : Value → EStateM Error State Next)
    (rest : ∀ value, Twins next states (left value) (right value)) :
    Twins next states (first >>= left) (first >>= right) := by
  intro start
  apply fits_bind first first left right start start
    (same_program first start)
  · intro final other same
    rw [same]
    exact statesRefl other
  · intro value other sameValue final state sameState
    rw [sameValue, sameState]
    exact rest other state

theorem twins_ite
    (condition : Prop) [Decidable condition]
    (left right otherLeft otherRight : EStateM Error State Value)
    (holds : condition → Twins values states left right)
    (fails : ¬condition → Twins values states otherLeft otherRight) :
    Twins values states (if condition then left else otherLeft)
      (if condition then right else otherRight) := by
  split_ifs with decided
  · exact holds decided
  · exact fails decided

def Respects (states : State → State → Prop) (program : EStateM Error State Value) : Prop :=
  ∀ start other, states start other → Fits Eq states (program start) (program other)

theorem respects_pure (value : Value) :
    Respects states (pure value : EStateM Error State Value) := by
  intro start other fit
  exact Fits.returned value value start other rfl fit

theorem respects_throw (error : Error) :
    Respects states (throw error : EStateM Error State Value) := by
  intro start other fit
  exact Fits.raised error start other fit

theorem respects_outcome (outcome : Except Error Value) :
    Respects states (fromOutcome outcome) := by
  cases outcome with
  | ok value => exact respects_pure value
  | error error => exact respects_throw error

theorem respects_modify
    (change : State → State)
    (kept : ∀ start other, states start other → states (change start) (change other)) :
    Respects states (modify change : EStateM Error State PUnit) := by
  intro start other fit
  exact Fits.returned PUnit.unit PUnit.unit (change start) (change other) rfl (kept start other fit)

theorem respects_bind
    (first : EStateM Error State Value)
    (next : Value → EStateM Error State Next)
    (respects : Respects states first)
    (rest : ∀ value, Respects states (next value)) : Respects states (first >>= next) := by
  intro start other fit
  apply fits_bind first first next next start other (respects start other fit)
  · exact fun _ _ same => same
  · intro value _ sameValue final state sameState
    rw [← sameValue]
    exact rest value final state sameState

theorem respects_get
    (next : State → EStateM Error State Value)
    (rest : ∀ start other, states start other → Fits Eq states (next start start) (next other other)) :
    Respects states (get >>= next) :=
  rest

theorem respects_ite
    (condition : Prop) [Decidable condition]
    (left right : EStateM Error State Value)
    (holds : condition → Respects states left)
    (fails : ¬condition → Respects states right) :
    Respects states (if condition then left else right) := by
  split_ifs with decided
  · exact holds decided
  · exact fails decided

theorem respects_catching
    {Caught : Type}
    (select : Error → Option Caught)
    (program : EStateM Error State Value)
    (respects : Respects states program) : Respects states (catching select program) := by
  intro start other fit
  have ran := respects start other fit
  unfold catching
  generalize program start = left at ran
  generalize program other = right at ran
  cases ran with
  | returned value _ final after same kept =>
      cases same
      exact Fits.returned _ _ final after rfl kept
  | raised error final after kept =>
      dsimp only
      cases select error with
      | some caught => exact Fits.returned _ _ final after rfl kept
      | none => exact Fits.raised error final after kept

end AtlasMindNetra.TwinRules
