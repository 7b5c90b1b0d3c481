import Mathlib.Data.List.Forall2
import Mathlib.Tactic.SplitIfs

/-!
# Rules for programs whose state survives a raised error

`EStateM` without backtracking is the semantics of an imperative program with
exceptions: a raise keeps every assignment made before it. `Ensures` carries
one postcondition for the normal exit and one for the exceptional exit, and
every rule below is an equivalence, so a program is unfolded exactly as far
as its proof needs.
-/

namespace AtlasMindNetra.EffectRules

set_option autoImplicit false

variable {Error State Value Next Caught : Type}

/-- Running `program` from `start` ends in `returns` or in `raises`. -/
def Ensures (program : EStateM Error State Value) (start : State)
    (returns : Value → State → Prop) (raises : Error → State → Prop) : Prop :=
  match program start with
  | .ok value final => returns value final
  | .error error final => raises error final

/-- Runs `program` and hands the errors picked by `select` to the caller as
values. Other errors pass through. No state change is undone. -/
def catching (select : Error → Option Caught) (program : EStateM Error State Value) :
    EStateM Error State (Except Caught Value) := fun start =>
  match program start with
  | .ok value final => .ok (.ok value) final
  | .error error final =>
      match select error with
      | some caught => .ok (.error caught) final
      | none => .error error final

def fromOutcome (outcome : Except Error Value) : EStateM Error State Value :=
  match outcome with
  | .ok value => pure value
  | .error error => throw error

theorem ensures_mono {program : EStateM Error State Value} {start : State}
    {returns returns' : Value → State → Prop} {raises raises' : Error → State → Prop}
    (spec : Ensures program start returns raises)
    (onReturn : ∀ value final, returns value final → returns' value final)
    (onRaise : ∀ error final, raises error final → raises' error final) :
    Ensures program start returns' raises' := by
  unfold Ensures at spec ⊢
  cases run : program start with
  | ok value final =>
      rw [run] at spec
      exact onReturn value final spec
  | error error final =>
      rw [run] at spec
      exact onRaise error final spec

theorem ensures_pure (value : Value) (start : State)
    (returns : Value → State → Prop) (raises : Error → State → Prop) :
    Ensures (pure value) start returns raises ↔ returns value start := Iff.rfl

theorem ensures_throw (error : Error) (start : State)
    (returns : Value → State → Prop) (raises : Error → State → Prop) :
    Ensures (throw error) start returns raises ↔ raises error start := Iff.rfl

theorem ensures_get (start : State)
    (returns : State → State → Prop) (raises : Error → State → Prop) :
    Ensures get start returns raises ↔ returns start start := Iff.rfl

theorem ensures_modify (change : State → State) (start : State)
    (returns : PUnit → State → Prop) (raises : Error → State → Prop) :
    Ensures (modify change) start returns raises ↔ returns ⟨⟩ (change start) := Iff.rfl

theorem ensures_bind (first : EStateM Error State Value)
    (next : Value → EStateM Error State Next) (start : State)
    (returns : Next → State → Prop) (raises : Error → State → Prop) :
    Ensures (first >>= next) start returns raises ↔
      Ensures first start (fun value middle => Ensures (next value) middle returns raises)
        raises := by
  change Ensures (EStateM.bind first next) start returns raises ↔ _
  unfold Ensures EStateM.bind
  cases first start <;> rfl

theorem ensures_ite (condition : Prop) [Decidable condition]
    (yes no : EStateM Error State Value) (start : State)
    (returns : Value → State → Prop) (raises : Error → State → Prop) :
    Ensures (if condition then yes else no) start returns raises ↔
      (condition → Ensures yes start returns raises) ∧
        (¬condition → Ensures no start returns raises) := by
  split_ifs with holds <;> simp [holds]

theorem ensures_fromOutcome (outcome : Except Error Value) (start : State)
    (returns : Value → State → Prop) (raises : Error → State → Prop) :
    Ensures (fromOutcome outcome) start returns raises ↔
      (∀ value, outcome = .ok value → returns value start) ∧
        (∀ error, outcome = .error error → raises error start) := by
  cases outcome with
  | ok value => simp [fromOutcome, ensures_pure]
  | error error => simp [fromOutcome, ensures_throw]

theorem ensures_catching (select : Error → Option Caught)
    (program : EStateM Error State Value) (start : State)
    (returns : Except Caught Value → State → Prop) (raises : Error → State → Prop) :
    Ensures (catching select program) start returns raises ↔
      Ensures program start (fun value final => returns (.ok value) final)
        (fun error final =>
          (∀ caught, select error = some caught → returns (.error caught) final) ∧
            (select error = none → raises error final)) := by
  unfold Ensures catching
  cases program start with
  | ok value final => rfl
  | error error final => cases selected : select error <;> simp [selected]

theorem ensures_exit {program : EStateM Error State Value} {start : State}
    {returns : Value → State → Prop} {raises : Error → State → Prop}
    (spec : Ensures program start returns raises) :
    (∃ value final, returns value final) ∨ ∃ error final, raises error final := by
  unfold Ensures at spec
  cases run : program start with
  | ok value final =>
      rw [run] at spec
      exact Or.inl ⟨value, final, spec⟩
  | error error final =>
      rw [run] at spec
      exact Or.inr ⟨error, final, spec⟩

theorem ensures_and {program : EStateM Error State Value} {start : State}
    {returns returns' : Value → State → Prop} {raises raises' : Error → State → Prop}
    (left : Ensures program start returns raises)
    (right : Ensures program start returns' raises') :
    Ensures program start (fun value final => returns value final ∧ returns' value final)
      (fun error final => raises error final ∧ raises' error final) := by
  unfold Ensures at left right ⊢
  cases run : program start <;> rw [run] at left right <;> exact ⟨left, right⟩

def guarded (catches : Error → Bool) (fallback : Error → Value) (body : Except Error Value) :
    Except Error Value :=
  match body with
  | .ok value => .ok value
  | .error error => if catches error then .ok (fallback error) else .error error

theorem guarded_returns_iff (catches : Error → Bool) (fallback : Error → Value)
    (body : Except Error Value) :
    (∃ value, guarded catches fallback body = .ok value) ↔
      ∀ error, body = .error error → catches error = true := by
  cases body with
  | ok value => exact iff_of_true ⟨value, rfl⟩ nofun
  | error error =>
      simp only [guarded, Except.error.injEq, forall_eq']
      by_cases caught : catches error = true
      · rw [if_pos caught]
        exact iff_of_true ⟨_, rfl⟩ caught
      · rw [if_neg caught]
        exact iff_of_false nofun caught

theorem bind_eq_ok (first : Except Error Value) (next : Value → Except Error Next) (result : Next) :
    first >>= next = .ok result ↔ ∃ value, first = .ok value ∧ next value = .ok result := by
  cases first with
  | ok value => simp [bind, Except.bind]
  | error error => simp [bind, Except.bind]

theorem bind_eq_error (first : Except Error Value) (next : Value → Except Error Next)
    (error : Error) :
    first >>= next = .error error ↔
      first = .error error ∨ ∃ value, first = .ok value ∧ next value = .error error := by
  cases first with
  | ok value => simp [bind, Except.bind]
  | error error => simp [bind, Except.bind]

theorem bind_returns (first : Except Error Value) (next : Value → Except Error Next)
    (returns : ∃ value, first = .ok value) (continues : ∀ value, ∃ result, next value = .ok result) :
    ∃ result, first >>= next = .ok result := by
  rcases returns with ⟨value, returned⟩
  rcases continues value with ⟨result, continued⟩
  exact ⟨result, (bind_eq_ok first next result).mpr ⟨value, returned, continued⟩⟩

theorem bind_returns_iff (first : Except Error Value) (next : Value → Except Error Next) :
    (∃ result, first >>= next = .ok result) ↔
      ∃ value, first = .ok value ∧ ∃ result, next value = .ok result := by
  simp only [bind_eq_ok]
  exact ⟨fun ⟨result, value, both⟩ => ⟨value, both.1, result, both.2⟩,
    fun ⟨value, returned, result, continued⟩ => ⟨result, value, returned, continued⟩⟩

theorem mapM_returns (body : Value → Except Error Next)
    (returns : ∀ item, ∃ result, body item = .ok result) (items : List Value) :
    ∃ results, items.mapM body = .ok results := by
  induction items with
  | nil => exact ⟨[], rfl⟩
  | cons item rest ih =>
      rw [List.mapM_cons]
      apply bind_returns _ _ (returns item)
      intro result
      apply bind_returns _ _ ih
      intro results
      exact ⟨result :: results, rfl⟩

theorem mapM_ok_forall₂ (body : Value → Except Error Next) (items : List Value)
    (results : List Next) (returned : items.mapM body = .ok results) :
    List.Forall₂ (fun item result => body item = .ok result) items results := by
  induction items generalizing results with
  | nil =>
      cases returned
      exact List.Forall₂.nil
  | cons item rest ih =>
      rw [List.mapM_cons, bind_eq_ok] at returned
      rcases returned with ⟨result, first, returned⟩
      rw [bind_eq_ok] at returned
      rcases returned with ⟨others, later, same⟩
      cases same
      exact List.Forall₂.cons first (ih others later)

theorem mapM_ok_member (body : Value → Except Error Next) (items : List Value)
    (results : List Next) (returned : items.mapM body = .ok results) (result : Next)
    (member : result ∈ results) : ∃ item ∈ items, body item = .ok result := by
  have each := mapM_ok_forall₂ body items results returned
  clear returned
  induction each with
  | nil => exact absurd member List.not_mem_nil
  | @cons item first rest others made later ih =>
      rcases List.mem_cons.mp member with rfl | inRest
      · exact ⟨item, List.mem_cons_self, made⟩
      · obtain ⟨other, inItems, same⟩ := ih inRest
        exact ⟨other, List.mem_cons_of_mem item inItems, same⟩

end AtlasMindNetra.EffectRules
