import AtlasMindNetra.OrderedDict
import AtlasMindNetra.EffectRules

/-!
# Two programs side by side

One program follows another when, from related states, it returns a related
value in a related state wherever the other returns at all. Where the other
raises nothing is said. Two programs match when both return the same value, or
both raise the same error, and end in related states, which may be of different
types. The rules follow the structure of programs over `EStateM`, and two
dictionaries are alike when they have the same keys in the same order and
related values.
-/

namespace AtlasMindNetra.FollowRules

open AtlasMindNetra.EffectRules

set_option autoImplicit false

section Programs

variable {Error State Value Other Next OtherNext : Type}

def Follows (related : State → State → Prop) (alike : Value → Other → Prop)
    (program : EStateM Error State Value) (follower : EStateM Error State Other) : Prop :=
  ∀ start start', related start start' → ∀ value final, program start = .ok value final →
    ∃ value' final', follower start' = .ok value' final' ∧ related final final' ∧
      alike value value'

variable {related : State → State → Prop} {alike : Value → Other → Prop}

theorem follows_iff_ensures {program : EStateM Error State Value}
    {follower : EStateM Error State Other} :
    Follows related alike program follower ↔
      ∀ start start', related start start' →
        Ensures program start
          (fun value final => Ensures follower start'
            (fun value' final' => related final final' ∧ alike value value') (fun _ _ => False))
          (fun _ _ => True) := by
  unfold Follows Ensures
  apply forall_congr'
  intro start
  apply forall_congr'
  intro start'
  apply imp_congr_right
  intro _
  cases program start with
  | error error final => simp
  | ok value final => cases follower start' <;> simp

theorem follows_same (program : EStateM Error State Value) :
    Follows Eq Eq program program := by
  rintro start _ rfl value final returned
  exact ⟨value, final, returned, rfl, rfl⟩

theorem follows_pure (value : Value) (value' : Other) (same : alike value value') :
    Follows related alike (pure value : EStateM Error State Value) (pure value') := by
  intro start start' states result final returned
  cases returned
  exact ⟨value', start', rfl, states, same⟩

theorem follows_throw (error : Error) (follower : EStateM Error State Other) :
    Follows related alike (throw error : EStateM Error State Value) follower := by
  intro start start' states result final returned
  cases returned

theorem follows_bind {alikeNext : Next → OtherNext → Prop}
    {program : EStateM Error State Value} {follower : EStateM Error State Other}
    {next : Value → EStateM Error State Next} {next' : Other → EStateM Error State OtherNext}
    (first : Follows related alike program follower)
    (later : ∀ value value', alike value value' →
      Follows related alikeNext (next value) (next' value')) :
    Follows related alikeNext (program >>= next) (follower >>= next') := by
  intro start start' states result final returned
  change EStateM.bind program next start = _ at returned
  change ∃ result' final', EStateM.bind follower next' start' = _ ∧ _
  unfold EStateM.bind at returned ⊢
  cases ran : program start with
  | error error middle =>
      rw [ran] at returned
      cases returned
  | ok value middle =>
      rw [ran] at returned
      rcases first start start' states value middle ran with ⟨value', middle', ran', between, same⟩
      rw [ran']
      exact later value value' same middle middle' between result final returned

theorem follows_modify (change change' : State → State)
    (keeps : ∀ start start', related start start' → related (change start) (change' start')) :
    Follows related Eq (modify change : EStateM Error State PUnit) (modify change') := by
  intro start start' states result final returned
  cases returned
  exact ⟨_, _, rfl, keeps start start' states, rfl⟩

theorem mapM_follows {Item : Type} {body : Item → Except Error Value}
    {body' : Item → Except Error Other}
    (each : ∀ item result, body item = .ok result →
      ∃ result', body' item = .ok result' ∧ alike result result')
    (items : List Item) (results : List Value) (returned : items.mapM body = .ok results) :
    ∃ results', items.mapM body' = .ok results' ∧ List.Forall₂ alike results results' := by
  induction items generalizing results with
  | nil =>
      cases returned
      exact ⟨[], rfl, .nil⟩
  | cons item rest ih =>
      rw [List.mapM_cons, bind_eq_ok] at returned
      rcases returned with ⟨result, first, returned⟩
      rw [bind_eq_ok] at returned
      rcases returned with ⟨others, later, same⟩
      cases same
      rcases each item result first with ⟨result', first', alikeFirst⟩
      rcases ih others later with ⟨others', later', alikeOthers⟩
      apply Exists.intro (result' :: others')
      rw [List.mapM_cons, bind_eq_ok]
      constructor
      · exact ⟨result', first', (bind_eq_ok _ _ _).mpr ⟨others', later', rfl⟩⟩
      · exact .cons alikeFirst alikeOthers

end Programs

section Matching

variable {Error State Mirror Value Next Caught : Type}

def Matches (related : State → Mirror → Prop) (program : EStateM Error State Value)
    (other : EStateM Error Mirror Value) (start : State) (start' : Mirror) : Prop :=
  match program start, other start' with
  | .ok value final, .ok value' final' => value = value' ∧ related final final'
  | .error error final, .error error' final' => error = error' ∧ related final final'
  | _, _ => False

variable {related : State → Mirror → Prop}

theorem matches_mono {related' : State → Mirror → Prop} {program : EStateM Error State Value}
    {other : EStateM Error Mirror Value} {start : State} {start' : Mirror}
    (first : Matches related program other start start')
    (follows : ∀ final final', related final final' → related' final final') :
    Matches related' program other start start' := by
  unfold Matches at first ⊢
  cases ran : program start <;> cases ran' : other start' <;> rw [ran, ran'] at first
  · exact ⟨first.1, follows _ _ first.2⟩
  · exact first
  · exact first
  · exact ⟨first.1, follows _ _ first.2⟩

theorem matches_pure (value : Value) (start : State) (start' : Mirror)
    (states : related start start') :
    Matches related (pure value : EStateM Error State Value) (pure value) start start' :=
  ⟨rfl, states⟩

theorem matches_throw (error : Error) (start : State) (start' : Mirror)
    (states : related start start') :
    Matches related (throw error : EStateM Error State Value) (throw error) start start' :=
  ⟨rfl, states⟩

theorem matches_outcome (outcome : Except Error Value) (start : State) (start' : Mirror)
    (states : related start start') :
    Matches related (fromOutcome outcome) (fromOutcome outcome) start start' := by
  cases outcome with
  | ok value => exact matches_pure value start start' states
  | error error => exact matches_throw error start start' states

theorem matches_bind {program : EStateM Error State Value} {other : EStateM Error Mirror Value}
    {next : Value → EStateM Error State Next} {next' : Value → EStateM Error Mirror Next}
    {start : State} {start' : Mirror} (first : Matches related program other start start')
    (later : ∀ value middle middle', related middle middle' →
      Matches related (next value) (next' value) middle middle') :
    Matches related (program >>= next) (other >>= next') start start' := by
  change Matches related (EStateM.bind program next) (EStateM.bind other next') start start'
  unfold Matches EStateM.bind
  unfold Matches at first
  cases ran : program start with
  | ok value middle =>
      cases ran' : other start' with
      | ok value' middle' =>
          rw [ran, ran'] at first
          rcases first with ⟨rfl, between⟩
          exact later value middle middle' between
      | error error' middle' =>
          rw [ran, ran'] at first
          exact first.elim
  | error error middle =>
      cases ran' : other start' with
      | ok value' middle' =>
          rw [ran, ran'] at first
          exact first.elim
      | error error' middle' =>
          rw [ran, ran'] at first
          exact first

theorem matches_catching (select : Error → Option Caught) {program : EStateM Error State Value}
    {other : EStateM Error Mirror Value} {start : State} {start' : Mirror}
    (first : Matches related program other start start') :
    Matches related (catching select program) (catching select other) start start' := by
  unfold Matches catching
  unfold Matches at first
  cases ran : program start with
  | ok value middle =>
      cases ran' : other start' with
      | ok value' middle' =>
          rw [ran, ran'] at first
          rcases first with ⟨rfl, between⟩
          exact ⟨rfl, between⟩
      | error error' middle' =>
          rw [ran, ran'] at first
          exact first.elim
  | error error middle =>
      cases ran' : other start' with
      | ok value' middle' =>
          rw [ran, ran'] at first
          exact first.elim
      | error error' middle' =>
          rw [ran, ran'] at first
          rcases first with ⟨rfl, between⟩
          cases chosen : select error with
          | some caught => simp [chosen, between]
          | none => simp [chosen, between]

end Matching

section Dictionaries

variable {Key Value : Type}

def AlikeEntries (same : Value → Value → Prop) : List (Key × Value) → List (Key × Value) → Prop :=
  List.Forall₂ fun entry entry' => entry.1 = entry'.1 ∧ same entry.2 entry'.2

def AlikeDicts (same : Value → Value → Prop) (dict dict' : OrderedDict Key Value) : Prop :=
  AlikeEntries same dict.entries dict'.entries

variable {same : Value → Value → Prop}

theorem alike_dicts_refl (reflexive : ∀ value, same value value) (dict : OrderedDict Key Value) :
    AlikeDicts same dict dict := by
  apply List.forall₂_same.mpr
  intro entry _
  exact ⟨rfl, reflexive entry.2⟩

theorem alike_values (dict dict' : OrderedDict Key Value) (dicts : AlikeDicts same dict dict') :
    List.Forall₂ same dict.values dict'.values := by
  apply List.forall₂_map_left_iff.mpr
  apply List.forall₂_map_right_iff.mpr
  exact dicts.imp fun entry entry' => And.right

variable [DecidableEq Key]

theorem alike_assign (key : Key) (value value' : Value) (alike : same value value')
    (entries entries' : List (Key × Value)) (dicts : AlikeEntries same entries entries') :
    AlikeEntries same (OrderedDict.assign key value entries)
      (OrderedDict.assign key value' entries') := by
  induction dicts with
  | nil => exact .cons ⟨rfl, alike⟩ .nil
  | cons head rest ih =>
      rename_i entry entry' others others'
      unfold OrderedDict.assign
      rw [← head.1]
      split_ifs
      · exact .cons ⟨rfl, alike⟩ rest
      · exact .cons head ih

theorem alike_set (dict dict' : OrderedDict Key Value) (dicts : AlikeDicts same dict dict')
    (key : Key) (value value' : Value) (alike : same value value') :
    AlikeDicts same (dict.set key value) (dict'.set key value') :=
  alike_assign key value value' alike dict.entries dict'.entries dicts

theorem alike_lookup (key : Key) (entries entries' : List (Key × Value))
    (dicts : AlikeEntries same entries entries') :
    (entries.lookup key = none ∧ entries'.lookup key = none) ∨
      ∃ value value', entries.lookup key = some value ∧ entries'.lookup key = some value' ∧
        same value value' := by
  induction dicts with
  | nil => exact Or.inl ⟨rfl, rfl⟩
  | cons head rest ih =>
      rename_i entry entry' others others'
      rw [OrderedDict.lookup_entry, OrderedDict.lookup_entry, ← head.1]
      split_ifs
      · exact Or.inr ⟨entry.2, entry'.2, rfl, rfl, head.2⟩
      · exact ih

theorem alike_get (dict dict' : OrderedDict Key Value) (dicts : AlikeDicts same dict dict')
    (key : Key) :
    (dict.get? key = none ∧ dict'.get? key = none) ∨
      ∃ value value', dict.get? key = some value ∧ dict'.get? key = some value' ∧
        same value value' :=
  alike_lookup key dict.entries dict'.entries dicts

end Dictionaries

end AtlasMindNetra.FollowRules
