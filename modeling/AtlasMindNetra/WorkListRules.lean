import Mathlib.Data.List.Nodup

/-!
# Working through a list with retries

Attempts are made at the items of a list. An attempt with a result completes
its item and makes the next one current; an attempt without a result leaves
its item current. `Progress` relates the attempts made so far to the position
of the current item.
-/

namespace AtlasMindNetra.WorkListRules

set_option autoImplicit false

variable {Item Attempt Result : Type}
variable (item : Attempt → Item) (result : Attempt → Option Result)

inductive Progress (items : List Item) : List Attempt → Nat → Prop
  | start : Progress items [] 0
  | retry (attempts : List Attempt) (index : Nat) (attempt : Attempt)
      (before : Progress items attempts index)
      (current : items[index]? = some (item attempt))
      (unfinished : result attempt = none) :
      Progress items (attempts ++ [attempt]) index
  | complete (attempts : List Attempt) (index : Nat) (attempt : Attempt) (value : Result)
      (before : Progress items attempts index)
      (current : items[index]? = some (item attempt))
      (finished : result attempt = some value) :
      Progress items (attempts ++ [attempt]) (index + 1)

/-- The completed items with their results, in the order of the attempts. -/
def completions (attempts : List Attempt) : List (Item × Result) :=
  attempts.filterMap fun attempt => (result attempt).map fun value => (item attempt, value)

/-- The two attempts are at items in list order, and a completed item is not
attempted again. -/
def InTurn (items : List Item) (earlier later : Attempt) : Prop :=
  ∃ first second : Nat, items[first]? = some (item earlier) ∧ items[second]? = some (item later) ∧
    first ≤ second ∧ ∀ value, result earlier = some value → first < second

theorem completions_append (attempts more : List Attempt) :
    completions item result (attempts ++ more) =
      completions item result attempts ++ completions item result more :=
  List.filterMap_append

theorem mem_completions (attempts : List Attempt) (entry : Item × Result) :
    entry ∈ completions item result attempts ↔
      ∃ attempt ∈ attempts, item attempt = entry.1 ∧ result attempt = some entry.2 := by
  rw [completions, List.mem_filterMap]
  apply exists_congr
  intro attempt
  apply and_congr_right
  intro _
  cases entry with
  | mk done value =>
      rw [Option.map_eq_some_iff]
      constructor
      · intro found
        rcases found with ⟨other, finished, same⟩
        cases same
        exact ⟨rfl, finished⟩
      · intro found
        rcases found with ⟨rfl, finished⟩
        exact ⟨value, finished, rfl⟩

section Rules

variable {item result} {items : List Item} {attempts : List Attempt} {index : Nat}

/-- Every attempt was at an item up to the current one, and no attempt at the
current one has a result. -/
theorem progress_position
    (progress : Progress item result items attempts index)
    (attempt : Attempt)
    (made : attempt ∈ attempts) :
    ∃ position : Nat, items[position]? = some (item attempt) ∧ position ≤ index ∧
      ∀ value, result attempt = some value → position < index := by
  induction progress with
  | start => cases made
  | retry attempts index last before current unfinished ih =>
      rcases List.mem_append.mp made with earlier | now
      · exact ih earlier
      · have same : attempt = last := List.mem_singleton.mp now
        subst same
        refine ⟨index, current, Nat.le_refl index, ?_⟩
        intro value finished
        rw [unfinished] at finished
        cases finished
  | complete attempts index last value before current finished ih =>
      rcases List.mem_append.mp made with earlier | now
      · rcases ih earlier with ⟨position, found, behind, apart⟩
        refine ⟨position, found, by omega, ?_⟩
        intro other done
        have strict := apart other done
        omega
      · have same : attempt = last := List.mem_singleton.mp now
        subst same
        refine ⟨index, current, by omega, ?_⟩
        intro _ _
        omega

theorem in_turn_with_current
    (progress : Progress item result items attempts index)
    (last : Attempt)
    (current : items[index]? = some (item last)) :
    ∀ attempt ∈ attempts, InTurn item result items attempt last := by
  intro attempt made
  rcases progress_position progress attempt made with ⟨position, found, behind, apart⟩
  exact ⟨position, index, found, current, behind, apart⟩

theorem pairwise_snoc
    {related : Attempt → Attempt → Prop}
    (last : Attempt)
    (ordered : attempts.Pairwise related)
    (after : ∀ attempt ∈ attempts, related attempt last) :
    (attempts ++ [last]).Pairwise related := by
  apply List.pairwise_append.mpr
  refine ⟨ordered, List.pairwise_singleton related last, ?_⟩
  intro attempt made other member
  rw [List.mem_singleton.mp member]
  exact after attempt made

theorem progress_in_turn
    (progress : Progress item result items attempts index) :
    attempts.Pairwise (InTurn item result items) := by
  induction progress with
  | start => exact List.Pairwise.nil
  | retry attempts index last before current unfinished ih =>
      apply pairwise_snoc last ih
      exact in_turn_with_current before last current
  | complete attempts index last value before current finished ih =>
      apply pairwise_snoc last ih
      exact in_turn_with_current before last current

theorem progress_completions
    (progress : Progress item result items attempts index) :
    (completions item result attempts).map Prod.fst = items.take index := by
  induction progress with
  | start => rfl
  | retry attempts index last before current unfinished ih =>
      rw [completions_append, List.map_append, ih]
      simp [completions, unfinished]
  | complete attempts index last value before current finished ih =>
      rw [completions_append, List.map_append, ih, List.take_add_one, current]
      simp [completions, finished]

theorem progress_extend
    (progress : Progress item result items attempts index)
    (more : List Attempt)
    (inOrder : more.map item = (items.drop index).take more.length)
    (complete : ∀ attempt ∈ more, ∃ value, result attempt = some value) :
    Progress item result items (attempts ++ more) (index + more.length) := by
  induction more generalizing attempts index with
  | nil =>
      rw [List.append_nil]
      exact progress
  | cons first rest ih =>
      rcases complete first List.mem_cons_self with ⟨value, finished⟩
      have current : items[index]? = some (item first) := by
        have head := congrArg List.head? inOrder
        rw [List.map_cons, List.length_cons, List.head?_cons, List.head?_take,
          if_neg (Nat.succ_ne_zero _), List.head?_drop] at head
        exact head.symm
      have later : rest.map item = (items.drop (index + 1)).take rest.length := by
        have tail := congrArg List.tail inOrder
        rw [List.map_cons, List.tail_cons, List.length_cons, ← List.drop_one, List.drop_take,
          List.drop_drop, Nat.add_sub_cancel] at tail
        exact tail
      have next := ih (Progress.complete attempts index first value progress current finished)
        later fun attempt member => complete attempt (List.mem_cons_of_mem _ member)
      rw [List.append_assoc] at next
      rw [List.length_cons, Nat.add_comm rest.length, ← Nat.add_assoc]
      exact next

end Rules

end AtlasMindNetra.WorkListRules
