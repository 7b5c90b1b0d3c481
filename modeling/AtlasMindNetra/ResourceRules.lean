import Mathlib.Data.List.Perm.Basic
import Mathlib.Data.List.Nodup
import Mathlib.Tactic.SplitIfs

/-!
# Resources held by tasks

Tasks take resources and give them back: locks, which one task holds at a time,
and the slots of a semaphore, of which there is a fixed number. The tables of
what is taken are in order when they agree with what each task holds where it
stands. A task that changes its place changes the tables by what it takes or
gives back.
-/

namespace AtlasMindNetra.ResourceRules

set_option autoImplicit false

variable {Task Resource : Type}

/-- The resources taken are those that the tasks hold. -/
def Accounted (held : Task → List Resource) (tasks : List Task) (taken : List Resource) : Prop :=
  taken.Perm (tasks.flatMap held)

/-- With the resources that the tasks hold, the free slots make up the capacity. -/
def Counted (held : Task → List Resource) (tasks : List Task) (free capacity : Nat) : Prop :=
  free + (tasks.flatMap held).length = capacity

variable {held : Task → List Resource} {tasks : List Task} {taken : List Resource}

theorem held_of_set
    (held : Task → List Resource)
    (tasks : List Task)
    (index : Nat)
    (old new : Task)
    (atIndex : tasks[index]? = some old) :
    (held old ++ (tasks.set index new).flatMap held).Perm (held new ++ tasks.flatMap held) := by
  induction tasks generalizing index with
  | nil => simp at atIndex
  | cons task rest ih =>
      cases index with
      | zero =>
          rw [List.getElem?_cons_zero, Option.some.injEq] at atIndex
          subst atIndex
          rw [List.set_cons_zero, List.flatMap_cons, List.flatMap_cons]
          exact List.perm_append_comm_assoc _ _ _
      | succ index =>
          rw [List.getElem?_cons_succ] at atIndex
          rw [List.set_cons_succ, List.flatMap_cons, List.flatMap_cons]
          have swapped := List.perm_append_comm_assoc (held old) (held task)
            ((rest.set index new).flatMap held)
          have changed := (ih index atIndex).append_left (held task)
          exact (swapped.trans changed).trans (List.perm_append_comm_assoc _ _ _)

theorem held_of_set_same
    (held : Task → List Resource)
    (tasks : List Task)
    (index : Nat)
    (old new : Task)
    (atIndex : tasks[index]? = some old)
    (same : held new = held old) : (tasks.set index new).flatMap held = tasks.flatMap held := by
  induction tasks generalizing index with
  | nil => rfl
  | cons task rest ih =>
      cases index with
      | zero =>
          rw [List.getElem?_cons_zero, Option.some.injEq] at atIndex
          rw [List.set_cons_zero, List.flatMap_cons, List.flatMap_cons, same, atIndex]
      | succ index =>
          rw [List.getElem?_cons_succ] at atIndex
          rw [List.set_cons_succ, List.flatMap_cons, List.flatMap_cons, ih index atIndex]

theorem held_of_set_only
    (held : Task → List Resource)
    (tasks : List Task)
    (index : Nat)
    (old new : Task)
    (atIndex : tasks[index]? = some old)
    (only : tasks.flatMap held = held old)
    (one : (held new).length ≤ 1) : (tasks.set index new).flatMap held = held new := by
  have changed := held_of_set held tasks index old new atIndex
  rw [only] at changed
  have left := (List.perm_append_left_iff _).mp (changed.trans List.perm_append_comm)
  cases holds : held new with
  | nil =>
      rw [holds] at left
      exact left.eq_nil
  | cons resource rest =>
      rw [holds, List.length_cons] at one
      have last : rest = [] := List.eq_nil_of_length_eq_zero (by omega)
      rw [holds, last] at left
      rw [last]
      exact List.perm_singleton.mp left

theorem count_of_set
    (counts : Task → Bool)
    (tasks : List Task)
    (index : Nat)
    (old new : Task)
    (atIndex : tasks[index]? = some old) :
    (tasks.set index new).countP counts + (if counts old then 1 else 0) =
      tasks.countP counts + if counts new then 1 else 0 := by
  rcases List.getElem?_eq_some_iff.mp atIndex with ⟨inside, same⟩
  have counted (counts' : counts old = true) : 0 < tasks.countP counts :=
    List.countP_pos_iff.mpr ⟨old, List.mem_of_getElem? atIndex, counts'⟩
  rw [List.countP_set inside, same]
  split_ifs with before
  all_goals try have present := counted before
  all_goals omega

section Locks

variable (index : Nat) (old new : Task) (resource : Resource)
variable (accounted : Accounted held tasks taken) (atIndex : tasks[index]? = some old)

include accounted

theorem accounted_begin
    (nothing : held new = []) : Accounted held (tasks ++ [new]) taken := by
  unfold Accounted
  rw [List.flatMap_append, List.flatMap_singleton, nothing, List.append_nil]
  exact accounted

theorem accounted_holder
    (taken' : resource ∈ taken) : ∃ task ∈ tasks, resource ∈ held task :=
  List.mem_flatMap.mp (accounted.mem_iff.mp taken')

theorem accounted_taken
    (task : Task)
    (member : task ∈ tasks)
    (holds : resource ∈ held task) : resource ∈ taken :=
  accounted.mem_iff.mpr (List.mem_flatMap.mpr ⟨task, member, holds⟩)

theorem accounted_nothing
    (nothing : ∀ task ∈ tasks, held task = []) : taken = [] := by
  have empty : tasks.flatMap held = [] := List.flatMap_eq_nil_iff.mpr nothing
  unfold Accounted at accounted
  rw [empty] at accounted
  exact accounted.eq_nil

theorem accounted_filter
    (counts : Task → Bool)
    (nothing : ∀ task ∈ tasks, counts task = false → held task = []) :
    Accounted held (tasks.filter counts) taken := by
  have same : (tasks.filter counts).flatMap held = tasks.flatMap held := by
    clear accounted
    induction tasks with
    | nil => rfl
    | cons task rest ih =>
        have later := ih fun other member => nothing other (List.mem_cons_of_mem _ member)
        cases counted : counts task with
        | true => rw [List.filter_cons_of_pos counted, List.flatMap_cons, List.flatMap_cons, later]
        | false =>
            have own := nothing task List.mem_cons_self counted
            rw [List.filter_cons_of_neg (by simp [counted]), later, List.flatMap_cons, own,
              List.nil_append]
  unfold Accounted
  rw [same]
  exact accounted

include atIndex

theorem accounted_keep
    (same : held new = held old) : Accounted held (tasks.set index new) taken := by
  have changed := held_of_set held tasks index old new atIndex
  rw [same, List.perm_append_left_iff] at changed
  exact accounted.trans changed.symm

theorem accounted_take
    (takes : held new = resource :: held old) :
    Accounted held (tasks.set index new) (resource :: taken) := by
  have changed := held_of_set held tasks index old new atIndex
  rw [takes, List.cons_append] at changed
  have moved := changed.trans List.perm_middle.symm
  rw [List.perm_append_left_iff] at moved
  exact (accounted.cons resource).trans moved.symm

theorem accounted_release
    [BEq Resource] [LawfulBEq Resource]
    (gives : held old = resource :: held new) :
    Accounted held (tasks.set index new) (taken.erase resource) := by
  have changed := held_of_set held tasks index old new atIndex
  rw [gives, List.cons_append] at changed
  have moved := List.perm_middle.trans changed
  rw [List.perm_append_left_iff] at moved
  have given := (accounted.trans moved.symm).erase resource
  rw [List.erase_cons_head] at given
  exact given

end Locks

/-- One task at a time holds a resource that is taken once. -/
theorem accounted_once
    [DecidableEq Resource]
    (resource : Resource)
    (accounted : Accounted held tasks taken)
    (once : taken.Nodup) : tasks.countP (fun task => resource ∈ held task) ≤ 1 := by
  have counted : (tasks.flatMap held).count resource ≤ 1 := by
    rw [← accounted.count_eq]
    exact List.nodup_iff_count_le_one.mp once resource
  apply Nat.le_trans _ counted
  clear accounted once counted
  induction tasks with
  | nil => exact Nat.le_refl 0
  | cons task rest ih =>
      rw [List.countP_cons, List.flatMap_cons, List.count_append]
      split_ifs with holds
      · have positive : 0 < (held task).count resource := by
          rw [List.count_pos_iff]
          exact of_decide_eq_true holds
        omega
      · omega

theorem only_position
    (counts : Task → Bool)
    (tasks : List Task)
    (once : tasks.countP counts ≤ 1)
    (first second : Nat)
    (left right : Task)
    (atFirst : tasks[first]? = some left)
    (atSecond : tasks[second]? = some right)
    (countsLeft : counts left = true)
    (countsRight : counts right = true) : first = second := by
  induction tasks generalizing first second with
  | nil => simp at atFirst
  | cons task rest ih =>
      have among (index : Nat) (other : Task) (atIndex : rest[index]? = some other)
          (counted : counts other = true) : 0 < rest.countP counts :=
        List.countP_pos_iff.mpr ⟨other, List.mem_of_getElem? atIndex, counted⟩
      rw [List.countP_cons] at once
      cases first with
      | zero =>
          cases second with
          | zero => rfl
          | succ second =>
              cases atFirst
              rw [if_pos countsLeft] at once
              have later := among second right atSecond countsRight
              omega
      | succ first =>
          cases second with
          | zero =>
              cases atSecond
              rw [if_pos countsRight] at once
              have later := among first left atFirst countsLeft
              omega
          | succ second =>
              rw [ih (Nat.le_of_add_right_le once) first second atFirst atSecond]

theorem accounted_unique
    [DecidableEq Resource]
    (resource : Resource)
    (accounted : Accounted held tasks taken)
    (once : taken.Nodup)
    (first second : Nat)
    (left right : Task)
    (atFirst : tasks[first]? = some left)
    (atSecond : tasks[second]? = some right)
    (holdsLeft : resource ∈ held left)
    (holdsRight : resource ∈ held right) : first = second :=
  only_position _ tasks (accounted_once resource accounted once) first second left right atFirst
    atSecond (decide_eq_true holdsLeft) (decide_eq_true holdsRight)

section Slots

variable {free capacity : Nat} (index : Nat) (old new : Task)
variable (counted : Counted held tasks free capacity) (atIndex : tasks[index]? = some old)

include counted

theorem counted_begin
    (nothing : held new = []) : Counted held (tasks ++ [new]) free capacity := by
  unfold Counted
  rw [List.flatMap_append, List.flatMap_singleton, nothing, List.append_nil]
  exact counted

theorem counted_nothing
    (nothing : ∀ task ∈ tasks, held task = []) : free = capacity := by
  unfold Counted at counted
  rw [List.flatMap_eq_nil_iff.mpr nothing] at counted
  exact counted

theorem counted_holder
    (none : free = 0)
    (positive : 1 ≤ capacity) : ∃ task ∈ tasks, held task ≠ [] := by
  by_contra nobody
  have nothing (task : Task) (member : task ∈ tasks) : held task = [] := by
    by_contra holds
    exact nobody ⟨task, member, holds⟩
  have full := counted_nothing counted nothing
  omega

include atIndex

theorem counted_set
    (free' : Nat)
    (balance : free' + (held new).length = free + (held old).length) :
    Counted held (tasks.set index new) free' capacity := by
  have changed := (held_of_set held tasks index old new atIndex).length_eq
  rw [List.length_append, List.length_append] at changed
  unfold Counted at counted ⊢
  omega

end Slots

end AtlasMindNetra.ResourceRules
