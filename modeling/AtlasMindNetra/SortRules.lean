import Mathlib.Data.List.Sort
import Mathlib.Data.List.Perm.Subperm
import Mathlib.Tactic.SplitIfs

/-!
# Rules for stable sorting

A stable sort keeps equal items in the order given. What it keeps of a group of
items is therefore the sorted group, and an item that is raised alone passes
others without changing their order.
-/

namespace AtlasMindNetra.SortRules

set_option autoImplicit false

universe u

section Stable

variable {Item : Type u} (before : Item → Item → Prop) [DecidableRel before]

theorem filter_ordered_insert
    [IsTrans Item before]
    (keep : Item → Bool)
    (item : Item)
    (items : List Item)
    (ordered : items.Pairwise before) :
    (items.orderedInsert before item).filter keep =
      if keep item then (items.filter keep).orderedInsert before item
      else items.filter keep := by
  induction items with
  | nil => cases kept : keep item <;> simp [kept]
  | cons head tail ih =>
      rw [List.pairwise_cons] at ordered
      have later := ih ordered.2
      by_cases first : before item head
      · rw [List.orderedInsert_cons_of_le before tail first, List.filter_cons]
        cases kept : keep item with
        | false => simp
        | true =>
            simp only [if_true]
            -- The item precedes all of the tail, and so what is kept of it.
            have ahead : ∀ other ∈ (head :: tail).filter keep, before item other := by
              intro other member
              rcases List.mem_cons.mp (List.mem_of_mem_filter member) with rfl | inTail
              · exact first
              · exact trans_of before first (ordered.1 other inTail)
            cases shown : (head :: tail).filter keep with
            | nil => rfl
            | cons next others =>
                rw [shown] at ahead
                rw [List.orderedInsert_cons_of_le before others (ahead next List.mem_cons_self)]
      · rw [List.orderedInsert_of_not_le before tail first, List.filter_cons, later,
          List.filter_cons]
        cases kept : keep item with
        | false => simp
        | true =>
            cases shown : keep head with
            | false => simp
            | true =>
                simp only [if_true]
                rw [List.orderedInsert_of_not_le before _ first]

/-- Sorting is stable, so what is kept of a sorted list is the sorted list of
what is kept. -/
theorem filter_insertion_sort
    [IsTrans Item before]
    [Std.Total before]
    (keep : Item → Bool)
    (items : List Item) :
    (items.insertionSort before).filter keep = (items.filter keep).insertionSort before := by
  induction items with
  | nil => rfl
  | cons item rest ih =>
      rw [List.insertionSort_cons,
        filter_ordered_insert before keep item _ (List.pairwise_insertionSort before rest), ih,
        List.filter_cons]
      split_ifs <;> rfl

theorem stable_insert
    [IsTrans Item before]
    [Std.Total before]
    (earlier : Item → Item → Prop)
    (item : Item)
    (items : List Item)
    (first : ∀ other ∈ items, earlier item other)
    (stable : items.Pairwise fun one other =>
      before one other ∧ (before other one → earlier one other)) :
    (items.orderedInsert before item).Pairwise fun one other =>
      before one other ∧ (before other one → earlier one other) := by
  induction items with
  | nil => exact List.pairwise_singleton _ item
  | cons head tail ih =>
      rw [List.forall_mem_cons] at first
      rw [List.pairwise_cons] at stable
      by_cases ahead : before item head
      · rw [List.orderedInsert_cons_of_le before tail ahead, List.pairwise_cons, List.pairwise_cons]
        refine ⟨?_, stable⟩
        intro other member
        rcases List.mem_cons.mp member with rfl | inTail
        · exact ⟨ahead, fun _ => first.1⟩
        · exact ⟨trans_of before ahead (stable.1 other inTail).1, fun _ => first.2 other inTail⟩
      · rw [List.orderedInsert_of_not_le before tail ahead, List.pairwise_cons]
        refine ⟨?_, ih first.2 stable.2⟩
        intro other member
        rcases (List.mem_orderedInsert before).mp member with rfl | inTail
        · have behind : before head other := (total_of before other head).resolve_left ahead
          exact ⟨behind, fun same => absurd same ahead⟩
        · exact stable.1 other inTail

theorem stable_sort
    [IsTrans Item before]
    [Std.Total before]
    (earlier : Item → Item → Prop)
    (items : List Item)
    (given : items.Pairwise earlier) :
    (items.insertionSort before).Pairwise fun one other =>
      before one other ∧ (before other one → earlier one other) := by
  induction items with
  | nil => exact List.Pairwise.nil
  | cons item rest ih =>
      rw [List.pairwise_cons] at given
      rw [List.insertionSort_cons]
      apply stable_insert before earlier item _ _ (ih given.2)
      intro other member
      exact given.1 other ((List.mem_insertionSort before).mp member)

theorem insertion_sort_agree
    (after : Item → Item → Prop)
    [DecidableRel after]
    (items : List Item)
    (agree : ∀ one ∈ items, ∀ other ∈ items, before one other ↔ after one other) :
    items.insertionSort before = items.insertionSort after := by
  have sorted := List.map_insertionSort before after id items agree
  rwa [List.map_id, List.map_id] at sorted

end Stable

section Raised

variable {Item : Type u} (earlier : Item → Item → Prop)

/-- Higher scores first, and equal scores in the order given. -/
def Ranked (score : Item → Int) (order : List Item) : Prop :=
  order.Pairwise fun one other =>
    score other ≤ score one ∧ (score one = score other → earlier one other)

theorem ranked_sort
    (score : Item → Int)
    (items : List Item)
    (given : items.Pairwise earlier) :
    Ranked earlier score (items.insertionSort fun one other => score other ≤ score one) := by
  have trans : IsTrans Item fun one other => score other ≤ score one :=
    ⟨fun _ _ _ first second => le_trans second first⟩
  have total : Std.Total fun one other : Item => score other ≤ score one :=
    ⟨fun one other => le_total (score other) (score one)⟩
  apply (stable_sort (fun one other => score other ≤ score one) earlier items given).imp
  intro one other stable
  exact ⟨stable.1, fun same => stable.2 (le_of_eq same)⟩

variable [DecidableEq Item]

theorem position_of_split
    (front back : List Item)
    (item : Item)
    (absent : item ∉ front) : (front ++ item :: back).idxOf item = front.length := by
  rw [List.idxOf_append_of_notMem absent, List.idxOf_cons_self, Nat.add_zero]

/-- If the score of one item alone is raised, the item does not come later. -/
theorem raised_not_later
    (asymmetric : ∀ one other, earlier one other → ¬ earlier other one)
    (score raised : Item → Int)
    (item : Item)
    (others : ∀ other, other ≠ item → raised other = score other)
    (more : score item ≤ raised item)
    (order next : List Item)
    (same : List.Perm order next)
    (distinct : order.Nodup)
    (ranked : Ranked earlier score order)
    (nextRanked : Ranked earlier raised next)
    (member : item ∈ order) : next.idxOf item ≤ order.idxOf item := by
  have nextDistinct := same.nodup_iff.mp distinct
  rcases List.append_of_mem member with ⟨front, back, rfl⟩
  rcases List.append_of_mem (same.mem_iff.mp member) with ⟨nextFront, nextBack, rfl⟩
  have absent : item ∉ front := fun here =>
    (List.nodup_append.mp distinct).2.2 item here item List.mem_cons_self rfl
  have nextAbsent : item ∉ nextFront := fun here =>
    (List.nodup_append.mp nextDistinct).2.2 item here item List.mem_cons_self rfl
  rw [position_of_split front back item absent,
    position_of_split nextFront nextBack item nextAbsent]
  -- Who is in front of the raised item was in front of it before.
  apply (List.subperm_of_subset (List.nodup_append.mp nextDistinct).1 _).length_le
  intro other inFront
  have apart : other ≠ item := fun equal => nextAbsent (equal ▸ inFront)
  have above := (List.pairwise_append.mp nextRanked).2.2 other inFront item List.mem_cons_self
  rw [others other apart] at above
  rcases List.mem_append.mp (same.mem_iff.mpr (List.mem_append_left _ inFront)) with here | behind
  · exact here
  · rcases List.mem_cons.mp behind with equal | inBack
    · exact absurd equal apart
    · have below := (List.pairwise_cons.mp (List.pairwise_append.mp ranked).2.1).1 other inBack
      have level : score item = score other := by omega
      exact absurd (above.2 (by omega)) (asymmetric item other (below.2 level))

theorem raised_keeps_others
    (score raised : Item → Int)
    (item : Item)
    (others : ∀ other, other ≠ item → raised other = score other)
    (items : List Item) :
    (items.insertionSort fun one other => raised other ≤ raised one).filter (· ≠ item) =
      (items.insertionSort fun one other => score other ≤ score one).filter (· ≠ item) := by
  have trans : ∀ points : Item → Int, IsTrans Item fun one other => points other ≤ points one :=
    fun points => ⟨fun _ _ _ first second => le_trans second first⟩
  have total : ∀ points : Item → Int, Std.Total fun one other => points other ≤ points one :=
    fun points => ⟨fun one other => le_total (points other) (points one)⟩
  rw [filter_insertion_sort, filter_insertion_sort]
  apply insertion_sort_agree
  intro one inItems other inOthers
  have first := others one (by simpa using (List.mem_filter.mp inItems).2)
  have second := others other (by simpa using (List.mem_filter.mp inOthers).2)
  rw [first, second]

end Raised

end AtlasMindNetra.SortRules
