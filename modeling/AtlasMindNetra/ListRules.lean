import Mathlib.Algebra.GroupWithZero.Nat
import Mathlib.Data.List.Induction
import Mathlib.Data.List.Nodup
import Mathlib.Data.List.Perm.Subperm
import Mathlib.Tactic.SplitIfs

/-!
# Rules for lists whose items have names

What a list keeps of each name, what is left of a merge that is cut, and how
a loop over distinct names answers for each of them.
-/

namespace AtlasMindNetra.ListRules

set_option autoImplicit false

universe u v w

theorem get_concat
    {Item : Type u}
    (items : List Item)
    (last item : Item)
    (index : Nat)
    (found : (items ++ [last])[index]? = some item) :
    items[index]? = some item ∨ index = items.length ∧ item = last := by
  rcases Nat.lt_or_ge index items.length with inside | beyond
  · rw [List.getElem?_append_left inside] at found
    exact Or.inl found
  · rw [List.getElem?_append_right beyond, List.getElem?_singleton] at found
    split_ifs at found with atEnd
    exact Or.inr ⟨by omega, (Option.some.inj found).symm⟩

theorem sum_of_set
    {Item : Type u}
    (weight : Item → Nat)
    (items : List Item)
    (position : Nat)
    (old new : Item)
    (here : items[position]? = some old) :
    ((items.set position new).map weight).sum + weight old =
      (items.map weight).sum + weight new := by
  induction items generalizing position with
  | nil => cases here
  | cons head rest ih =>
      cases position with
      | zero =>
          cases here
          simp only [List.set_cons_zero, List.map_cons, List.sum_cons]
          omega
      | succ earlier =>
          have later := ih earlier here
          simp only [List.set_cons_succ, List.map_cons, List.sum_cons]
          omega

theorem labels_of_set
    {Item : Type u}
    {Label : Type v}
    (label : Item → Label)
    (items : List Item)
    (position : Nat)
    (old new : Item)
    (here : items[position]? = some old)
    (same : label new = label old) :
    (items.set position new).map label = items.map label := by
  have named : (items.map label)[position]? = some (label old) := by
    rw [List.getElem?_map, here]
    rfl
  rcases List.getElem?_eq_some_iff.mp named with ⟨bound, itself⟩
  rw [List.map_set, same, ← itself, List.set_getElem_self]

theorem get_before_concat
    {Item : Type u}
    (items : List Item)
    (last item : Item)
    (index : Nat)
    (found : items[index]? = some item) : (items ++ [last])[index]? = some item := by
  rw [List.getElem?_append_left (List.getElem?_eq_some_iff.mp found).1]
  exact found

theorem map_numbered
    {Item : Type u}
    {Result : Type v}
    (change : Item → Result)
    (items : List Item) :
    (items.zipIdx.map fun numbered => change numbered.1) = items.map change := by
  conv_rhs => rw [← List.zipIdx_map_fst 0 items, List.map_map]
  rfl

theorem pieces_flatten
    {Item : Type u}
    (size count : Nat)
    (items : List Item)
    (covers : items.length ≤ size * count) :
    ((List.range count).map fun piece => (items.drop (size * piece)).take size).flatten =
      items := by
  have upTo (bound : Nat) :
      ((List.range bound).map fun piece => (items.drop (size * piece)).take size).flatten =
        items.take (size * bound) := by
    induction bound with
    | zero => rw [Nat.mul_zero, List.take_zero, List.range_zero, List.map_nil, List.flatten_nil]
    | succ bound ih =>
        rw [List.range_succ, List.map_append, List.flatten_append, ih, List.map_singleton,
          List.flatten_singleton, Nat.mul_succ, List.take_add]
  rw [upTo, List.take_of_length_le covers]

section Mentions

variable {Name : Type u} [DecidableEq Name]

theorem erase_dups_concat
    (names : List Name)
    (name : Name) :
    (names ++ [name]).eraseDups =
      if name ∈ names then names.eraseDups else names.eraseDups ++ [name] := by
  rw [List.eraseDups_append]
  by_cases known : name ∈ names
  · simp [List.removeAll, known]
  · simp only [List.removeAll, known, if_false, List.filter_cons, List.filter_nil,
      List.elem_eq_mem, decide_false, Bool.not_false, if_true]
    rfl

theorem erase_dups_nodup (names : List Name) : names.eraseDups.Nodup := by
  induction names using List.reverseRecOn with
  | nil => exact List.nodup_nil
  | append_singleton earlier name ih =>
      rw [erase_dups_concat]
      split_ifs with known
      · exact ih
      · apply ih.append (List.nodup_singleton name)
        intro other inEarlier isName
        rw [List.mem_singleton.mp isName, List.mem_eraseDups] at inEarlier
        exact known inEarlier

end Mentions

section Named

variable {Item : Type u} {Name : Type v} {Result : Type w} [DecidableEq Name]
variable (name : Item → Name)

omit [DecidableEq Name] in
theorem position_of_name
    (items : List Item)
    (apart : (items.map name).Nodup)
    (one other : Nat)
    (first second : Item)
    (foundFirst : items[one]? = some first)
    (foundSecond : items[other]? = some second)
    (same : name first = name second) : one = other := by
  have inside : one < (items.map name).length := by
    rw [List.length_map]
    exact (List.getElem?_eq_some_iff.mp foundFirst).1
  apply (List.getElem?_inj inside apart).mp
  rw [List.getElem?_map, List.getElem?_map, foundFirst, foundSecond, Option.map_some,
    Option.map_some, same]

omit [DecidableEq Name] in
theorem name_left_out
    (items : List Item)
    (apart : (items.map name).Nodup)
    (count : Nat)
    (short : count < items.length) :
    ∃ item ∈ items, name item ∉ (items.take count).map name := by
  refine ⟨items[count], List.getElem_mem short, ?_⟩
  have parts : items.map name = (items.take count).map name ++ (items.drop count).map name := by
    rw [← List.map_append, List.take_append_drop]
  rw [parts, List.nodup_append] at apart
  intro kept
  apply apart.2.2 _ kept (name items[count]) _ rfl
  rw [List.drop_eq_getElem_cons short]
  exact List.mem_cons_self

def mergeNew (first later : List Item) : List Item :=
  first ++ later.filter fun item => name item ∉ first.map name

theorem merge_new_nodup
    (first later : List Item)
    (firstApart : (first.map name).Nodup)
    (laterApart : (later.map name).Nodup) : ((mergeNew name first later).map name).Nodup := by
  rw [mergeNew, List.map_append]
  apply firstApart.append (laterApart.sublist (List.filter_sublist.map name))
  intro other inFirst inLater
  rcases List.mem_map.mp inLater with ⟨item, kept, rfl⟩
  exact of_decide_eq_true (List.mem_filter.mp kept).2 inFirst

theorem repeated_length_le
    (first later : List Item)
    (laterApart : (later.map name).Nodup) :
    (later.filter fun item => name item ∈ first.map name).length ≤ first.length := by
  have apart := laterApart.sublist
    ((List.filter_sublist (p := fun item => decide (name item ∈ first.map name))).map name)
  have within : (later.filter fun item => name item ∈ first.map name).map name ⊆
      first.map name := by
    intro other member
    rcases List.mem_map.mp member with ⟨item, kept, rfl⟩
    exact of_decide_eq_true (List.mem_filter.mp kept).2
  have bound := (List.subperm_of_subset apart within).length_le
  rwa [List.length_map, List.length_map] at bound

/-- A merge that is cut loses nothing when what is merged in was cut before. -/
theorem take_merge_new_take
    (limit : Nat)
    (first later : List Item)
    (laterApart : (later.map name).Nodup) :
    (mergeNew name first (later.take limit)).take limit =
      (mergeNew name first later).take limit := by
  by_cases short : later.length ≤ limit
  · rw [List.take_of_length_le short]
  · have full : (later.take limit).length = limit := by
      rw [List.length_take]
      omega
    have repeated := repeated_length_le name first (later.take limit)
      (laterApart.sublist ((List.take_sublist limit later).map name))
    have parts := List.length_eq_length_filter_add
      (l := later.take limit) (fun item => decide (name item ∈ first.map name))
    have enough : limit ≤ (mergeNew name first (later.take limit)).length := by
      unfold mergeNew
      rw [List.length_append]
      simp only [decide_not]
      omega
    have cut : mergeNew name first later = mergeNew name first (later.take limit) ++
        (later.drop limit).filter fun item => name item ∉ first.map name := by
      unfold mergeNew
      rw [List.append_assoc, ← List.filter_append, List.take_append_drop]
    rw [cut, List.take_append_of_le_length enough]

omit [DecidableEq Name] in
theorem labels_sublist
    (make : Item → Option Result)
    (label : Result → Name)
    (labelled : ∀ item result, make item = some result → label result = name item)
    (items : List Item) : ((items.filterMap make).map label).Sublist (items.map name) := by
  induction items with
  | nil => exact List.Sublist.refl []
  | cons item rest ih =>
      rw [List.map_cons]
      cases made : make item with
      | none =>
          rw [List.filterMap_cons_none made]
          exact ih.cons _
      | some result =>
          rw [List.filterMap_cons_some made, List.map_cons, labelled item result made]
          exact ih.cons_cons _

/-- A loop over items with distinct names has, under the name of each of them,
the result of that item alone. -/
theorem results_of_name
    (make : Item → Option Result)
    (label : Result → Name)
    (labelled : ∀ item result, make item = some result → label result = name item)
    (items : List Item)
    (apart : (items.map name).Nodup)
    (item : Item)
    (member : item ∈ items) :
    (items.filterMap make).filter (fun result => label result = name item) =
      (make item).toList := by
  have others (rest : List Item) (absent : name item ∉ rest.map name) :
      (rest.filterMap make).filter (fun result => label result = name item) = [] := by
    rw [List.filter_eq_nil_iff]
    intro result inRest
    rcases List.mem_filterMap.mp inRest with ⟨other, inOthers, made⟩
    rw [decide_eq_true_eq, labelled other result made]
    intro same
    exact absent (same ▸ List.mem_map_of_mem inOthers)
  induction items with
  | nil => cases member
  | cons head rest ih =>
      rw [List.map_cons, List.nodup_cons] at apart
      rcases List.mem_cons.mp member with rfl | later
      · cases made : make item with
        | none => rw [List.filterMap_cons_none made, others rest apart.1, Option.toList_none]
        | some result =>
            rw [List.filterMap_cons_some made, List.filter_cons, others rest apart.1,
              labelled item result made]
            simp
      · have differs : name head ≠ name item := fun same =>
          apart.1 (same ▸ List.mem_map_of_mem later)
        rw [← ih apart.2 later]
        cases made : make head with
        | none => rw [List.filterMap_cons_none made]
        | some result =>
            rw [List.filterMap_cons_some made, List.filter_cons, labelled head result made]
            simp [differs]

end Named

end AtlasMindNetra.ListRules
