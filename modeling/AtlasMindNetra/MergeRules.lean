import AtlasMindNetra.OrderedDict
import Mathlib.Data.List.Infix

/-!
# Merging into dictionaries

Three ways to merge entries into a dictionary: appending to the list under the
key, keeping the value that came first, and appending to the list only what its
identifiers do not show yet. Each is described by what it leaves under a key.
-/

namespace AtlasMindNetra.MergeRules

set_option autoImplicit false

universe u v w

variable {Key : Type u} {Value : Type v} [DecidableEq Key]

/-- `table.get(key, [])` -/
def listAt (table : OrderedDict Key (List Value)) (key : Key) : List Value :=
  (table.get? key).getD []

/-- `table.setdefault(key, []).append(value)` -/
def push (table : OrderedDict Key (List Value)) (key : Key) (value : Value) :
    OrderedDict Key (List Value) :=
  table.set key (listAt table key ++ [value])

def pushAll (table : OrderedDict Key (List Value)) (entries : List (Key × Value)) :
    OrderedDict Key (List Value) :=
  entries.foldl (fun table entry => push table entry.1 entry.2) table

theorem list_at_of_get?
    {table : OrderedDict Key (List Value)}
    {key : Key}
    {values : List Value}
    (found : table.get? key = some values) : listAt table key = values := by
  rw [listAt, found, Option.getD_some]

theorem list_at_push
    (table : OrderedDict Key (List Value))
    (key other : Key)
    (value : Value) :
    listAt (push table key value) other =
      if other = key then listAt table other ++ [value] else listAt table other := by
  rw [listAt, push, OrderedDict.get?_set]
  split_ifs with same
  · rw [same, Option.getD_some]
  · rfl

theorem list_at_push_all
    (table : OrderedDict Key (List Value))
    (added : OrderedDict Key Value)
    (key : Key) :
    listAt (pushAll table added.entries) key = listAt table key ++ (added.get? key).toList := by
  rcases added with ⟨entries, distinct⟩
  change _ = listAt table key ++ (entries.lookup key).toList
  dsimp only
  induction entries generalizing table with
  | nil => exact (List.append_nil _).symm
  | cons entry rest ih =>
      rw [List.map_cons, List.nodup_cons] at distinct
      change listAt (pushAll (push table entry.1 entry.2) rest) key = _
      rw [ih (push table entry.1 entry.2) distinct.2, list_at_push, OrderedDict.lookup_entry]
      split_ifs with same
      · have absent : rest.lookup key = none := by
          cases found : rest.lookup key with
          | none => rfl
          | some value =>
              have member := List.mem_map_of_mem (f := Prod.fst) (OrderedDict.mem_of_lookup found)
              rw [same] at member
              exact absurd member distinct.1
        rw [absent, Option.toList_none, List.append_nil, Option.toList_some]
      · rfl

/-- `if key not in table: table[key] = value` for each of the entries -/
def keepFirst (table : OrderedDict Key Value) (entries : List (Key × Value)) :
    OrderedDict Key Value :=
  entries.foldl (fun table entry =>
    if table.contains entry.1 then table else table.set entry.1 entry.2) table

theorem get?_keep_first
    (table : OrderedDict Key Value)
    (entries : List (Key × Value))
    (key : Key) :
    (keepFirst table entries).get? key = (table.get? key).or (entries.lookup key) := by
  induction entries generalizing table with
  | nil => exact (Option.or_none).symm
  | cons entry rest ih =>
      change (keepFirst (if table.contains entry.1 then table
        else table.set entry.1 entry.2) rest).get? key = _
      rw [ih, OrderedDict.lookup_entry, OrderedDict.contains]
      by_cases same : key = entry.1
      · subst same
        cases present : table.get? entry.1 <;> simp [present]
      · rw [if_neg same]
        split_ifs
        · rfl
        · rw [OrderedDict.get?_set_other table entry.2 same]

section Identifiers

variable {Name : Type w} (nameOf : Value → Name)

/-- The list under the key only grew, by values of one kind, and not by a name
that it showed already. -/
structure Grows (given : Value → Prop) (key : Key) (table merged : OrderedDict Key (List Value)) :
    Prop where
  kept : listAt table key <+: listAt merged key
  members : ∀ value ∈ listAt merged key, value ∈ listAt table key ∨ given value
  distinct : ((listAt table key).map nameOf).Nodup → ((listAt merged key).map nameOf).Nodup

variable {given : Value → Prop} {key : Key} {table next merged : OrderedDict Key (List Value)}

theorem grows_of_same (same : merged.get? key = table.get? key) :
    Grows nameOf given key table merged := by
  have sameList : listAt merged key = listAt table key := by rw [listAt, same, listAt]
  constructor
  · rw [sameList]
  · rw [sameList]
    exact fun _ member => Or.inl member
  · rw [sameList]
    exact id

theorem grows_trans
    (first : Grows nameOf given key table next)
    (second : Grows nameOf given key next merged) : Grows nameOf given key table merged where
  kept := first.kept.trans second.kept
  members := by
    intro value member
    rcases second.members value member with before | new
    · exact first.members value before
    · exact Or.inr new
  distinct := fun nodup => second.distinct (first.distinct nodup)

theorem grows_push
    (value : Value)
    (kind : given value)
    (new : nameOf value ∉ (listAt table key).map nameOf) :
    Grows nameOf given key table (push table key value) where
  kept := by
    rw [list_at_push, if_pos rfl]
    exact List.prefix_append _ _
  members := by
    intro member inMerged
    rw [list_at_push, if_pos rfl, List.mem_append, List.mem_singleton] at inMerged
    rcases inMerged with before | rfl
    · exact Or.inl before
    · exact Or.inr kind
  distinct := by
    intro nodup
    rw [list_at_push, if_pos rfl, List.map_append]
    apply List.nodup_append.mpr
    refine ⟨nodup, List.nodup_singleton _, ?_⟩
    intro name inBefore last inLast same
    rw [List.map_singleton, List.mem_singleton] at inLast
    rw [same, inLast] at inBefore
    exact new inBefore

variable [DecidableEq Name]

def pushUnlessSeen (key : Key) (state : OrderedDict Key (List Value) × List Name) (value : Value) :
    OrderedDict Key (List Value) × List Name :=
  if nameOf value ∈ state.2 then state
  else (push state.1 key value, nameOf value :: state.2)

def pushNew (table : OrderedDict Key (List Value)) (key : Key) (values : List Value) :
    OrderedDict Key (List Value) :=
  (values.foldl (pushUnlessSeen nameOf key) (table, (listAt table key).map nameOf)).1

def pushNewAll (table : OrderedDict Key (List Value)) (entries : List (Key × List Value)) :
    OrderedDict Key (List Value) :=
  entries.foldl (fun table entry => pushNew nameOf table entry.1 entry.2) table

theorem push_new_other
    (table : OrderedDict Key (List Value))
    (key other : Key)
    (values : List Value)
    (apart : other ≠ key) : (pushNew nameOf table key values).get? other = table.get? other := by
  unfold pushNew
  generalize (listAt table key).map nameOf = seen
  induction values generalizing table seen with
  | nil => rfl
  | cons value rest ih =>
      rw [List.foldl_cons, pushUnlessSeen]
      split_ifs
      · exact ih table seen
      · rw [ih, push, OrderedDict.get?_set_other _ _ apart]

theorem push_new_grows
    (table : OrderedDict Key (List Value))
    (key : Key)
    (values : List Value)
    (kind : ∀ value ∈ values, given value) :
    Grows nameOf given key table (pushNew nameOf table key values) := by
  unfold pushNew
  generalize same : (listAt table key).map nameOf = names
  -- The names seen so far are those of the list under the key.
  have seen : ∀ name, name ∈ names ↔ name ∈ (listAt table key).map nameOf := by
    intro name
    rw [same]
  clear same
  induction values generalizing table names with
  | nil => exact grows_of_same nameOf rfl
  | cons value rest ih =>
      rw [List.forall_mem_cons] at kind
      rw [List.foldl_cons, pushUnlessSeen]
      split_ifs with old
      · exact ih table kind.2 names seen
      · have new : nameOf value ∉ (listAt table key).map nameOf := fun shown =>
          old ((seen _).mpr shown)
        apply grows_trans nameOf (grows_push nameOf value kind.1 new)
        apply ih _ kind.2
        intro name
        rw [list_at_push, if_pos rfl, List.map_append, List.map_singleton, List.mem_append,
          List.mem_singleton, List.mem_cons, seen name]
        exact or_comm

theorem push_new_all_grows
    (table : OrderedDict Key (List Value))
    (entries : List (Key × List Value))
    (key : Key)
    (kind : ∀ entry ∈ entries, entry.1 = key → ∀ value ∈ entry.2, given value) :
    Grows nameOf given key table (pushNewAll nameOf table entries) := by
  induction entries generalizing table with
  | nil => exact grows_of_same nameOf rfl
  | cons entry rest ih =>
      rw [List.forall_mem_cons] at kind
      apply grows_trans nameOf _ (ih (pushNew nameOf table entry.1 entry.2) kind.2)
      by_cases here : entry.1 = key
      · rw [here]
        exact push_new_grows nameOf table key entry.2 (kind.1 here)
      · exact grows_of_same nameOf
          (push_new_other nameOf table entry.1 key entry.2 (Ne.symm here))

end Identifiers

end AtlasMindNetra.MergeRules
