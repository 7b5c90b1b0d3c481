import Mathlib.Data.List.Induction
import Mathlib.Data.List.Nodup
import Mathlib.Tactic.SplitIfs

/-!
# Insertion-ordered dictionaries

A dictionary keeps its keys in the order of first insertion: assigning to a
present key replaces the value in place, assigning to an absent key appends.
The absence of repeated keys is a field, so no later lemma assumes it.
-/

namespace AtlasMindNetra

set_option autoImplicit false

universe u v w

/-- A finite map together with the order in which its keys were inserted. -/
structure OrderedDict (Key : Type u) (Value : Type v) where
  entries : List (Key × Value)
  distinct : (entries.map Prod.fst).Nodup

namespace OrderedDict

section Shape

variable {Key : Type u} {Value : Type v}

theorem ext_entries {left right : OrderedDict Key Value}
    (same : left.entries = right.entries) : left = right := by
  cases left
  cases right
  cases same
  rfl

instance [DecidableEq Key] [DecidableEq Value] : DecidableEq (OrderedDict Key Value) :=
  fun left right => decidable_of_iff (left.entries = right.entries)
    ⟨ext_entries, fun same => by rw [same]⟩

instance : EmptyCollection (OrderedDict Key Value) := ⟨⟨[], List.nodup_nil⟩⟩

instance : Inhabited (OrderedDict Key Value) := ⟨∅⟩

def keys (dict : OrderedDict Key Value) : List Key := dict.entries.map Prod.fst

def values (dict : OrderedDict Key Value) : List Value := dict.entries.map Prod.snd

def size (dict : OrderedDict Key Value) : Nat := dict.entries.length

def popFirst (dict : OrderedDict Key Value) : OrderedDict Key Value where
  entries := dict.entries.tail
  distinct := (List.Sublist.map Prod.fst (List.tail_sublist _)).nodup dict.distinct

end Shape

variable {Key : Type u} {Value : Type v} [DecidableEq Key]

def get? (dict : OrderedDict Key Value) (key : Key) : Option Value :=
  dict.entries.lookup key

def contains (dict : OrderedDict Key Value) (key : Key) : Bool := (dict.get? key).isSome

/-- The entry list after assigning `value` to `key`. -/
def assign (key : Key) (value : Value) : List (Key × Value) → List (Key × Value)
  | [] => [(key, value)]
  | entry :: rest =>
      if entry.1 = key then (key, value) :: rest else entry :: assign key value rest

theorem keys_assign (key : Key) (value : Value) (entries : List (Key × Value)) :
    (assign key value entries).map Prod.fst =
      if key ∈ entries.map Prod.fst then entries.map Prod.fst
      else entries.map Prod.fst ++ [key] := by
  induction entries with
  | nil => simp [assign]
  | cons entry rest ih =>
      by_cases here : entry.1 = key
      · simp [assign, here]
      · have apart : key ≠ entry.1 := fun same => here same.symm
        simp only [assign, if_neg here, List.map_cons, ih, List.mem_cons, apart, false_or]
        split_ifs <;> simp

def set (dict : OrderedDict Key Value) (key : Key) (value : Value) : OrderedDict Key Value where
  entries := assign key value dict.entries
  distinct := by
    rw [keys_assign]
    split_ifs with present
    · exact dict.distinct
    · exact List.nodup_append.mpr ⟨dict.distinct, List.nodup_singleton key, by
        intro first member second last same
        rw [List.mem_singleton.mp last] at same
        exact present (same ▸ member)⟩

def erase (dict : OrderedDict Key Value) (key : Key) : OrderedDict Key Value where
  entries := dict.entries.filter (fun entry => entry.1 ≠ key)
  distinct := (List.Sublist.map Prod.fst List.filter_sublist).nodup dict.distinct

def overlay (choose : Key → Option Value) (dict : OrderedDict Key Value) (keys : List Key) :
    OrderedDict Key Value :=
  keys.foldl (fun dict key =>
    match choose key with
    | some value => dict.set key value
    | none => dict) dict

/-- `dict.fromkeys(keys)`: the distinct keys in order of first occurrence. -/
def fromKeys (keys : List Key) : OrderedDict Key Unit :=
  keys.foldl (fun dict key => dict.set key ()) ∅

@[simp] theorem get?_empty (key : Key) : (∅ : OrderedDict Key Value).get? key = none := rfl

theorem lookup_entry (key : Key) (entry : Key × Value) (rest : List (Key × Value)) :
    (entry :: rest).lookup key = if key = entry.1 then some entry.2 else rest.lookup key := by
  rcases entry with ⟨head, value⟩
  by_cases same : key = head
  · simp [same]
  · have test : (key == head) = false := by simpa using same
    simp [List.lookup_cons, test, same]

theorem lookup_assign (key other : Key) (value : Value) (entries : List (Key × Value)) :
    (assign key value entries).lookup other =
      if other = key then some value else entries.lookup other := by
  induction entries with
  | nil => simp [assign, lookup_entry]
  | cons entry rest ih =>
      by_cases here : entry.1 = key
      · rw [assign, if_pos here, lookup_entry, lookup_entry, here]
        split_ifs <;> rfl
      · simp only [assign, if_neg here, lookup_entry, ih]
        by_cases head : other = entry.1
        · simp [head, here]
        · simp [head]

@[simp] theorem get?_set (dict : OrderedDict Key Value) (key other : Key) (value : Value) :
    (dict.set key value).get? other = if other = key then some value else dict.get? other :=
  lookup_assign key other value dict.entries

@[simp] theorem get?_erase (dict : OrderedDict Key Value) (key other : Key) :
    (dict.erase key).get? other = if other = key then none else dict.get? other := by
  rcases dict with ⟨entries, distinct⟩
  unfold erase get?
  simp only
  clear distinct
  induction entries with
  | nil => simp
  | cons entry rest ih =>
      rw [List.filter_cons, lookup_entry]
      by_cases here : entry.1 = key
      · rw [if_neg (by simpa using here), ih]
        split_ifs with same head
        · rfl
        · exact absurd (head.trans here) same
        · rfl
      · rw [if_pos (by simpa using here), lookup_entry, ih]
        by_cases head : other = entry.1
        · simp [head, here]
        · simp [head]

theorem get?_set_self (dict : OrderedDict Key Value) (key : Key) (value : Value) :
    (dict.set key value).get? key = some value := by
  simp

theorem get?_set_other (dict : OrderedDict Key Value) {key other : Key} (value : Value)
    (different : other ≠ key) : (dict.set key value).get? other = dict.get? other := by
  simp [different]

theorem get?_related (related : Value → Value → Prop) (first second : OrderedDict Key Value)
    (key : Key)
    (alike : List.Forall₂ (fun one other => one.1 = other.1 ∧ related one.2 other.2)
      first.entries second.entries) :
    Option.Rel related (first.get? key) (second.get? key) := by
  unfold get?
  generalize first.entries = ones at alike
  generalize second.entries = others at alike
  induction alike with
  | nil => exact Option.Rel.none
  | cons here _ ih =>
      rw [lookup_entry, lookup_entry, ← here.1]
      split_ifs
      · exact Option.Rel.some here.2
      · exact ih

theorem mem_of_lookup {entries : List (Key × Value)} {key : Key} {value : Value}
    (found : entries.lookup key = some value) : (key, value) ∈ entries := by
  induction entries with
  | nil => simp at found
  | cons entry rest ih =>
      rw [lookup_entry] at found
      split_ifs at found with head
      · have pair : entry = (key, value) := Prod.ext head.symm (Option.some.inj found)
        exact pair ▸ List.mem_cons_self
      · exact List.mem_cons_of_mem _ (ih found)

theorem lookup_of_entry {entries : List (Key × Value)} {key : Key} {value : Value}
    (distinct : (entries.map Prod.fst).Nodup) (member : (key, value) ∈ entries) :
    entries.lookup key = some value := by
  induction entries with
  | nil => simp at member
  | cons entry rest ih =>
      rw [List.map_cons, List.nodup_cons] at distinct
      rw [lookup_entry]
      rcases List.mem_cons.mp member with head | tail
      · simp [← head]
      · have apart : key ≠ entry.1 := by
          intro same
          exact distinct.1 (same ▸ List.mem_map_of_mem (f := Prod.fst) tail)
        rw [if_neg apart]
        exact ih distinct.2 tail

theorem mem_entries_iff (dict : OrderedDict Key Value) (key : Key) (value : Value) :
    (key, value) ∈ dict.entries ↔ dict.get? key = some value :=
  ⟨lookup_of_entry dict.distinct, mem_of_lookup⟩

theorem mem_values_iff (dict : OrderedDict Key Value) (value : Value) :
    value ∈ dict.values ↔ ∃ key, dict.get? key = some value := by
  simp only [values, List.mem_map, Prod.exists, exists_eq_right, mem_entries_iff]

theorem mem_keys_iff (dict : OrderedDict Key Value) (key : Key) :
    key ∈ dict.keys ↔ ∃ value, dict.get? key = some value := by
  simp only [keys, List.mem_map, Prod.exists, exists_and_right, exists_eq_right, mem_entries_iff]

theorem assign_present (key : Key) (value : Value) (entries : List (Key × Value))
    (found : entries.lookup key = some value) : assign key value entries = entries := by
  induction entries with
  | nil => simp at found
  | cons entry rest ih =>
      rw [lookup_entry] at found
      split_ifs at found with head
      · rw [assign, if_pos head.symm]
        exact congrArg (· :: rest) (Prod.ext head (Option.some.inj found).symm)
      · rw [assign, if_neg fun same => head same.symm, ih found]

theorem assign_absent (key : Key) (value : Value) (entries : List (Key × Value))
    (absent : key ∉ entries.map Prod.fst) : assign key value entries = entries ++ [(key, value)] := by
  induction entries with
  | nil => rfl
  | cons entry rest ih =>
      rw [List.map_cons, List.mem_cons, not_or] at absent
      rw [assign, if_neg fun same => absent.1 same.symm, ih absent.2, List.cons_append]

theorem entries_filed {Item : Type u} (name : Item → Key) (value : Item → Value)
    (items : List Item) (apart : (items.map name).Nodup) :
    (items.foldl (fun (dict : OrderedDict Key Value) item => dict.set (name item) (value item))
      ∅).entries = items.map fun item => (name item, value item) := by
  suffices filed : ∀ dict : OrderedDict Key Value, (∀ item ∈ items, name item ∉ dict.keys) →
      (items.foldl (fun dict item => dict.set (name item) (value item)) dict).entries =
        dict.entries ++ items.map fun item => (name item, value item) by
    exact filed ∅ fun _ _ => List.not_mem_nil
  induction items with
  | nil => exact fun dict _ => (List.append_nil dict.entries).symm
  | cons item rest ih =>
      intro dict new
      rw [List.map_cons, List.nodup_cons] at apart
      rw [List.forall_mem_cons] at new
      have written := assign_absent (name item) (value item) dict.entries new.1
      rw [List.foldl_cons, ih apart.2 (dict.set (name item) (value item)), List.map_cons]
      · change assign _ _ dict.entries ++ _ = _
        rw [written, List.append_assoc, List.singleton_append]
      · intro later member known
        change name later ∈ (assign _ _ dict.entries).map Prod.fst at known
        rw [written, List.map_append, List.mem_append] at known
        rcases known with before | now
        · exact new.2 later member before
        · have same : name later = name item := List.mem_singleton.mp now
          exact apart.1 (same ▸ List.mem_map_of_mem member)

theorem get?_filed {Item : Type w} (name : Item → Key) (value : Item → Value)
    (items : List Item) (key : Key) :
    (items.foldl (fun (dict : OrderedDict Key Value) item => dict.set (name item) (value item))
      ∅).get? key = ((items.filter fun item => name item = key).getLast?).map value := by
  induction items using List.reverseRecOn with
  | nil => rfl
  | append_singleton earlier last ih =>
      rw [List.foldl_append, List.foldl_cons, List.foldl_nil, get?_set, ih, List.filter_append]
      by_cases same : key = name last
      · subst same
        simp
      · rw [if_neg same, List.filter_cons, if_neg (by simpa using fun other => same other.symm),
          List.filter_nil, List.append_nil]

theorem assign_map {Other : Type w} (change : Value → Other) (key : Key) (value : Value)
    (entries : List (Key × Value)) :
    assign key (change value) (entries.map fun entry => (entry.1, change entry.2)) =
      (assign key value entries).map fun entry => (entry.1, change entry.2) := by
  induction entries with
  | nil => rfl
  | cons entry rest ih =>
      rw [List.map_cons, assign, assign, ih]
      split_ifs <;> rfl

theorem entries_filed_map {Item : Type w} {Other : Type w} (name : Item → Key)
    (value : Item → Value) (change : Value → Other) (items : List Item) :
    (items.foldl (fun (dict : OrderedDict Key Other) item =>
        dict.set (name item) (change (value item))) ∅).entries =
      (items.foldl (fun (dict : OrderedDict Key Value) item =>
        dict.set (name item) (value item)) ∅).entries.map fun entry => (entry.1, change entry.2) := by
  induction items using List.reverseRecOn with
  | nil => rfl
  | append_singleton earlier last ih =>
      simp only [List.foldl_append, List.foldl_cons, List.foldl_nil]
      change assign _ _ (OrderedDict.entries _) = (assign _ _ (OrderedDict.entries _)).map _
      rw [ih, assign_map]

/-- Writing back the value a key already has changes nothing, order included. -/
theorem set_present (dict : OrderedDict Key Value) (key : Key) (value : Value)
    (found : dict.get? key = some value) : dict.set key value = dict :=
  ext_entries (assign_present key value dict.entries found)

theorem overlay_cons (choose : Key → Option Value) (dict : OrderedDict Key Value) (head : Key)
    (tail : List Key) :
    overlay choose dict (head :: tail) =
      overlay choose (match choose head with
        | some value => dict.set head value
        | none => dict) tail := rfl

theorem get?_overlay (choose : Key → Option Value) (dict : OrderedDict Key Value)
    (keys : List Key) (key : Key) :
    (overlay choose dict keys).get? key =
      if key ∈ keys then (choose key).or (dict.get? key) else dict.get? key := by
  induction keys generalizing dict with
  | nil => rfl
  | cons head tail ih =>
      rw [overlay_cons, ih]
      by_cases first : key = head
      · subst first
        cases chosen : choose key <;> simp
      · cases chosen : choose head <;> simp [first]

end OrderedDict

end AtlasMindNetra
