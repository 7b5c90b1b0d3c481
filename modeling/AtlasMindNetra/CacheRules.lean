import AtlasMindNetra.OrderedDict

/-!
# Caches that may forget

A cache is filled by filing a value under a key and may lose any entry at any
time. What can be said of such a cache is a property of each entry it still
holds, and what it holds under a key stems from the last filing under that key.
A bounded cache may forget in a fixed order, such as that of insertion.
-/

namespace AtlasMindNetra.CacheRules

set_option autoImplicit false

universe u v w

section Entries

variable {Key : Type u} {Value : Type v} [DecidableEq Key]

/-- Every cached value is good for the key it is cached under. -/
def Sound (good : Key → Value → Prop) (cache : OrderedDict Key Value) : Prop :=
  ∀ key value, cache.get? key = some value → good key value

theorem sound_empty (good : Key → Value → Prop) : Sound good (∅ : OrderedDict Key Value) := by
  intro key value found
  rw [OrderedDict.get?_empty] at found
  exact absurd found (by simp)

theorem sound_weaken
    {good other : Key → Value → Prop}
    {cache : OrderedDict Key Value}
    (sound : Sound good cache)
    (follows : ∀ key value, good key value → other key value) :
    Sound other cache :=
  fun key value found => follows key value (sound key value found)

theorem sound_forget
    {good : Key → Value → Prop}
    {cache smaller : OrderedDict Key Value}
    (sound : Sound good cache)
    (kept : ∀ key value, smaller.get? key = some value → cache.get? key = some value) :
    Sound good smaller :=
  fun key value found => sound key value (kept key value found)

theorem get?_of_erase
    (cache : OrderedDict Key Value)
    (lost key : Key)
    (value : Value)
    (found : (cache.erase lost).get? key = some value) :
    cache.get? key = some value := by
  rw [OrderedDict.get?_erase] at found
  split_ifs at found
  exact found

theorem get?_of_pop_first
    (cache : OrderedDict Key Value)
    (key : Key)
    (value : Value)
    (found : cache.popFirst.get? key = some value) :
    cache.get? key = some value := by
  rw [← OrderedDict.mem_entries_iff] at found ⊢
  exact List.mem_of_mem_tail found

/-- Filing a value asks for nothing but that this value is good, if what the
filing does to the meaning of `good` leaves the other keys alone. -/
theorem sound_file
    {good after : Key → Value → Prop}
    {cache : OrderedDict Key Value}
    {key : Key}
    {value : Value}
    (sound : Sound good cache)
    (filed : after key value)
    (others : ∀ other old, other ≠ key → good other old → after other old) :
    Sound after (cache.set key value) := by
  intro other old found
  rw [OrderedDict.get?_set] at found
  split_ifs at found with same
  · cases same
    cases found
    exact filed
  · exact others other old same (sound other old found)

end Entries

section History

variable {Filing : Type u} {Key : Type v} [DecidableEq Key]

def lastFiled (keyOf : Filing → Key) (filings : List Filing) (key : Key) : Option Filing :=
  (filings.filter fun filing => keyOf filing = key).getLast?

@[simp] theorem last_filed_nil (keyOf : Filing → Key) (key : Key) :
    lastFiled keyOf [] key = none := rfl

theorem last_filed_snoc
    (keyOf : Filing → Key)
    (filings : List Filing)
    (filing : Filing)
    (key : Key) :
    lastFiled keyOf (filings ++ [filing]) key =
      if keyOf filing = key then some filing else lastFiled keyOf filings key := by
  unfold lastFiled
  rw [List.filter_append]
  by_cases same : keyOf filing = key
  · simp [same]
  · simp [same]

theorem last_filed_mem
    {keyOf : Filing → Key}
    {filings : List Filing}
    {filing : Filing}
    {key : Key}
    (last : lastFiled keyOf filings key = some filing) :
    filing ∈ filings :=
  List.mem_of_mem_filter (List.mem_of_getLast? last)

theorem last_filed_key
    {keyOf : Filing → Key}
    {filings : List Filing}
    {filing : Filing}
    {key : Key}
    (last : lastFiled keyOf filings key = some filing) :
    keyOf filing = key := by
  have member := List.mem_of_getLast? last
  rw [List.mem_filter] at member
  simpa using member.2

theorem last_filed_cons
    (keyOf : Filing → Key)
    (filing : Filing)
    (later : List Filing)
    (key : Key) :
    lastFiled keyOf (filing :: later) key =
      (lastFiled keyOf later key).or (if keyOf filing = key then some filing else none) := by
  unfold lastFiled
  rw [List.filter_cons]
  by_cases same : keyOf filing = key
  · simp only [same, decide_true, if_true]
    rw [List.getLast?_cons]
    cases (later.filter fun filing => keyOf filing = key).getLast? <;> rfl
  · simp only [same, decide_false, Bool.false_eq_true, if_false, Option.or_none]

variable {Value : Type w}

def fileAll (keyOf : Filing → Key) (valueOf : Filing → Value) (cache : OrderedDict Key Value)
    (filings : List Filing) : OrderedDict Key Value :=
  filings.foldl (fun cache filing => cache.set (keyOf filing) (valueOf filing)) cache

theorem get?_file_all
    (keyOf : Filing → Key)
    (valueOf : Filing → Value)
    (cache : OrderedDict Key Value)
    (filings : List Filing)
    (key : Key) :
    (fileAll keyOf valueOf cache filings).get? key =
      ((lastFiled keyOf filings key).map valueOf).or (cache.get? key) := by
  induction filings generalizing cache with
  | nil => rfl
  | cons filing later ih =>
      change (fileAll keyOf valueOf (cache.set (keyOf filing) (valueOf filing)) later).get? key = _
      rw [ih, OrderedDict.get?_set, last_filed_cons]
      cases lastFiled keyOf later key with
      | some last => rfl
      | none =>
          by_cases same : keyOf filing = key
          · simp [same]
          · simp [same, Ne.symm same]

theorem last_filed_own
    (keyOf : Value → Key)
    (cache : OrderedDict Key Value)
    (own : ∀ key value, cache.get? key = some value → keyOf value = key)
    (key : Key) :
    lastFiled keyOf cache.values key = cache.get? key := by
  have filed : ∀ value, value ∈ cache.values.filter (fun value => keyOf value = key) ↔
      cache.get? key = some value := by
    intro value
    rw [List.mem_filter, OrderedDict.mem_values_iff, decide_eq_true_eq]
    constructor
    · rintro ⟨⟨other, found⟩, same⟩
      rw [← same, own other value found]
      exact found
    · intro found
      exact ⟨⟨key, found⟩, own key value found⟩
  cases last : lastFiled keyOf cache.values key with
  | some value => exact ((filed value).mp (List.mem_of_getLast? last)).symm
  | none =>
      cases found : cache.get? key with
      | none => rfl
      | some value =>
          have member := (filed value).mpr found
          rw [List.getLast?_eq_none_iff.mp last] at member
          cases member

/-- Filing leaves some keys alone exactly if the last value filed under each of
them is the one that was there. -/
theorem file_all_keeps_iff
    (keyOf : Filing → Key)
    (valueOf : Filing → Value)
    (cache : OrderedDict Key Value)
    (filings : List Filing)
    (apart : Key → Prop) :
    (∀ key, apart key → (fileAll keyOf valueOf cache filings).get? key = cache.get? key) ↔
      ∀ key filing, apart key → lastFiled keyOf filings key = some filing →
        cache.get? key = some (valueOf filing) := by
  constructor
  · intro kept key filing outside last
    rw [← kept key outside, get?_file_all, last]
    rfl
  · intro repeats key outside
    rw [get?_file_all]
    cases last : lastFiled keyOf filings key with
    | none => rfl
    | some filing =>
        rw [repeats key filing outside last]
        rfl

end History

section Fifo

variable {Key : Type u} {Value : Type v}

theorem size_pop_first (cache : OrderedDict Key Value) : cache.popFirst.size = cache.size - 1 :=
  List.length_tail

variable [DecidableEq Key]

/-- A write to a bounded map that forgets in the order of insertion, and only to
make room for a key it does not hold. -/
def fifoWrite (capacity : Nat) (cache : OrderedDict Key Value) (key : Key) (value : Value) :
    OrderedDict Key Value :=
  if capacity = 0 then cache
  else if cache.contains key = false ∧ capacity ≤ cache.size then cache.popFirst.set key value
  else cache.set key value

theorem contains_iff_mem_keys
    (cache : OrderedDict Key Value)
    (key : Key) : cache.contains key = true ↔ key ∈ cache.keys := by
  rw [OrderedDict.mem_keys_iff, OrderedDict.contains, Option.isSome_iff_exists]

theorem size_set
    (cache : OrderedDict Key Value)
    (key : Key)
    (value : Value) :
    (cache.set key value).size = if cache.contains key = true then cache.size else cache.size + 1 := by
  have keys : (cache.set key value).keys = if key ∈ cache.keys then cache.keys
      else cache.keys ++ [key] := OrderedDict.keys_assign key value cache.entries
  have lengths := congrArg List.length keys
  rw [apply_ite List.length, List.length_append, List.length_singleton, OrderedDict.keys,
    OrderedDict.keys, List.length_map, List.length_map] at lengths
  simp only [contains_iff_mem_keys]
  exact lengths

theorem pop_set_eq_set_iff
    (cache : OrderedDict Key Value)
    (key : Key)
    (value : Value)
    (known : cache.contains key = true) :
    cache.popFirst.set key value = cache.set key value ↔ cache.size = 1 := by
  rw [contains_iff_mem_keys] at known
  rcases cache with ⟨entries, distinct⟩
  cases entries with
  | nil => cases known
  | cons entry rest =>
      constructor
      · intro same
        have lists : OrderedDict.assign key value rest =
            OrderedDict.assign key value (entry :: rest) := congrArg OrderedDict.entries same
        rw [OrderedDict.assign] at lists
        split_ifs at lists with first
        · rw [List.map_cons, List.nodup_cons, first] at distinct
          rw [OrderedDict.assign_absent key value rest distinct.1] at lists
          cases rest with
          | nil => rfl
          | cons next others =>
              have head : next = (key, value) := (List.cons.inj lists).1
              exact absurd (by simp [head]) distinct.1
        · have inRest : key ∈ rest.map Prod.fst := by
            rcases List.mem_cons.mp known with here | later
            · exact absurd here.symm first
            · exact later
          have lengths := congrArg (fun entries => (entries.map Prod.fst).length) lists
          simp [OrderedDict.keys_assign, inRest] at lengths
      · intro one
        have alone : rest = [] := List.length_eq_zero_iff.mp (Nat.succ.inj one)
        subst alone
        have own : entry.1 = key := (List.mem_singleton.mp known).symm
        apply OrderedDict.ext_entries
        change OrderedDict.assign key value [] = OrderedDict.assign key value [entry]
        rw [OrderedDict.assign, OrderedDict.assign, if_pos own]

end Fifo

end AtlasMindNetra.CacheRules
