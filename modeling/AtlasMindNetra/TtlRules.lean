import AtlasMindNetra.OrderedDict
import Mathlib.Order.Defs.LinearOrder
import Mathlib.Order.Lattice

/-!
# Caches whose entries expire

Every entry has an instant from which on it is gone, though nobody removes it
then. A test for a key and a read of the key look at the clock on their own, so
an entry that the test has found may be gone for the read.
-/

namespace AtlasMindNetra.TtlRules

set_option autoImplicit false

universe u v w

/-- The entries, each with its instant of expiry. -/
structure TtlCache (Key : Type u) (Value : Type v) (Time : Type w) where
  entries : OrderedDict Key (Value × Time)

namespace TtlCache

variable {Key : Type u} {Value : Type v} {Time : Type w} [DecidableEq Key] [LinearOrder Time]

/-- `key in cache`, with the clock at `now`. -/
def contains (cache : TtlCache Key Value Time) (now : Time) (key : Key) : Bool :=
  match cache.entries.get? key with
  | some (_, expires) => now < expires
  | none => false

/-- `cache[key]`, and `none` for `KeyError`. -/
def read? (cache : TtlCache Key Value Time) (now : Time) (key : Key) : Option Value :=
  match cache.entries.get? key with
  | some (value, expires) => if now < expires then some value else none
  | none => none

/-- `cache[key] = value`: `makeRoom` removes what is expired and, in a full cache,
the entry that has to go. -/
def write (makeRoom : OrderedDict Key (Value × Time) → OrderedDict Key (Value × Time))
    (cache : TtlCache Key Value Time) (expires : Time) (key : Key) (value : Value) :
    TtlCache Key Value Time where
  entries := (makeRoom cache.entries).set key (value, expires)

omit [LinearOrder Time] in
theorem written
    (makeRoom : OrderedDict Key (Value × Time) → OrderedDict Key (Value × Time))
    (cache : TtlCache Key Value Time)
    (expires : Time)
    (key : Key)
    (value : Value) :
    (cache.write makeRoom expires key value).entries.get? key = some (value, expires) :=
  OrderedDict.get?_set_self _ _ _

theorem contains_iff
    (cache : TtlCache Key Value Time)
    (now : Time)
    (key : Key) :
    cache.contains now key = true ↔
      ∃ value expires, cache.entries.get? key = some (value, expires) ∧ now < expires := by
  unfold contains
  cases cache.entries.get? key with
  | none => simp
  | some entry =>
      rcases entry with ⟨value, expires⟩
      simp

theorem read_alive
    (cache : TtlCache Key Value Time)
    (now expires : Time)
    (key : Key)
    (value : Value)
    (held : cache.entries.get? key = some (value, expires)) :
    cache.read? now key = if now < expires then some value else none := by
  rw [read?, held]

omit [LinearOrder Time] in
/-- `cache[key] = value` when nothing has to make room. -/
def assign (cache : TtlCache Key Value Time) (expires : Time) (key : Key) (value : Value) :
    TtlCache Key Value Time where
  entries := cache.entries.set key (value, expires)

omit [LinearOrder Time] in
def drop (cache : TtlCache Key Value Time) (key : Key) : TtlCache Key Value Time where
  entries := cache.entries.erase key

/-- A read that removes the entry when it finds it expired. -/
def take (cache : TtlCache Key Value Time) (now : Time) (key : Key) :
    Option Value × TtlCache Key Value Time :=
  match cache.entries.get? key with
  | none => (none, cache)
  | some (value, expires) => if now ≥ expires then (none, cache.drop key) else (some value, cache)

theorem read_assign
    (cache : TtlCache Key Value Time)
    (now expires : Time)
    (key other : Key)
    (value : Value) :
    (cache.assign expires key value).read? now other =
      if other = key then (if now < expires then some value else none) else cache.read? now other := by
  unfold read? assign
  rw [OrderedDict.get?_set]
  by_cases same : other = key
  · rw [if_pos same, if_pos same]
  · rw [if_neg same, if_neg same]

theorem read_drop
    (cache : TtlCache Key Value Time)
    (now : Time)
    (key other : Key) :
    (cache.drop key).read? now other = if other = key then none else cache.read? now other := by
  unfold read? drop
  rw [OrderedDict.get?_erase]
  by_cases same : other = key
  · rw [if_pos same, if_pos same]
  · rw [if_neg same, if_neg same]

theorem take_reads
    (cache : TtlCache Key Value Time)
    (now : Time)
    (key : Key) : (cache.take now key).1 = cache.read? now key := by
  unfold take read?
  cases cache.entries.get? key with
  | none => rfl
  | some entry =>
      rcases entry with ⟨value, expires⟩
      by_cases gone : now ≥ expires
      · simp [gone, not_lt.mpr gone]
      · simp [gone, not_le.mp gone]

theorem read_taken
    (cache : TtlCache Key Value Time)
    (now later : Time)
    (order : now ≤ later)
    (key other : Key) : (cache.take now key).2.read? later other = cache.read? later other := by
  unfold take
  cases found : cache.entries.get? key with
  | none => rfl
  | some entry =>
      rcases entry with ⟨value, expires⟩
      by_cases gone : now ≥ expires
      · have expired : ¬later < expires := not_lt.mpr (le_trans gone order)
        simp only [gone, if_true]
        rw [read_drop]
        split_ifs with same
        · rw [same, read_alive cache later expires key value found, if_neg expired]
        · rfl
      · simp only [gone, if_false]

variable (expiry : Time → Time)

/-- What a caller asks of a cache; what is put expires at the `expiry` of its instant. -/
inductive Command (Key : Type u) (Value : Type v) where
  | read (key : Key)
  | put (key : Key) (value : Value)
  | drop (key : Key)

def perform (cache : TtlCache Key Value Time) (now : Time) :
    Command Key Value → Option Value × TtlCache Key Value Time
  | .read key => cache.take now key
  | .put key value => (none, cache.assign (expiry now) key value)
  | .drop key => (none, cache.drop key)

def after : List (Time × Command Key Value) → TtlCache Key Value Time
  | [] => ⟨∅⟩
  | (now, command) :: earlier => (perform expiry (after earlier) now command).2

/-- What a reader of the key is due: the value put last, unless it was dropped
since or has expired. -/
def due (now : Time) (key : Key) : List (Time × Command Key Value) → Option Value
  | [] => none
  | (instant, .put other value) :: earlier =>
      if key = other then (if now < expiry instant then some value else none)
      else due now key earlier
  | (_, .drop other) :: earlier => if key = other then none else due now key earlier
  | (_, .read _) :: earlier => due now key earlier

theorem read_after
    (past : List (Time × Command Key Value))
    (ordered : past.Pairwise fun later earlier => earlier.1 ≤ later.1)
    (now : Time)
    (elapsed : ∀ entry ∈ past, entry.1 ≤ now)
    (key : Key) : (after expiry past).read? now key = due expiry now key past := by
  induction past with
  | nil => rfl
  | cons entry earlier ih =>
      rcases entry with ⟨instant, command⟩
      rw [List.pairwise_cons] at ordered
      rw [List.forall_mem_cons] at elapsed
      have before := ih ordered.2 elapsed.2
      cases command with
      | read other =>
          rw [after, due, ← before]
          exact read_taken _ instant now elapsed.1 other key
      | put other value =>
          rw [after, due, ← before]
          exact read_assign _ now _ other key value
      | drop other =>
          rw [after, due, ← before]
          exact read_drop _ now other key

section Sharing

variable {Place : Type*} {Code : Type*} {Reading : Type*}
variable (place : Key → Place) (read : Code → Reading) (given : Value → Reading)

/-- From the instant on, readers of a shared store, at the places of the keys, read
what they are given by the cache. -/
def Holds (now : Time) (shared : Time → Place → Option Code) (cache : TtlCache Key Value Time) :
    Prop :=
  ∀ later, now ≤ later → ∀ key,
    (shared later (place key)).map read = (cache.read? later key).map given

variable {place read given} {now : Time}
variable {shared next : Time → Place → Option Code} {cache : TtlCache Key Value Time}

theorem holds_later
    (holds : Holds place read given now shared cache)
    (later : Time)
    (order : now ≤ later) : Holds place read given later shared cache :=
  fun instant elapsed => holds instant (le_trans order elapsed)

theorem holds_taken
    (holds : Holds place read given now shared cache)
    (key : Key) : Holds place read given now shared (cache.take now key).2 := by
  intro later elapsed other
  rw [read_taken cache now later elapsed]
  exact holds later elapsed other

theorem holds_beside
    (holds : Holds place read given now shared cache)
    (elsewhere : Place)
    (apart : ∀ key, place key ≠ elsewhere)
    (kept : ∀ later, now ≤ later → ∀ other, other ≠ elsewhere →
      next later other = shared later other) :
    Holds place read given now next cache := by
  intro later elapsed key
  rw [kept later elapsed _ (apart key)]
  exact holds later elapsed key

variable [DecidableEq Place]

theorem holds_assign
    (injective : Function.Injective place)
    (holds : Holds place read given now shared cache)
    (expires : Time)
    (key : Key)
    (value : Value)
    (code : Code)
    (decodes : read code = given value)
    (writes : ∀ later, now ≤ later → ∀ other, next later other =
      if other = place key then (if later < expires then some code else none)
      else shared later other) :
    Holds place read given now next (cache.assign expires key value) := by
  intro later elapsed other
  rw [writes later elapsed, read_assign]
  by_cases same : other = key
  · subst same
    rw [if_pos rfl, if_pos rfl]
    split_ifs
    · rw [Option.map_some, Option.map_some, decodes]
    · rfl
  · rw [if_neg fun equal => same (injective equal), if_neg same]
    exact holds later elapsed other

theorem holds_drop
    (injective : Function.Injective place)
    (holds : Holds place read given now shared cache)
    (key : Key)
    (removes : ∀ later, now ≤ later → ∀ other, next later other =
      if other = place key then none else shared later other) :
    Holds place read given now next (cache.drop key) := by
  intro later elapsed other
  rw [removes later elapsed, read_drop]
  by_cases same : other = key
  · rw [if_pos (congrArg place same), if_pos same]
    rfl
  · rw [if_neg fun equal => same (injective equal), if_neg same]
    exact holds later elapsed other

end Sharing

end TtlCache

end AtlasMindNetra.TtlRules
