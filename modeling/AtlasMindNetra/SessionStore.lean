import AtlasMindNetra.ResponseModels

/-!
# Sessions of the clarification loop and their stores

The state machine of `memory/session_store.py`, its table of allowed
transitions, and the two stores behind `BaseSessionStore`. The orchestrator is
modelled over the map of live sessions; `get_represents`, `set_represents` and
`later_represents` show that a store with deadlines is that map.
-/

namespace AtlasMindNetra.SessionStore

open AtlasMindNetra.PythonValues AtlasMindNetra.ResponseModels

set_option autoImplicit false

inductive ClarificationState where
  | idle
  | awaitingClarification
  | resolved
  | dispatched
  deriving DecidableEq

namespace ClarificationState

/-- The `StrEnum` value, which is what an f-string prints. -/
def text : ClarificationState → String
  | idle => "idle"
  | awaitingClarification => "awaiting_clarification"
  | resolved => "resolved"
  | dispatched => "dispatched"

def allowedTransitions : ClarificationState → List ClarificationState
  | idle => [awaitingClarification, resolved, dispatched]
  | awaitingClarification => [awaitingClarification, resolved, dispatched, idle]
  | resolved => [awaitingClarification, dispatched]
  | dispatched => [awaitingClarification, resolved, dispatched, idle]

theorem awaiting_always_allowed (source : ClarificationState) :
    awaitingClarification ∈ source.allowedTransitions := by
  cases source <;> decide

theorem dispatched_always_allowed (source : ClarificationState) :
    dispatched ∈ source.allowedTransitions := by
  cases source <;> decide

theorem resolved_allowed_iff (source : ClarificationState) :
    resolved ∈ source.allowedTransitions ↔ source ≠ resolved := by
  cases source <;> decide

end ClarificationState

structure TermResolution where
  term : String
  resolutionKey : String
  jqlHint : String
  source : ResolutionSource
  deriving DecidableEq

structure SessionState where
  sessionId : String
  state : ClarificationState := .idle
  pendingQuery : Option String := none
  pendingTerms : List String := []
  pendingQuestion : Option String := none
  clarificationRounds : Nat := 0
  resolutions : OrderedDict String TermResolution := ∅
  deriving DecidableEq

namespace SessionState

def illegalTransition (session : SessionState) (newState : ClarificationState) : PyError :=
  .stateTransition ("session " ++ session.sessionId ++ ": illegal transition " ++
    session.state.text ++ " -> " ++ newState.text)

def transition (session : SessionState) (newState : ClarificationState) :
    Except PyError SessionState :=
  if newState ∈ session.state.allowedTransitions then
    .ok { session with state := newState }
  else
    .error (session.illegalTransition newState)

end SessionState

abbrev SessionTable := OrderedDict String SessionState

/-- The entries of `InMemorySessionStore`, and of Valkey after decoding: a
deadline with every session. -/
structure TtlStore where
  ttl : Nat
  entries : OrderedDict String (Nat × SessionState)

namespace TtlStore

/-- Reads one session at clock reading `now`; an expired entry is removed. -/
def get (store : TtlStore) (now : Nat) (sessionId : String) : Option SessionState × TtlStore :=
  match store.entries.get? sessionId with
  | none => (none, store)
  | some (expiresAt, session) =>
      if now ≥ expiresAt then (none, { store with entries := store.entries.erase sessionId })
      else (some session, store)

def set (store : TtlStore) (now : Nat) (session : SessionState) : TtlStore :=
  { store with entries := store.entries.set session.sessionId (now + store.ttl, session) }

/-- The session a reader at `now` would be given. -/
def live (store : TtlStore) (now : Nat) (sessionId : String) : Option SessionState :=
  match store.entries.get? sessionId with
  | some (expiresAt, session) => if now ≥ expiresAt then none else some session
  | none => none

/-- At reading `now` the store shows exactly the sessions of `table`. -/
def Represents (store : TtlStore) (now : Nat) (table : SessionTable) : Prop :=
  ∀ sessionId, store.live now sessionId = table.get? sessionId

theorem get_represents (store : TtlStore) (now : Nat) (table : SessionTable)
    (shown : store.Represents now table) (sessionId : String) :
    (store.get now sessionId).1 = table.get? sessionId := by
  rw [← shown sessionId]
  unfold get live
  cases store.entries.get? sessionId with
  | none => rfl
  | some entry =>
      simp only
      split_ifs <;> rfl

theorem set_represents (store : TtlStore) (now : Nat) (table : SessionTable)
    (positive : 0 < store.ttl) (shown : store.Represents now table) (session : SessionState) :
    (store.set now session).Represents now (table.set session.sessionId session) := by
  intro sessionId
  rw [OrderedDict.get?_set, ← shown sessionId]
  unfold set live
  rw [OrderedDict.get?_set]
  split_ifs with same
  · have fresh : ¬now ≥ now + store.ttl := by omega
    simp only [fresh, if_false]
  · rfl

def dropAll (table : SessionTable) (gone : List String) : SessionTable :=
  gone.foldl OrderedDict.erase table

theorem get_dropAll (table : SessionTable) (gone : List String) (sessionId : String) :
    (dropAll table gone).get? sessionId =
      if sessionId ∈ gone then none else table.get? sessionId := by
  induction gone generalizing table with
  | nil => simp [dropAll]
  | cons head tail ih =>
      change (dropAll (table.erase head) tail).get? sessionId = _
      rw [ih, OrderedDict.get?_erase]
      by_cases first : sessionId = head <;> simp [first]

/-- Passing time is the loss of some sessions and nothing else, which is why
the runs below expire sessions one at a time. -/
theorem later_represents (store : TtlStore) {now later : Nat} (order : now ≤ later)
    (table : SessionTable) (shown : store.Represents now table) :
    ∃ gone, store.Represents later (dropAll table gone) := by
  refine ⟨store.entries.keys.filter fun sessionId => (store.live later sessionId).isNone, ?_⟩
  intro sessionId
  rw [get_dropAll, ← shown sessionId]
  unfold live
  cases found : store.entries.get? sessionId with
  | none => simp
  | some entry =>
      have known : sessionId ∈ store.entries.keys :=
        (OrderedDict.mem_keys_iff _ _).mpr ⟨entry, found⟩
      by_cases expired : later ≥ entry.1
      · simp [known, found, expired]
      · have fresh : ¬now ≥ entry.1 := by omega
        simp [found, expired, fresh]

end TtlStore

/-- The two implementations of `BaseSessionStore` that the server can be
configured with. They differ in what `get` hands out: the in-memory store the
stored object itself, Valkey a fresh copy decoded from JSON. -/
inductive SessionBackend where
  | inMemory
  | valkey
  deriving DecidableEq

end AtlasMindNetra.SessionStore
