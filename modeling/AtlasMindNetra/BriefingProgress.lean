import AtlasMindNetra.BriefingOverlap

/-!
# Progress of overlapping briefings

A call reads the pending state once and later stores its own copy of it, with
the topics that it has completed itself. What it has read is in that copy, so
nothing stored is lost as long as the store holds nothing that the call has not
read. A call that stores after another one has gone further sets the briefing
back.
-/

namespace AtlasMindNetra.BriefingOrchestrator

open AtlasMindNetra.PythonValues AtlasMindNetra.ResponseModels
open AtlasMindNetra.RunRules
open AtlasMindNetra.Orchestrator (QueryCall)

set_option autoImplicit false

/-- The later state is at no earlier topic and lacks none of the completed ones. -/
def Covers (earlier later : BriefingPendingState) : Prop :=
  earlier.currentTopicIdx ≤ later.currentTopicIdx ∧
    ∀ topicId ∈ earlier.completedResults.keys, topicId ∈ later.completedResults.keys

instance (earlier later : BriefingPendingState) : Decidable (Covers earlier later) :=
  inferInstanceAs (Decidable (_ ∧ _))

def keepUpdate (sessionId : String) (updates : List BriefingPendingState) :
    StoreEvent → List BriefingPendingState
  | .stored state => if state.sessionId = sessionId then updates ++ [state] else updates
  | .removed other => if other = sessionId then [] else updates

def BriefingPhase.storesOnto : BriefingPhase → Option BriefingPendingState
  | .storing pending _ _ _ _ => some pending
  | _ => none

theorem covers_refl
    (pending : BriefingPendingState) : Covers pending pending :=
  ⟨Nat.le_refl _, fun _ member => member⟩

theorem covers_trans
    (first second third : BriefingPendingState)
    (left : Covers first second)
    (right : Covers second third) : Covers first third :=
  ⟨Nat.le_trans left.1 right.1, fun topicId member => right.2 topicId (left.2 topicId member)⟩

/-- All updates are covered by the last one. -/
theorem covered_by_last
    (updates : List BriefingPendingState)
    (last : BriefingPendingState)
    (chain : updates.Pairwise Covers)
    (latest : updates.getLast? = some last)
    (update : BriefingPendingState)
    (member : update ∈ updates) : Covers update last := by
  rcases List.getLast?_eq_some_iff.mp latest with ⟨front, rfl⟩
  rcases List.mem_append.mp member with earlier | same
  · exact (List.pairwise_append.mp chain).2.2 update earlier last List.mem_cons_self
  · rw [List.mem_singleton.mp same]
    exact covers_refl last

section Progress

variable {Handler Env : Type}
variable (handle : Handler → QueryCall → Option ElicitFn → Env →
  Handler × Except PyError QueryResponse)
variable (settings : BriefingSettings) (sessionId : String)

/-- No call is under way and every stored state is filed under its own session. -/
structure Settled (state : OverlapState Handler Env) : Prop where
  idle : state.flights = []
  filed : ∀ key pending, state.world.pendings.get? key = some pending → pending.sessionId = key

/-- What has been stored for the session in the run since its state was last
removed, beginning with the state that is stored before the run. -/
def updatesOf (initial : OverlapState Handler Env) (inputs : List (OverlapInput Env)) :
    List BriefingPendingState :=
  (observed (overlapStep handle settings) overlapEvents initial inputs).foldl
    (keepUpdate sessionId) (initial.world.pendings.get? sessionId).toList

/-- If the step stores for the session, the state in the store, if there is
one, has nothing that the storing call has not read at its start. -/
def StoresOntoRead (state : OverlapState Handler Env) : OverlapInput Env → Prop
  | .resume index =>
      ∀ flight ∈ state.flights[index]?, ∀ read ∈ flight.phase.storesOnto,
        flight.call.sessionId = sessionId →
          ∀ stored ∈ state.world.pendings.get? sessionId, Covers stored read
  | _ => True

instance (state : OverlapState Handler Env) :
    (input : OverlapInput Env) → Decidable (StoresOntoRead sessionId state input)
  | .start _ _ => isTrue trivial
  | .expire _ => isTrue trivial
  | .resume index => inferInstanceAs (Decidable (∀ flight ∈ state.flights[index]?, _))

/-- The call has kept what it has read, and has not gone back. -/
def BriefingFlight.Advanced (flight : BriefingFlight Env) : Prop :=
  match flight.phase with
  | .querying pending index completed _ _ | .storing pending index completed _ _ =>
      pending.sessionId = flight.call.sessionId ∧
        Covers pending (pending.stoppedAt index completed)
  | _ => True

/-- The updates so far only add to each other, and the last of them is what is stored. -/
structure Progressed (state : OverlapState Handler Env) (updates : List BriefingPendingState) :
    Prop where
  chain : updates.Pairwise Covers
  latest : state.world.pendings.get? sessionId = updates.getLast?
  filed : ∀ key pending, state.world.pendings.get? key = some pending → pending.sessionId = key
  advanced : ∀ flight ∈ state.flights, flight.Advanced

theorem advanced_next_topic
    (flight : BriefingFlight Env)
    (pending : BriefingPendingState)
    (index : Nat)
    (completed : OrderedDict String QueryResponse)
    (errors : List String)
    (own : pending.sessionId = flight.call.sessionId)
    (kept : Covers pending (pending.stoppedAt index completed)) :
    BriefingFlight.Advanced { flight with phase := nextTopic pending index completed errors } := by
  unfold nextTopic
  cases pending.topics[index]? with
  | some topic => exact ⟨own, kept⟩
  | none => trivial

theorem covers_completed
    (pending : BriefingPendingState)
    (index : Nat)
    (completed : OrderedDict String QueryResponse)
    (topicId : String)
    (result : QueryResponse)
    (kept : Covers pending (pending.stoppedAt index completed)) :
    Covers pending (pending.stoppedAt (index + 1) (completed.set topicId result)) := by
  constructor
  · exact Nat.le_succ_of_le kept.1
  · intro other member
    rcases (OrderedDict.mem_keys_iff _ _).mp (kept.2 other member) with ⟨value, found⟩
    apply (OrderedDict.mem_keys_iff _ _).mpr
    change ∃ value, (completed.set topicId result).get? other = some value
    rw [OrderedDict.get?_set]
    split_ifs
    · exact ⟨result, rfl⟩
    · exact ⟨value, found⟩

theorem flight_step_advanced
    (flight : BriefingFlight Env)
    (world : BriefingWorld Handler)
    (filed : ∀ key pending, world.pendings.get? key = some pending → pending.sessionId = key)
    (advanced : flight.Advanced) :
    BriefingFlight.Advanced
      { flight with phase := (flightStep handle settings flight world).2 } := by
  rcases flight with ⟨call, env, phase⟩
  cases phase with
  | reading =>
      simp only [flightStep]
      cases found : world.pendings.get? call.sessionId with
      | some pending =>
          exact advanced_next_topic ⟨call, env, .reading⟩ pending _ _ _ (filed _ _ found)
            (covers_refl pending)
      | none => trivial
  | decomposing =>
      simp only [flightStep]
      split
      · trivial
      · trivial
      · trivial
      · exact advanced_next_topic ⟨call, env, .decomposing⟩ _ _ _ _ rfl (covers_refl _)
  | querying pending index completed errors topic =>
      simp only [flightStep]
      split
      · trivial
      · rename_i result answered
        split_ifs
        · exact advanced
        · exact advanced_next_topic ⟨call, env, .querying pending index completed errors topic⟩
            pending _ _ _ advanced.1
            (covers_completed pending index completed topic.topicId result advanced.2)
  | _ => trivial

/-- What a step does to the updates; only storing for the session adds one. -/
theorem progressed_event
    (pendings : BriefingTable)
    (updates : List BriefingPendingState)
    (event : StoreEvent)
    (chain : updates.Pairwise Covers)
    (latest : pendings.get? sessionId = updates.getLast?)
    (covers : ∀ state, event = .stored state → state.sessionId = sessionId →
      ∀ stored ∈ pendings.get? sessionId, Covers stored state) :
    (keepUpdate sessionId updates event).Pairwise Covers ∧
      (applyEvent pendings event).get? sessionId =
        (keepUpdate sessionId updates event).getLast? := by
  cases event with
  | removed other =>
      simp only [keepUpdate, applyEvent, OrderedDict.get?_erase]
      by_cases same : other = sessionId
      · rw [if_pos same, if_pos same.symm]
        exact ⟨List.Pairwise.nil, rfl⟩
      · rw [if_neg same, if_neg fun other => same other.symm]
        exact ⟨chain, latest⟩
  | stored state =>
      simp only [keepUpdate, applyEvent, OrderedDict.get?_set]
      by_cases same : state.sessionId = sessionId
      · rw [if_pos same, if_pos same.symm]
        constructor
        · rw [List.pairwise_append]
          refine ⟨chain, List.pairwise_singleton _ _, ?_⟩
          intro update member new isNew
          rw [List.mem_singleton.mp isNew]
          cases last : updates.getLast? with
          | none =>
              rw [List.getLast?_eq_none_iff.mp last] at member
              cases member
          | some stored =>
              have older := covered_by_last updates stored chain last update member
              exact covers_trans _ _ _ older (covers state rfl same stored (latest.trans last))
        · rw [List.getLast?_append]
          rfl
      · rw [if_neg same, if_neg fun other => same other.symm]
        exact ⟨chain, latest⟩

theorem stored_covers
    (flight : BriefingFlight Env)
    (advanced : flight.Advanced)
    (state : BriefingPendingState)
    (stores : .stored state ∈ flight.storeEvents) :
    state.sessionId = flight.call.sessionId ∧ ∃ read, flight.phase.storesOnto = some read ∧
      Covers read state := by
  rcases flight with ⟨call, env, phase⟩
  cases phase with
  | storing pending index completed topic question =>
      cases List.mem_singleton.mp stores
      exact ⟨advanced.1, pending, rfl, advanced.2⟩
  | deleting pending completed errors =>
      cases List.mem_singleton.mp stores
  | _ => cases stores

theorem one_event
    (state : OverlapState Handler Env)
    (input : OverlapInput Env) :
    overlapEvents state input = [] ∨ ∃ event, overlapEvents state input = [event] := by
  cases input with
  | start call env => exact Or.inl rfl
  | expire key => exact Or.inr ⟨.removed key, rfl⟩
  | resume index =>
      simp only [overlapEvents]
      cases state.flights[index]? with
      | none => exact Or.inl rfl
      | some flight =>
          rcases flight with ⟨call, env, phase⟩
          cases phase with
          | storing pending position completed topic question => exact Or.inr ⟨_, rfl⟩
          | deleting pending completed errors => exact Or.inr ⟨_, rfl⟩
          | _ => exact Or.inl rfl

/-- Under the condition, what a step stores covers what is stored. -/
theorem stored_onto_read
    (state : OverlapState Handler Env)
    (input : OverlapInput Env)
    (advanced : ∀ flight ∈ state.flights, flight.Advanced)
    (onto : StoresOntoRead sessionId state input)
    (new : BriefingPendingState)
    (stores : .stored new ∈ overlapEvents state input)
    (own : new.sessionId = sessionId) :
    ∀ stored ∈ state.world.pendings.get? sessionId, Covers stored new := by
  intro stored present
  cases input with
  | start call env => cases stores
  | expire key => cases List.mem_singleton.mp stores
  | resume index =>
      simp only [overlapEvents] at stores
      cases found : state.flights[index]? with
      | none =>
          rw [found] at stores
          cases stores
      | some flight =>
          rw [found] at stores
          have member := List.mem_of_getElem? found
          rcases stored_covers flight (advanced flight member) new stores with
            ⟨same, read, reads, kept⟩
          have fresh := onto flight found read reads (same.symm.trans own) stored present
          exact covers_trans _ _ _ fresh kept

theorem filed_event
    (pendings : BriefingTable)
    (event : StoreEvent)
    (filed : ∀ key pending, pendings.get? key = some pending → pending.sessionId = key)
    (key : String)
    (pending : BriefingPendingState)
    (found : (applyEvent pendings event).get? key = some pending) : pending.sessionId = key := by
  cases event with
  | stored state =>
      rw [applyEvent, OrderedDict.get?_set] at found
      split_ifs at found with same
      · cases found
        exact same.symm
      · exact filed key pending found
  | removed other =>
      rw [applyEvent, OrderedDict.get?_erase] at found
      split_ifs at found
      exact filed key pending found

theorem overlap_step_advanced
    (state : OverlapState Handler Env)
    (input : OverlapInput Env)
    (filed : ∀ key pending, state.world.pendings.get? key = some pending →
      pending.sessionId = key)
    (advanced : ∀ flight ∈ state.flights, flight.Advanced) :
    ∀ flight ∈ (overlapStep handle settings state input).1.flights, flight.Advanced := by
  intro flight member
  cases input with
  | start call env =>
      rcases List.mem_append.mp member with old | new
      · exact advanced flight old
      · rw [List.mem_singleton.mp new]
        trivial
  | expire key => exact advanced flight member
  | resume index =>
      simp only [overlapStep] at member
      cases found : state.flights[index]? with
      | none =>
          rw [found] at member
          exact advanced flight member
      | some moved =>
          rw [found] at member
          rcases List.mem_or_eq_of_mem_set member with old | same
          · exact advanced flight old
          · rw [same]
            exact flight_step_advanced handle settings moved state.world filed
              (advanced moved (List.mem_of_getElem? found))

theorem overlap_step_progressed
    (state : OverlapState Handler Env)
    (updates : List BriefingPendingState)
    (input : OverlapInput Env)
    (progressed : Progressed sessionId state updates)
    (onto : StoresOntoRead sessionId state input) :
    Progressed sessionId (overlapStep handle settings state input).1
      ((overlapEvents state input).foldl (keepUpdate sessionId) updates) := by
  have stores := overlap_step_pendings handle settings state input
  have covers := stored_onto_read sessionId state input progressed.advanced onto
  have advanced := overlap_step_advanced handle settings state input progressed.filed
    progressed.advanced
  rcases one_event state input with none | ⟨event, one⟩
  · rw [none] at stores ⊢
    constructor
    · exact progressed.chain
    · rw [stores]
      exact progressed.latest
    · rw [stores]
      exact progressed.filed
    · exact advanced
  · rw [one] at stores covers ⊢
    have next := progressed_event sessionId state.world.pendings updates event progressed.chain
      progressed.latest fun new same => covers new (List.mem_singleton.mpr same.symm)
    constructor
    · exact next.1
    · rw [stores]
      exact next.2
    · rw [stores]
      exact filed_event state.world.pendings event progressed.filed
    · exact advanced

theorem settled_progressed
    (initial : OverlapState Handler Env)
    (settled : Settled initial) :
    Progressed sessionId initial (initial.world.pendings.get? sessionId).toList := by
  constructor
  · cases initial.world.pendings.get? sessionId with
    | none => exact List.Pairwise.nil
    | some pending => exact List.pairwise_singleton _ _
  · cases initial.world.pendings.get? sessionId with
    | none => rfl
    | some pending => rfl
  · exact settled.filed
  · intro flight member
    rw [settled.idle] at member
    cases member

/-- However the calls overlap: if every call stores onto a state that it has
read, no update of the session is behind an earlier one. -/
theorem updates_progress
    (initial : OverlapState Handler Env)
    (settled : Settled initial)
    (inputs : List (OverlapInput Env))
    (onto : EveryStep (overlapStep handle settings) (StoresOntoRead sessionId) initial inputs) :
    (updatesOf handle settings sessionId initial inputs).Pairwise Covers := by
  have progressed := run_observed_invariant
    (fun state events => Progressed sessionId state
      (events.foldl (keepUpdate sessionId) (initial.world.pendings.get? sessionId).toList))
    (fun state past input progressed onto => by
      rw [List.foldl_append]
      exact overlap_step_progressed handle settings sessionId state _ input progressed onto)
    initial [] inputs (settled_progressed sessionId initial settled) onto
  exact progressed.chain

end Progress

def pendingQuestion (question : String) (call : QueryCall) : QueryResponse where
  sessionId := call.sessionId
  requiresUserInput := true
  clarificationQuestion := some question

def answeredScript (call : QueryCall) : Except PyError QueryResponse :=
  if call.query = secondTopic.suggestedQuery then .ok (pendingQuestion "how late?" call)
  else .ok (foundOne call)

def repeatedScript (call : QueryCall) : Except PyError QueryResponse :=
  .ok (pendingQuestion "which board?" call)

def askedState : OverlapState Unit (QueryCall → Except PyError QueryResponse) where
  world :=
    { handler := ()
      pendings := (∅ : BriefingTable).set "s"
        { sessionId := "s", agendaText := "daily", topics := [firstTopic, secondTopic] } }

def bothStart : List (OverlapInput (QueryCall → Except PyError QueryResponse)) :=
  [.start { sampleBriefing with clarificationAnswer := some "mine" }
      (scriptedEnvironment answeredScript),
    .start sampleBriefing (scriptedEnvironment repeatedScript)]

theorem asked_state_settled : Settled askedState := by
  constructor
  · rfl
  · intro key pending found
    rw [askedState, OrderedDict.get?_set] at found
    split_ifs at found with same
    · cases found
      exact same.symm
    · cases found

/-- Both have read the state before either stores; the one without news stores first. -/
theorem overlapping_calls_progress :
    (updatesOf scriptedHandle {} "s" askedState
      (bothStart ++ [.resume 0, .resume 1, .resume 1, .resume 1, .resume 0, .resume 0,
        .resume 0])).Pairwise Covers := by
  apply updates_progress scriptedHandle {} "s" askedState asked_state_settled
  decide +kernel

/-- The call that repeats the question stores after the one that has completed
the first topic: the index goes from 1 back to 0, and the result is gone. -/
theorem stale_call_rolls_back :
    Settled askedState ∧
      (updatesOf scriptedHandle {} "s" askedState
        (bothStart ++ [.resume 0, .resume 1, .resume 1, .resume 0, .resume 0, .resume 0,
          .resume 1])).map (fun update =>
            (update.currentTopicIdx, update.completedResults.keys)) =
        [(0, []), (1, ["topic_1"]), (0, [])] ∧
      ¬(updatesOf scriptedHandle {} "s" askedState
        (bothStart ++ [.resume 0, .resume 1, .resume 1, .resume 0, .resume 0, .resume 0,
          .resume 1])).Pairwise Covers := by
  refine ⟨asked_state_settled, ?_, ?_⟩
  · decide +kernel
  · decide +kernel

end AtlasMindNetra.BriefingOrchestrator
