import AtlasMindNetra.BriefingRuns
import Mathlib.Logic.Relation

/-!
# Overlapping calls of the briefing

A call of `generate_briefing` can be interrupted at every store operation and
at every collaborator call. Each of these is one step here, and calls of any
number of sessions take their steps in any order. A call that is not
interrupted does what `generateBriefing` does.
-/

namespace AtlasMindNetra.BriefingOrchestrator

open AtlasMindNetra.PythonValues AtlasMindNetra.ResponseModels AtlasMindNetra.EffectRules
open AtlasMindNetra.RunRules
open AtlasMindNetra.Orchestrator (QueryCall sessionSlug)

set_option autoImplicit false

/-- What a call does next, with its local variables. -/
inductive BriefingPhase where
  | reading
  | decomposing
  | querying (pending : BriefingPendingState) (index : Nat)
      (completed : OrderedDict String QueryResponse) (errors : List String) (topic : AgendaTopic)
  | storing (pending : BriefingPendingState) (index : Nat)
      (completed : OrderedDict String QueryResponse) (topic : AgendaTopic)
      (question : Option String)
  | deleting (pending : BriefingPendingState) (completed : OrderedDict String QueryResponse)
      (errors : List String)
  | concluding (pending : BriefingPendingState) (completed : OrderedDict String QueryResponse)
      (errors : List String)
  | finished (outcome : Except PyError BriefingResponse)

structure BriefingFlight (Env : Type) where
  call : BriefingCall
  env : BriefingEnvironment Env
  phase : BriefingPhase := .reading

/-- Where the loop is when it comes to topic number `index`. -/
def nextTopic (pending : BriefingPendingState) (index : Nat)
    (completed : OrderedDict String QueryResponse) (errors : List String) : BriefingPhase :=
  match pending.topics[index]? with
  | some topic => .querying pending index completed errors topic
  | none => .deleting pending completed errors

/-- What is done to the stored state of a session. -/
inductive StoreEvent where
  | stored (state : BriefingPendingState)
  | removed (sessionId : String)

def applyEvent (pendings : BriefingTable) : StoreEvent → BriefingTable
  | .stored state => pendings.set state.sessionId state
  | .removed sessionId => pendings.erase sessionId

def BriefingFlight.storeEvents {Env : Type} (flight : BriefingFlight Env) : List StoreEvent :=
  match flight.phase with
  | .storing pending index completed _ _ => [.stored (pending.stoppedAt index completed)]
  | .deleting _ _ _ => [.removed flight.call.sessionId]
  | _ => []

section Flights

variable {Handler Env : Type}
variable (handle : Handler → QueryCall → Option ElicitFn → Env →
  Handler × Except PyError QueryResponse)
variable (settings : BriefingSettings)

/-- One step of a call. What follows the deletion touches neither store and is
taken in one step. -/
def flightStep (flight : BriefingFlight Env) (world : BriefingWorld Handler) :
    BriefingWorld Handler × BriefingPhase :=
  match flight.phase with
  | .reading =>
      match world.pendings.get? flight.call.sessionId with
      | some pending =>
          (world, nextTopic pending pending.currentTopicIdx pending.completedResults [])
      | none => (world, .decomposing)
  | .decomposing =>
      match flight.env.decompose flight.call.agendaText flight.call.projects with
      | .error (.decomposition message) =>
          (world, .finished (.ok (failedResponse flight.call message)))
      | .error error => (world, .finished (.error error))
      | .ok [] => (world, .finished (.ok (emptyResponse flight.call)))
      | .ok topics =>
          (world, nextTopic
            { sessionId := flight.call.sessionId
              agendaText := flight.call.agendaText
              topics := topics } 0 ∅ [])
  | .querying pending index completed errors topic =>
      let query := topicCall settings flight.call topic (forwardedAnswer flight.call pending index)
      let (next, outcome) :=
        handle world.handler query flight.call.elicit (flight.env.handlerSide index)
      match outcome with
      | .error error => ({ world with handler := next }, .finished (.error error))
      | .ok result =>
          if result.requiresUserInput then
            ({ world with handler := next },
              .storing pending index completed topic result.clarificationQuestion)
          else
            ({ world with handler := next },
              nextTopic pending (index + 1) (completed.set topic.topicId result)
                (errors ++ topicErrors topic result))
  | .storing pending index completed topic question =>
      ({ world with
          pendings := world.pendings.set pending.sessionId (pending.stoppedAt index completed) },
        .finished (.ok (pendingResponse flight.call topic question)))
  | .deleting pending completed errors =>
      ({ world with pendings := world.pendings.erase flight.call.sessionId },
        .concluding pending completed errors)
  | .concluding pending completed errors =>
      (world, .finished
        (concludeBriefing settings flight.env.pipeline flight.call pending completed errors))
  | .finished outcome => (world, .finished outcome)

structure OverlapState (Handler Env : Type) where
  world : BriefingWorld Handler
  flights : List (BriefingFlight Env) := []

inductive OverlapInput (Env : Type) where
  | start (call : BriefingCall) (env : BriefingEnvironment Env)
  | resume (index : Nat)
  | expire (sessionId : String)

def overlapStep (state : OverlapState Handler Env) :
    OverlapInput Env → OverlapState Handler Env × Unit
  | .start call env =>
      ({ state with flights := state.flights ++ [{ call := call, env := env }] }, ())
  | .resume index =>
      match state.flights[index]? with
      | some flight =>
          let (world, phase) := flightStep handle settings flight state.world
          ({ world := world
             flights := state.flights.set index { flight with phase := phase } }, ())
      | none => (state, ())
  | .expire sessionId =>
      ({ state with
          world := { state.world with pendings := state.world.pendings.erase sessionId } }, ())

/-- What a step does to the store; expiry removes as well. -/
def overlapEvents (state : OverlapState Handler Env) : OverlapInput Env → List StoreEvent
  | .start _ _ => []
  | .resume index =>
      match state.flights[index]? with
      | some flight => flight.storeEvents
      | none => []
  | .expire sessionId => [.removed sessionId]

theorem flight_step_pendings
    (flight : BriefingFlight Env)
    (world : BriefingWorld Handler) :
    (flightStep handle settings flight world).1.pendings =
      flight.storeEvents.foldl applyEvent world.pendings := by
  rcases flight with ⟨call, env, phase⟩
  cases phase with
  | reading =>
      simp only [flightStep]
      split <;> rfl
  | decomposing =>
      simp only [flightStep]
      split <;> rfl
  | querying pending index completed errors topic =>
      simp only [flightStep]
      split
      · rfl
      · split_ifs <;> rfl
  | _ => rfl

theorem overlap_step_pendings
    (state : OverlapState Handler Env)
    (input : OverlapInput Env) :
    (overlapStep handle settings state input).1.world.pendings =
      (overlapEvents state input).foldl applyEvent state.world.pendings := by
  cases input with
  | start call env => rfl
  | expire sessionId => rfl
  | resume index =>
      simp only [overlapStep, overlapEvents]
      cases state.flights[index]? with
      | some flight => exact flight_step_pendings handle settings flight state.world
      | none => rfl

variable (env : BriefingEnvironment Env) (call : BriefingCall)

def Uninterruptedly : BriefingWorld Handler × BriefingPhase →
    BriefingWorld Handler × BriefingPhase → Prop :=
  Relation.ReflTransGen fun before after =>
    flightStep handle settings { call := call, env := env, phase := before.2 } before.1 = after

variable {handle settings env call}

theorem uninterruptedly_head
    (world after : BriefingWorld Handler)
    (phase next : BriefingPhase)
    (last : BriefingWorld Handler × BriefingPhase)
    (first : flightStep handle settings { call := call, env := env, phase := phase } world =
      (after, next))
    (rest : Uninterruptedly handle settings env call (after, next) last) :
    Uninterruptedly handle settings env call (world, phase) last :=
  Relation.ReflTransGen.head first rest

theorem query_step_raises
    (pending : BriefingPendingState)
    (index : Nat)
    (topic : AgendaTopic)
    (st : BriefingState Handler)
    (error : PyError)
    (failed : (topicQuery handle settings env call st index topic
      (forwardedAnswer call pending index)).outcome = .error error) :
    flightStep handle settings
        { call := call
          env := env
          phase := .querying pending index st.completed st.errors topic } st.close =
      ((st.asked handle settings env call index topic
        (forwardedAnswer call pending index)).close, .finished (.error error)) := by
  simp only [topicQuery] at failed
  simp only [flightStep, BriefingState.close, BriefingState.asked, failed]

theorem query_step_answers
    (pending : BriefingPendingState)
    (index : Nat)
    (topic : AgendaTopic)
    (st : BriefingState Handler)
    (result : QueryResponse)
    (answered : (topicQuery handle settings env call st index topic
      (forwardedAnswer call pending index)).outcome = .ok result) :
    flightStep handle settings
        { call := call
          env := env
          phase := .querying pending index st.completed st.errors topic } st.close =
      ((st.asked handle settings env call index topic
        (forwardedAnswer call pending index)).close,
        if result.requiresUserInput then
          .storing pending index st.completed topic result.clarificationQuestion
        else
          nextTopic pending (index + 1) (st.completed.set topic.topicId result)
            (st.errors ++ topicErrors topic result)) := by
  simp only [topicQuery] at answered
  simp only [flightStep, BriefingState.close, BriefingState.asked, answered]
  split_ifs <;> rfl

/-- The topic loop, step by step; the induction is on the topics left. -/
theorem uninterrupted_topics
    (pending : BriefingPendingState)
    (index : Nat)
    (topics : List AgendaTopic)
    (left : pending.topics.drop index = topics)
    (start : BriefingState Handler) :
    Ensures (queryTopics handle settings env call pending index topics) start
      (fun answer final => Uninterruptedly handle settings env call
        (start.close, nextTopic pending index start.completed start.errors)
        (final.close, match answer with
          | some question => .finished (.ok question)
          | none => .deleting pending final.completed final.errors))
      (fun error final => Uninterruptedly handle settings env call
        (start.close, nextTopic pending index start.completed start.errors)
        (final.close, .finished (.error error))) := by
  induction topics generalizing index start with
  | nil =>
      have past : pending.topics[index]? = none :=
        List.getElem?_eq_none (List.drop_eq_nil_iff.mp left)
      rw [queryTopics, ensures_pure, nextTopic, past]
      exact Relation.ReflTransGen.refl
  | cons topic rest ih =>
      have here : pending.topics[index]? = some topic := by
        rw [← List.head?_drop, left]
        rfl
      have later : pending.topics.drop (index + 1) = rest := by
        rw [← List.tail_drop, left]
        rfl
      have phase : nextTopic pending index start.completed start.errors =
          .querying pending index start.completed start.errors topic := by
        rw [nextTopic, here]
      rw [phase]
      apply (ensures_query_topics_cons handle settings env call pending index topic rest start
        _ _).mpr
      constructor
      · intro error failed
        exact Relation.ReflTransGen.single
          (query_step_raises pending index topic start error failed)
      · intro result answered
        have asked := query_step_answers pending index topic start result answered
        constructor
        · intro asks
          rw [if_pos asks] at asked
          apply uninterruptedly_head _ _ _ _ _ asked
          exact Relation.ReflTransGen.single rfl
        · intro silent
          rw [if_neg (Bool.eq_false_iff.mp silent)] at asked
          have onwards := ih (index + 1) later ((start.asked handle settings env call index topic
            (forwardedAnswer call pending index)).complete topic result)
          apply ensures_mono onwards
          · intro answer final steps
            exact uninterruptedly_head _ _ _ _ _ asked steps
          · intro error final steps
            exact uninterruptedly_head _ _ _ _ _ asked steps

theorem uninterrupted_pending
    (world : BriefingWorld Handler)
    (pending : BriefingPendingState) :
    Ensures (continueBriefing handle settings env call pending) (BriefingState.start world)
      (fun response final => Uninterruptedly handle settings env call
        (world, nextTopic pending pending.currentTopicIdx pending.completedResults [])
        (final.close, .finished (.ok response)))
      (fun error final => Uninterruptedly handle settings env call
        (world, nextTopic pending pending.currentTopicIdx pending.completedResults [])
        (final.close, .finished (.error error))) := by
  unfold continueBriefing
  rw [ensures_bind, ensures_modify, ensures_bind]
  apply ensures_mono (uninterrupted_topics pending pending.currentTopicIdx _ rfl
    (loopStart world pending))
  · intro answer final steps
    cases answer with
    | some question => exact steps
    | none =>
        have deleted := Relation.ReflTransGen.tail steps
          (rfl : flightStep handle settings
            { call := call
              env := env
              phase := .deleting pending final.completed final.errors } final.close = _)
        have concluded := Relation.ReflTransGen.tail deleted
          (rfl : flightStep handle settings
            { call := call
              env := env
              phase := .concluding pending final.completed final.errors } _ = _)
        rw [ensures_bind, ensures_modify, ensures_bind, ensures_get, ensures_fromOutcome]
        constructor
        · intro response returned
          rw [← returned]
          exact concluded
        · intro error raised
          rw [← raised]
          exact concluded
  · intro error final steps
    exact steps

variable (handle settings env call)

/-- A call that is not interrupted ends as `generateBriefing` does. -/
theorem uninterrupted_is_generate_briefing
    (world : BriefingWorld Handler) :
    Uninterruptedly handle settings env call (world, .reading)
      ((briefingStep handle settings world call env).1,
        .finished (briefingStep handle settings world call env).2.outcome) := by
  apply (briefing_step_iff handle settings env call world fun after record =>
    Uninterruptedly handle settings env call (world, .reading)
      (after, .finished record.outcome)).mpr
  unfold generateBriefing
  rw [ensures_bind, ensures_get]
  change Ensures (match world.pendings.get? call.sessionId with
    | some pending => continueBriefing handle settings env call pending
    | none => _) _ _ _
  cases found : world.pendings.get? call.sessionId with
  | some pending =>
      have read : flightStep handle settings { call := call, env := env, phase := .reading } world =
          (world, nextTopic pending pending.currentTopicIdx pending.completedResults []) := by
        simp only [flightStep, found]
      apply ensures_mono (uninterrupted_pending world pending)
      · intro response final steps
        exact uninterruptedly_head _ _ _ _ _ read steps
      · intro error final steps
        exact uninterruptedly_head _ _ _ _ _ read steps
  | none =>
      have read : flightStep handle settings { call := call, env := env, phase := .reading } world =
          (world, .decomposing) := by
        simp only [flightStep, found]
      simp only
      cases decomposed : env.decompose call.agendaText call.projects with
      | ok topics =>
          cases topics with
          | nil =>
              apply uninterruptedly_head _ _ _ _ _ read
              apply Relation.ReflTransGen.single
              simp only [flightStep, decomposed]
              rfl
          | cons topic rest =>
              have opened : flightStep handle settings
                  { call := call, env := env, phase := .decomposing } world =
                  (world, nextTopic
                    { sessionId := call.sessionId
                      agendaText := call.agendaText
                      topics := topic :: rest } 0 ∅ []) := by
                simp only [flightStep, decomposed]
              apply ensures_mono (uninterrupted_pending world _)
              · intro response final steps
                exact uninterruptedly_head _ _ _ _ _ read
                  (uninterruptedly_head _ _ _ _ _ opened steps)
              · intro error final steps
                exact uninterruptedly_head _ _ _ _ _ read
                  (uninterruptedly_head _ _ _ _ _ opened steps)
      | error error =>
          cases error with
          | decomposition message =>
              apply uninterruptedly_head _ _ _ _ _ read
              apply Relation.ReflTransGen.single
              simp only [flightStep, decomposed]
              rfl
          | _ =>
              apply uninterruptedly_head _ _ _ _ _ read
              apply Relation.ReflTransGen.single
              simp only [flightStep, decomposed]
              rfl

end Flights

end AtlasMindNetra.BriefingOrchestrator
