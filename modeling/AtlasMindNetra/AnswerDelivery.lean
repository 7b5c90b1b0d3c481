import AtlasMindNetra.OrchestratorRuns
import Mathlib.Algebra.GroupWithZero.Nat
import Mathlib.Algebra.Order.BigOperators.Group.List
import Mathlib.Algebra.Order.Group.Nat
import Mathlib.Data.List.Infix

/-!
# Where the answer to a question goes

A call that returns has saved its session, in `awaiting_clarification` if it
asked before the backend was queried and in `dispatched` otherwise. Only the
first state makes the next call look at its answer, so a question about a
backend error or about zero results cannot be answered.
-/

namespace AtlasMindNetra.Orchestrator

open AtlasMindNetra.PythonValues AtlasMindNetra.ResponseModels
open AtlasMindNetra.SessionStore AtlasMindNetra.ConventionsStore
open AtlasMindNetra.IntentClassifier AtlasMindNetra.EffectRules AtlasMindNetra.RunRules

set_option autoImplicit false

/-- The event hands `answer` to the clarifier or sends it to the backend. -/
def OrchestratorEvent.carries (answer : String) : OrchestratorEvent → Bool
  | .resolveRequested _ request => request.answer = answer
  | .backendQueried _ enriched _ => decide (answer.toList <:+: enriched.toList)
  | _ => false

def AnswerUsed (answer : String) (events : List OrchestratorEvent) : Prop :=
  ∃ event ∈ events, event.carries answer = true

def Awaits (world : World) (sessionId : String) : Prop :=
  ∃ session, world.sessions.get? sessionId = some session ∧
    session.state = .awaitingClarification

/-- In the world after a returning call the session waits exactly if the
backend has not been queried. -/
theorem awaits_iff_unsent
    (orch : OrchestratorConfig)
    (store : SessionBackend)
    (world : World)
    (keyed : KeyedTable world.sessions)
    (call : QueryCall)
    (env : QueryEnvironment)
    (response : QueryResponse)
    (returned : (queryStep orch store world call env).2.outcome = .ok response) :
    Awaits (queryStep orch store world call env).1 call.sessionId ↔
      ∀ event ∈ (queryStep orch store world call env).2.events, event.isBackendQuery = false := by
  have ends := (query_step_iff orch store world call env fun next record =>
    ∀ response, record.outcome = .ok response → (Awaits next call.sessionId ↔
      ∀ event ∈ record.events, event.isBackendQuery = false)).mpr ?_
  · exact ends response returned
  · refine ensures_mono (returned_session_settled orch store world keyed call env) ?_
      (fun _ _ _ response impossible => by simp at impossible)
    rintro value final ⟨settled, found⟩ _ _
    unfold Awaits
    rw [found]
    simp only [Option.some.injEq, exists_eq_left']
    rcases settled.phase with asked | sent
    · exact iff_of_true asked.awaits asked.unsent
    · rcases sent.sent with ⟨event, member, queried⟩
      refine iff_of_false (by rw [sent.done]; decide) fun unsent => ?_
      exact absurd (unsent event member) (by rw [queried]; decide)

theorem opened_session_stored
    (world : World)
    (sessionId : String)
    (session : SessionState)
    (stored : world.sessions.get? sessionId = some session) :
    ((CallState.start world sessionId).opened sessionId).session = session := by
  simp [CallState.opened, CallState.start, stored]

/-- A waiting session passes the answer to the clarifier before anything else. -/
theorem awaited_answer_used
    (orch : OrchestratorConfig)
    (store : SessionBackend)
    (world : World)
    (call : QueryCall)
    (env : QueryEnvironment)
    (answer : String)
    (given : truthyText call.clarificationAnswer = some answer)
    (awaits : Awaits world call.sessionId) :
    AnswerUsed answer (queryStep orch store world call env).2.events := by
  rcases awaits with ⟨session, stored, waiting⟩
  have pending : (openedSession call (CallState.start world call.sessionId)).state =
      .awaitingClarification := by
    rw [openedSession, opened_session_stored world call.sessionId session stored]
    exact waiting
  have stable : Stable orch call.sessionId fun st => AnswerUsed answer st.events :=
    { events := fun _ _ ⟨event, member, carried⟩ => ⟨event, List.mem_append_left _ member, carried⟩
      session := fun _ _ _ _ used => used
      remember := fun _ _ _ used => used
      persist := fun _ used => used
      save := fun _ used => used
      opened := fun st used => by
        unfold CallState.opened
        cases st.sessions.get? call.sessionId <;> exact used
      replaced := fun _ used => used }
  have preserves := stable.carried.preserves env
  have asked : ∀ text, truthyText call.clarificationAnswer = some text → AnswerUsed answer
      (answeredState orch call (CallState.start world call.sessionId) text).events := by
    intro text same
    obtain rfl : answer = text := Option.some.inj (given.symm.trans same)
    exact ⟨_, List.mem_append_right _ List.mem_cons_self, by
      simp [OrchestratorEvent.carries, resumedRequest, resolveRequest]⟩
  refine (query_step_iff orch store world call env fun _ record =>
    AnswerUsed answer record.events).mpr ?_
  rw [ensures_handle_query]
  intro opening path
  cases path with
  | notPending free => exact absurd pending free
  | resolveFailed text error _ answered failed => exact asked text answered
  | learnFailed text resolved error resolves fault =>
      exact learned_carries env.clarification stable.remember stable.persist _ _ _ _
        (asked text resolves.answered)
  | resumed text resolved resolves written =>
      exact fun ending detected => preserves.continues call (preserves.moved _ _ (by decide)
        (learned_carries env.clarification stable.remember stable.persist _ _ _ _
          (asked text resolves.answered))) detected
  | reissued _ _ silent _ => simp [given] at silent
  | abandoned _ silent _ => simp [given] at silent

/-- Without a waiting session the answer changes nothing about the call. -/
theorem unawaited_answer_ignored
    (orch : OrchestratorConfig)
    (store : SessionBackend)
    (world : World)
    (call : QueryCall)
    (env : QueryEnvironment)
    (other : Option String)
    (free : ¬Awaits world call.sessionId) :
    queryStep orch store world { call with clarificationAnswer := other } env =
      queryStep orch store world call env := by
  have idle : ((CallState.start world call.sessionId).opened call.sessionId).session.state ≠
      .awaitingClarification := by
    intro waiting
    cases stored : world.sessions.get? call.sessionId with
    | some session =>
        rw [opened_session_stored world call.sessionId session stored] at waiting
        exact free ⟨session, stored, waiting⟩
    | none => simp [CallState.opened, CallState.start, stored] at waiting
  have plain : ∀ answer, handleQuery orch env { call with clarificationAnswer := answer }
      (CallState.start world call.sessionId) =
      detectAndDispatch orch env call call.query
        ((CallState.start world call.sessionId).opened call.sessionId) := by
    intro answer
    change (if ((CallState.start world call.sessionId).opened call.sessionId).session.state =
      ClarificationState.awaitingClarification then _ else _ : Effect QueryResponse) _ = _
    rw [if_neg idle]
    rfl
  have same : handleQuery orch env call (CallState.start world call.sessionId) =
      detectAndDispatch orch env call call.query
        ((CallState.start world call.sessionId).opened call.sessionId) :=
    plain call.clarificationAnswer
  unfold queryStep
  rw [plain other, same]

def OrchestratorEvent.textLength : OrchestratorEvent → Nat
  | .resolveRequested _ request => request.answer.toList.length
  | .backendQueried _ enriched _ => enriched.toList.length
  | _ => 0

theorem long_answer_unused
    (events : List OrchestratorEvent)
    (answer : String)
    (longer : (events.map OrchestratorEvent.textLength).sum < answer.toList.length) :
    ¬AnswerUsed answer events := by
  rintro ⟨event, member, carried⟩
  have bounded : event.textLength ≤ (events.map OrchestratorEvent.textLength).sum :=
    List.le_sum_of_mem (List.mem_map_of_mem member)
  cases event with
  | resolveRequested path request =>
      have same : request.answer = answer := by simpa [OrchestratorEvent.carries] using carried
      subst same
      exact absurd (show request.answer.toList.length ≤ _ from bounded) (by omega)
  | backendQueried query enriched limit =>
      have part : answer.toList <:+: enriched.toList := by
        simpa [OrchestratorEvent.carries] using carried
      have fits := part.length_le
      exact absurd (show enriched.toList.length ≤ _ from bounded) (by omega)
  | _ => simp [OrchestratorEvent.carries] at carried

/-- A world in which the session is as `world` left it, whatever has happened
to other sessions and to the conventions meanwhile. -/
def SameSession (sessionId : String) (world later : World) : Prop :=
  later.sessions.get? sessionId = world.sessions.get? sessionId

structure FollowUp (call follow : QueryCall) (answer : String) : Prop where
  sameSession : follow.sessionId = call.sessionId
  sameQuery : follow.query = call.query
  answered : truthyText follow.clarificationAnswer = some answer

/-- The answer to a question is always used exactly if the session that asked
it was left waiting, and that is so exactly if the asking call had not queried
the backend. -/
theorem requested_answer_used_iff
    (orch : OrchestratorConfig)
    (store : SessionBackend)
    (world : World)
    (reached : ReachableWorld orch store world)
    (call : QueryCall)
    (env : QueryEnvironment)
    (response : QueryResponse)
    (returned : (queryStep orch store world call env).2.outcome = .ok response) :
    ((∀ later follow answer env',
        SameSession call.sessionId (queryStep orch store world call env).1 later →
        FollowUp call follow answer →
        AnswerUsed answer (queryStep orch store later follow env').2.events) ↔
      Awaits (queryStep orch store world call env).1 call.sessionId) ∧
    (Awaits (queryStep orch store world call env).1 call.sessionId ↔
      ∀ event ∈ (queryStep orch store world call env).2.events, event.isBackendQuery = false) := by
  refine ⟨⟨fun used => ?_, ?_⟩,
    awaits_iff_unsent orch store world (reachable_keyed orch store world reached) call env response
      returned⟩
  · by_contra free
    -- Without a waiting session the call passes on the same texts whatever the
    -- answer is, so an answer longer than all of them is not among them.
    let next := (queryStep orch store world call env).1
    let texts := (queryStep orch store next call env).2.events.map OrchestratorEvent.textLength
    let answer := String.ofList (List.replicate (texts.sum + 1) 'a')
    have given : truthyText (some answer) = some answer := by
      refine (truthy_text_some _ _).mpr ⟨rfl, fun blank => ?_⟩
      have length : answer.toList.length = texts.sum + 1 := by simp [answer]
      simp [blank] at length
    have taken := used next { call with clarificationAnswer := some answer } answer env rfl
      ⟨rfl, rfl, given⟩
    rw [unawaited_answer_ignored orch store next call env (some answer) free] at taken
    exact long_answer_unused _ answer (by simp [answer, texts]) taken
  · intro awaits later follow answer env' same follows
    refine awaited_answer_used orch store later follow env' answer follows.answered ?_
    unfold Awaits
    rw [follows.sameSession, same]
    exact awaits

def emptyBackend : QueryEnvironment :=
  { sampleEnvironment with backend := { query := fun _ _ => .ok { jql := some "project = A" } } }

def plainCall : QueryCall where
  query := "all bugs"
  sessionId := "s"

def zeroResultsQuestionResponse : QueryResponse where
  sessionId := "s"
  requiresUserInput := true
  clarificationQuestion := some (zeroResultsQuestion (some "project = A") ∅)
  jql := some "project = A"

theorem plain_call_asks :
    (queryStep sampleOrchestrator .inMemory {} plainCall emptyBackend).2.outcome =
      .ok zeroResultsQuestionResponse := rfl

theorem plain_call_answer_used_iff :
    ((∀ later follow answer env',
        SameSession "s" (queryStep sampleOrchestrator .inMemory {} plainCall emptyBackend).1 later →
        FollowUp plainCall follow answer →
        AnswerUsed answer (queryStep sampleOrchestrator .inMemory later follow env').2.events) ↔
      Awaits (queryStep sampleOrchestrator .inMemory {} plainCall emptyBackend).1 "s") ∧
    (Awaits (queryStep sampleOrchestrator .inMemory {} plainCall emptyBackend).1 "s" ↔
      ∀ event ∈ (queryStep sampleOrchestrator .inMemory {} plainCall emptyBackend).2.events,
        event.isBackendQuery = false) :=
  requested_answer_used_iff sampleOrchestrator .inMemory {} ⟨{}, [], trivial, rfl⟩ plainCall
    emptyBackend zeroResultsQuestionResponse plain_call_asks

/-- Zero results are asked about, and the answer goes nowhere. -/
theorem zero_results_answer_unused :
    (∃ response, response.requiresUserInput = true ∧
      (queryStep sampleOrchestrator .inMemory {} plainCall emptyBackend).2.outcome =
        .ok response) ∧
    ¬AnswerUsed "status is Done"
      (queryStep sampleOrchestrator .inMemory
        (queryStep sampleOrchestrator .inMemory {} plainCall emptyBackend).1
        { plainCall with clarificationAnswer := some "status is Done" } emptyBackend).2.events := by
  refine ⟨⟨zeroResultsQuestionResponse, rfl, plain_call_asks⟩, ?_⟩
  unfold AnswerUsed
  decide +kernel

end AtlasMindNetra.Orchestrator
