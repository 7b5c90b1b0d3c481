import AtlasMindNetra.OrchestratorRuns

/-!
# Which runs keep to the table of transitions

The table forbids leaving `resolved` for `resolved`. A call attempts this when
the answer that came with it left a term open and the host, asked again within
the same call, answers as well. Nothing else in the orchestrator can break the
table, so the runs that keep to it are characterised exactly.
-/

namespace AtlasMindNetra.Orchestrator

open AtlasMindNetra.PythonValues AtlasMindNetra.ResponseModels
open AtlasMindNetra.SessionStore AtlasMindNetra.ConventionsStore
open AtlasMindNetra.IntentClassifier AtlasMindNetra.EffectRules AtlasMindNetra.RunRules

set_option autoImplicit false

def OrchestratorEvent.Legal : OrchestratorEvent → Prop
  | .transition source target => target ∈ source.allowedTransitions
  | _ => True

/-- Every transition of the call is in the table, and no `StateTransitionError`
comes out of it. -/
def CallRecord.Legal (record : CallRecord) : Prop :=
  (∀ event ∈ record.events, event.Legal) ∧ ∀ message, record.outcome ≠ .error (.stateTransition message)

def ClarificationSide.Raises (env : ClarificationSide) (error : PyError) : Prop :=
  (∃ elicit question, env.elicit = some elicit ∧ elicit question = .error error) ∨
    (∃ request, env.formulateQuestion request = .error error) ∨
    (∃ path request, env.resolveAnswer path request = .error error) ∨
    (∃ term, env.conventionsGet term = some error) ∨
    (∃ path index, env.conventionsSet path index = some error) ∨
    env.conventionsList = some error ∨ env.loadFields = .error error

def QueryEnvironment.Raises (env : QueryEnvironment) (error : PyError) : Prop :=
  env.clarification.Raises error ∨ env.backend.Raises error

/-- `StateTransitionError` belongs to the session; no collaborator raises it. -/
def OrchestratorInput.Ordinary : OrchestratorInput → Prop
  | .call _ env => ∀ message, ¬env.Raises (.stateTransition message)
  | .expire _ => True

theorem legal_allows_questions : AllowsQuestions OrchestratorEvent.Legal :=
  ⟨fun _ => trivial, fun _ => trivial, fun _ _ => trivial⟩

section Paths

variable {orch : OrchestratorConfig} {env : QueryEnvironment} {call : QueryCall}

theorem lookup_fault_raises
    (side : ClarificationSide)
    (resolutions : OrderedDict String TermResolution)
    (terms : List String)
    (error : PyError)
    (fault : lookupFault side resolutions terms = some error) : side.Raises error := by
  induction terms with
  | nil => simp [lookupFault] at fault
  | cons term rest ih =>
      rw [lookupFault] at fault
      cases held : resolutions.get? term with
      | some resolution =>
          simp only [held] at fault
          exact ih fault
      | none =>
          cases failed : side.conventionsGet term with
          | some other =>
              simp only [held, failed, Option.some.injEq] at fault
              exact Or.inr (Or.inr (Or.inr (Or.inl ⟨term, fault ▸ failed⟩)))
          | none =>
              simp only [held, failed] at fault
              exact ih fault

theorem learn_fault_raises
    (side : ClarificationSide)
    (path : AnswerPath)
    (index : Nat)
    (items : List TermResolutionOutput)
    (error : PyError)
    (fault : learnFault side path index items = some error) : side.Raises error := by
  induction items generalizing index with
  | nil => simp [learnFault] at fault
  | cons item rest ih =>
      rw [learnFault] at fault
      cases failed : side.conventionsSet path index with
      | some other =>
          simp only [failed, Option.some.injEq] at fault
          exact Or.inr (Or.inr (Or.inr (Or.inr (Or.inl ⟨path, index, fault ▸ failed⟩))))
      | none =>
          simp only [failed] at fault
          exact ih _ fault

theorem formulated_raises
    (query : String)
    (start : CallState)
    (error : PyError)
    (failed : (formulated orch env query start).1 = .error error) :
    env.clarification.Raises error := by
  unfold formulated formulation formulateRequest at failed
  cases list : env.clarification.conventionsList with
  | some other =>
      simp only [list, Except.error.injEq] at failed
      exact Or.inr (Or.inr (Or.inr (Or.inr (Or.inr (Or.inl (failed ▸ list))))))
  | none =>
      cases load : env.clarification.loadFields with
      | error other =>
          simp only [list, load, Except.map, Except.error.injEq] at failed
          exact Or.inr (Or.inr (Or.inr (Or.inr (Or.inr (Or.inr (failed ▸ load))))))
      | ok fields =>
          simp only [list, load, Except.map] at failed
          exact Or.inr (Or.inl ⟨_, failed⟩)

theorem elicit_reply_raises
    (question : String)
    (error : PyError)
    (failed : elicitReply env question = .error error) : env.clarification.Raises error := by
  unfold elicitReply at failed
  cases host : env.clarification.elicit with
  | none => simp [host] at failed
  | some elicit =>
      cases reply : elicit question with
      | ok text => simp [host, reply, Except.map] at failed
      | error other =>
          simp only [host, reply, Except.map, Except.error.injEq] at failed
          exact Or.inl ⟨elicit, question, host, failed ▸ reply⟩

/-- The dispatch itself is always allowed and raises only what its
collaborators raise. -/
theorem dispatch_legal
    (query : String)
    (active : ActiveTerms)
    (errors : List String)
    (start : CallState)
    (legal : AllEvents OrchestratorEvent.Legal start) :
    Ensures (dispatch orch env.backend call query active errors) start
      (fun _ final => AllEvents OrchestratorEvent.Legal final)
      (fun error final => AllEvents OrchestratorEvent.Legal final ∧ env.Raises error) := by
  have sent : AllEvents OrchestratorEvent.Legal (start.dispatched call query active) :=
    (all_events_dispatched call query active start).mpr
      ⟨⟨legal, ClarificationState.dispatched_always_allowed _⟩, trivial⟩
  rw [ensures_dispatch]
  refine ensures_mono (respond_frame orch env.backend call query active errors _ _
    ⟨_, _, rfl⟩ _) ?_ ?_
  · exact fun response final answered =>
      (all_events_after_display _ final (fun _ => trivial) answered.1).mpr sent
  · exact fun error final raised =>
      ⟨(all_events_after_display _ final (fun _ => trivial) raised.1).mpr sent, Or.inr raised.2⟩

/-- From a state other than `resolved` every path keeps to the table; from
`resolved` every path but the elicited resolution does. -/
theorem continues_legal
    (query : String)
    (start : CallState)
    (legal : AllEvents OrchestratorEvent.Legal start)
    (ending : Ending)
    (path : Detects orch env query start ending)
    (single : ¬(start.session.state = .resolved ∧ ∃ question answer resolved,
      ResolvesElicited orch env query start question answer resolved ∧
        learnFault env.clarification .elicitation 0 resolved.resolutions = none)) :
    Continues orch env call query (fun _ final => AllEvents OrchestratorEvent.Legal final)
      (fun error final => AllEvents OrchestratorEvent.Legal final ∧ env.Raises error) ending := by
  have allows := legal_allows_questions
  cases path with
  | lookupFailed error fault => exact ⟨legal, Or.inl (lookup_fault_raises _ _ _ _ fault)⟩
  | allKnown _ _ => exact dispatch_legal _ _ _ _ legal
  | exhausted _ _ _ => exact dispatch_legal _ _ _ _ legal
  | unavailable error message needs failed caught =>
      exact dispatch_legal _ _ _ _ ((all_events_formulated orch env allows query start).mpr legal)
  | clarifierFailed error needs failed passed =>
      exact ⟨(all_events_formulated orch env allows query start).mpr legal,
        Or.inl (formulated_raises query start error failed)⟩
  | elicitFailed question error asks failed =>
      exact ⟨(all_events_replied orch env allows query start question).mpr legal,
        Or.inl (elicit_reply_raises question error failed)⟩
  | unanswered question asks silent =>
      exact (all_events_moved _ _).mpr
        ⟨(all_events_replied orch env allows query start question).mpr legal,
          ClarificationState.awaiting_always_allowed _⟩
  | resolveFailed question answer error asks replied failed =>
      exact ⟨(all_events_elicited orch env allows query start question answer).mpr legal,
        Or.inl (Or.inr (Or.inr (Or.inl ⟨_, _, failed⟩)))⟩
  | learnFailed question answer resolved error resolves fault =>
      exact ⟨(all_events_elicited_learned orch env allows query start question answer
          resolved).mpr legal,
        Or.inl (learn_fault_raises _ _ _ _ _ fault)⟩
  | resolvedTwice question answer resolved resolves written already =>
      exact absurd ⟨already, question, answer, resolved, resolves, written⟩ single
  | elicited question answer resolved resolves written moves =>
      refine dispatch_legal _ _ _ _ ((all_events_moved _ _).mpr
        ⟨(all_events_elicited_learned orch env allows query start question answer
          resolved).mpr legal, ?_⟩)
      rw [elicited_learned_state]
      exact (ClarificationState.resolved_allowed_iff _).mpr moves

/-- A call that resolves by elicitation what is already in state `resolved`:
because it also brought an answer to the pending question, or because an
earlier call failed and left the session there. -/
inductive ResolvesTwice (orch : OrchestratorConfig) (env : QueryEnvironment) (call : QueryCall)
    (start : CallState) : Prop
  | afterAnswer (answer : String) (resolved : ResolvedTerms)
      (resolves : ResolvesAnswer orch env call start answer resolved)
      (written : learnFault env.clarification .roundTrip 0 resolved.resolutions = none)
      (question reply : String) (more : ResolvedTerms)
      (again : ResolvesElicited orch env (resumedQuery call start)
        ((answerLearned orch env call start answer resolved).moved .resolved) question reply more)
      (stored : learnFault env.clarification .elicitation 0 more.resolutions = none)
  | leftResolved
      (left : (openedSession call start).state = .resolved)
      (question reply : String) (more : ResolvedTerms)
      (again : ResolvesElicited orch env call.query (start.opened call.sessionId)
        question reply more)
      (stored : learnFault env.clarification .elicitation 0 more.resolutions = none)

theorem handle_query_legal
    (start : CallState)
    (legal : AllEvents OrchestratorEvent.Legal start)
    (once : ¬ResolvesTwice orch env call start) :
    Ensures (handleQuery orch env call) start
      (fun _ final => AllEvents OrchestratorEvent.Legal final)
      (fun error final => AllEvents OrchestratorEvent.Legal final ∧ env.Raises error) := by
  have allows := legal_allows_questions
  have opens := (all_events_opened start call.sessionId).mpr legal
  have learns := fun answer resolved =>
    (all_events_answer_learned orch env call allows start answer
      resolved).mpr legal
  rw [ensures_handle_query]
  intro opening path
  cases path with
  | notPending free =>
      intro ending detected
      refine continues_legal _ _ opens ending detected ?_
      rintro ⟨left, question, answer, resolved, again, stored⟩
      exact once (.leftResolved left question answer resolved again stored)
  | resolveFailed answer error pending answered failed =>
      exact ⟨(all_events_log _ _).mpr ⟨opens, trivial⟩,
        Or.inl (Or.inr (Or.inr (Or.inl ⟨_, _, failed⟩)))⟩
  | learnFailed answer resolved error resolves fault =>
      exact ⟨learns answer resolved, Or.inl (learn_fault_raises _ _ _ _ _ fault)⟩
  | resumed answer resolved resolves written =>
      intro ending detected
      have awaited : (answerLearned orch env call start answer resolved).session.state =
          .awaitingClarification := by
        rw [answer_learned_state]
        exact resolves.pending
      refine continues_legal _ _ ((all_events_moved _ _).mpr ⟨learns answer resolved, ?_⟩) ending
        detected ?_
      · rw [awaited]
        exact (ClarificationState.resolved_allowed_iff _).mpr (by decide)
      · rintro ⟨-, question, reply, more, again, stored⟩
        exact once (.afterAnswer answer resolved resolves written question reply more again stored)
  | reissued question pending silent repeats => exact opens
  | abandoned pending silent differs =>
      intro ending detected
      refine continues_legal _ (start.replaced call.sessionId) legal ending detected ?_
      rintro ⟨left, _⟩
      exact absurd (show ClarificationState.idle = .resolved from left) (by decide)

/-- A call that resolves twice raises `StateTransitionError`. -/
theorem resolves_twice_raises
    (start : CallState)
    (twice : ResolvesTwice orch env call start)
    (returns : QueryResponse → CallState → Prop)
    (raises : PyError → CallState → Prop)
    (ends : Ensures (handleQuery orch env call) start returns raises) :
    ∃ message final, raises (.stateTransition message) final := by
  rw [ensures_handle_query] at ends
  cases twice with
  | afterAnswer answer resolved resolves written question reply more again stored =>
      exact ⟨_, _, ends _ (.resumed answer resolved resolves written) _
        (.resolvedTwice question reply more again stored rfl)⟩
  | leftResolved left question reply more again stored =>
      have free : (openedSession call start).state ≠ .awaitingClarification := by
        rw [left]
        decide
      exact ⟨_, _, ends _ (.notPending free) _
        (.resolvedTwice question reply more again stored left)⟩

end Paths

/-- The condition on one step, at the world before it. -/
def SingleResolution (orch : OrchestratorConfig) (world : World) : OrchestratorInput → Prop
  | .call call env => ¬ResolvesTwice orch env call (CallState.start world call.sessionId)
  | .expire _ => True

theorem world_step_legal_iff
    (orch : OrchestratorConfig)
    (store : SessionBackend)
    (world : World)
    (input : OrchestratorInput)
    (ordinary : input.Ordinary) :
    (∀ record, (worldStep orch store world input).2 = some record → record.Legal) ↔
      SingleResolution orch world input := by
  cases input with
  | expire sessionId => simp [worldStep, SingleResolution]
  | call call env =>
      change (∀ record, some (queryStep orch store world call env).2 = some record →
        record.Legal) ↔ _
      simp only [Option.some.injEq, forall_eq']
      rw [query_step_iff orch store world call env fun _ record => record.Legal]
      constructor
      · intro ends twice
        rcases resolves_twice_raises _ twice _ _ ends with ⟨message, final, -, silent⟩
        exact silent message rfl
      · intro once
        refine ensures_mono (handle_query_legal _ (fun _ member => by
          simp [CallState.start] at member) once) ?_ ?_
        · exact fun response final legal => ⟨legal, fun message => by simp⟩
        · rintro error final ⟨legal, raised⟩
          refine ⟨legal, fun message same => ?_⟩
          exact ordinary message (Except.error.inj same ▸ raised)

/-- The runs without an illegal transition, and without a `StateTransitionError`,
are those in which no call resolves twice. -/
theorem transitions_legal_iff
    (orch : OrchestratorConfig)
    (store : SessionBackend)
    (conventions : JsonFileConventionsStore)
    (inputs : List OrchestratorInput)
    (ordinary : ∀ input ∈ inputs, input.Ordinary) :
    (∀ output ∈ (run (worldStep orch store) { conventions := conventions } inputs).2,
      ∀ record, output = some record → record.Legal) ↔
      EveryStep (worldStep orch store) (SingleResolution orch) { conventions := conventions }
        inputs :=
  outputs_iff_every_step _ _ _ inputs fun world input member =>
    world_step_legal_iff orch store world input (ordinary input member)

/-- Two calls: the first asks for both terms, the second brings an answer that
settles one of them and can ask the user for the other. -/
def partialAnswerRun : List OrchestratorInput :=
  [.call { query := "open late", sessionId := "s" } sampleEnvironment,
    .call { query := "open late", sessionId := "s", clarificationAnswer := some "yes" }
      { sampleEnvironment with
        clarification := { sampleEnvironment.clarification with
          elicit := some fun _ => .ok (some "also yes") } }]

theorem partial_answer_run_ordinary : ∀ input ∈ partialAnswerRun, input.Ordinary := by
  intro input member
  rcases List.mem_cons.mp member with rfl | later
  · simp [OrchestratorInput.Ordinary, QueryEnvironment.Raises, ClarificationSide.Raises,
      BackendSide.Raises, sampleEnvironment]
  · obtain rfl := List.mem_singleton.mp later
    simp [OrchestratorInput.Ordinary, QueryEnvironment.Raises, ClarificationSide.Raises,
      BackendSide.Raises, sampleEnvironment]

theorem partial_answer_run_resolves_once_iff :
    (∀ output ∈ (run (worldStep sampleOrchestrator .valkey) {} partialAnswerRun).2,
      ∀ record, output = some record → record.Legal) ↔
      EveryStep (worldStep sampleOrchestrator .valkey) (SingleResolution sampleOrchestrator) {}
        partialAnswerRun :=
  transitions_legal_iff sampleOrchestrator .valkey {} partialAnswerRun partial_answer_run_ordinary

/-- With either store the second call leaves `resolved` for `resolved`. -/
theorem partial_answer_run_illegal :
    (∀ input ∈ partialAnswerRun, input.Ordinary) ∧
      ∀ store, ¬∀ output ∈ (run (worldStep sampleOrchestrator store) {} partialAnswerRun).2,
        ∀ record, output = some record → record.Legal := by
  refine ⟨partial_answer_run_ordinary, fun store legal => ?_⟩
  have attempted : (run (worldStep sampleOrchestrator store) {} partialAnswerRun).2.any
      (fun output => match output with
        | some record => decide (.transition .resolved .resolved ∈ record.events)
        | none => false) = true := by
    cases store <;> decide +kernel
  rcases List.any_eq_true.mp attempted with ⟨output, member, found⟩
  cases output with
  | none => simp at found
  | some record =>
      have listed := (legal _ member record rfl).1 (.transition .resolved .resolved)
        (by simpa using found)
      exact absurd (show ClarificationState.resolved ∈ ClarificationState.allowedTransitions
        .resolved from listed) (by decide)

end AtlasMindNetra.Orchestrator
