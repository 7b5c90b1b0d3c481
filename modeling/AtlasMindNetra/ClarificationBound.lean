import AtlasMindNetra.ClarificationProgress

/-!
# Clarification is bounded

A host that cannot elicit gets the clarifier's question back and answers it by
another call on the same session. Each question costs a round, and the rounds
of the session are only set back when the query is dispatched. So after at most
`max_rounds` questions an answer is followed by the dispatch of the query that
the conversation began with, whatever the clarifier makes of the answers.
-/

namespace AtlasMindNetra.Orchestrator

open AtlasMindNetra.PythonValues AtlasMindNetra.ResponseModels
open AtlasMindNetra.SessionStore AtlasMindNetra.ConventionsStore
open AtlasMindNetra.IntentClassifier AtlasMindNetra.EffectRules AtlasMindNetra.RunRules

set_option autoImplicit false

def ClarificationSide.StoreRaises (side : ClarificationSide) (error : PyError) : Prop :=
  (∃ term, side.conventionsGet term = some error) ∨
    (∃ path index, side.conventionsSet path index = some error) ∨
    side.conventionsList = some error ∨ side.loadFields = .error error

/-- A host without elicitation, and a clarifier that raises nothing. -/
structure PlainHost (side : ClarificationSide) : Prop where
  silent : side.elicit = none
  formulates : ∀ request, ∃ needed, side.formulateQuestion request = .ok needed
  resolves : ∀ path request, ∃ resolved, side.resolveAnswer path request = .ok resolved

theorem lookup_fault_raised
    (side : ClarificationSide)
    (resolutions : OrderedDict String TermResolution)
    (terms : List String)
    (error : PyError)
    (fault : lookupFault side resolutions terms = some error) : side.StoreRaises error := by
  induction terms with
  | nil => cases fault
  | cons term rest ih =>
      rw [lookupFault] at fault
      cases known : resolutions.get? term with
      | some resolution =>
          rw [known] at fault
          exact ih fault
      | none =>
          rw [known] at fault
          cases raised : side.conventionsGet term with
          | some first =>
              rw [raised] at fault
              cases Option.some.inj fault
              exact Or.inl ⟨term, raised⟩
          | none =>
              rw [raised] at fault
              exact ih fault

theorem learn_fault_raised
    (side : ClarificationSide)
    (path : AnswerPath)
    (index : Nat)
    (items : List TermResolutionOutput)
    (error : PyError)
    (fault : learnFault side path index items = some error) : side.StoreRaises error := by
  induction items generalizing index with
  | nil => cases fault
  | cons item rest ih =>
      rw [learnFault] at fault
      cases raised : side.conventionsSet path index with
      | some first =>
          rw [raised] at fault
          cases Option.some.inj fault
          exact Or.inr (Or.inl ⟨path, index, raised⟩)
      | none =>
          rw [raised] at fault
          exact ih (index + 1) fault

section Calls

variable (orch : OrchestratorConfig) (env : QueryEnvironment) (call : QueryCall)

theorem formulation_raised
    (host : PlainHost env.clarification)
    (query : String)
    (start : CallState)
    (error : PyError)
    (failed : (formulated orch env query start).1 = .error error) :
    env.clarification.StoreRaises error := by
  unfold formulated formulation formulateRequest at failed
  cases listed : env.clarification.conventionsList with
  | some raised =>
      rw [listed] at failed
      cases failed
      exact Or.inr (Or.inr (Or.inl listed))
  | none =>
      cases loaded : env.clarification.loadFields with
      | error raised =>
          rw [listed, loaded] at failed
          cases failed
          exact Or.inr (Or.inr (Or.inr loaded))
      | ok fields =>
          rw [listed, loaded] at failed
          rcases host.formulates _ with ⟨needed, formed⟩
          exact absurd (formed.symm.trans failed) (by simp)

def Sends (query : String) (final : CallState) : Prop :=
  ∃ enriched limit, .backendQueried query enriched limit ∈ final.events

theorem dispatch_sends
    (query : String)
    (active : ActiveTerms)
    (errors : List String)
    (start : CallState) :
    Ensures (dispatch orch env.backend call query active errors) start
      (fun _ final => Sends query final) (fun _ final => Sends query final) := by
  rw [ensures_dispatch]
  have queried : OrchestratorEvent.backendQueried query (enrichedQuery query active) call.limit ∈
      (start.dispatched call query active).events := by
    simp [CallState.dispatched]
  apply ensures_mono (respond_frame orch env.backend call query active errors _ _ ⟨_, _, rfl⟩ _)
  · rintro response final ⟨⟨shown, rfl⟩, _⟩
    exact ⟨_, _, List.mem_append_left _ queried⟩
  · rintro error final ⟨⟨shown, rfl⟩, _⟩
    exact ⟨_, _, List.mem_append_left _ queried⟩

structure AsksRound (query : String) (start final : CallState) : Prop where
  waits : final.session.state = .awaitingClarification
  pending : final.session.pendingQuery = some query
  nonempty : query ≠ ""
  counted : final.session.clarificationRounds = start.session.clarificationRounds + 1
  roundsLeft : start.session.clarificationRounds < orch.settings.maxRounds

/-- Without elicitation the query is asked about or sent, unless a store fails. -/
theorem continues_plain
    (host : PlainHost env.clarification)
    (query : String)
    (start : CallState)
    (ending : Ending)
    (path : Detects orch env query start ending) :
    Continues orch env call query
      (fun response final => response.requiresUserInput = true ∧ AsksRound orch query start final ∨
        Sends query final)
      (fun error final => Sends query final ∨ env.clarification.StoreRaises error) ending := by
  have sends (active : ActiveTerms) (errors : List String) (middle : CallState) :
      Ensures (dispatch orch env.backend call query active errors) middle
        (fun response final => response.requiresUserInput = true ∧
          AsksRound orch query start final ∨ Sends query final)
        (fun error final => Sends query final ∨ env.clarification.StoreRaises error) :=
    ensures_mono (dispatch_sends orch env call query active errors middle)
      (fun _ _ sent => Or.inr sent) (fun _ _ sent => Or.inl sent)
  have reply (question : String) : elicitReply env question = .ok none := by
    rw [elicitReply, host.silent]
  cases path with
  | lookupFailed error fault => exact Or.inr (lookup_fault_raised _ _ _ error fault)
  | allKnown lookups closed => exact sends _ _ _
  | exhausted lookups someOpen spent => exact sends _ _ _
  | unavailable error message needs failed caught => exact sends _ _ _
  | clarifierFailed error needs failed passed =>
      exact Or.inr (formulation_raised orch env host query start error failed)
  | elicitFailed question error asks failed =>
      rw [reply question] at failed
      cases failed
  | unanswered question asks silent =>
      apply Or.inl
      apply And.intro rfl
      constructor
      · rfl
      · rfl
      · exact asks.query_text
      · change (repliedState orch env query start question).session.clarificationRounds = _
        rw [replied_session]
      · exact asks.roundsLeft
  | resolveFailed question answer error asks replied failed =>
      rw [reply question] at replied
      cases replied
  | learnFailed question answer resolved error resolves fault =>
      have replied := resolves.replied
      rw [reply question] at replied
      cases replied
  | resolvedTwice question answer resolved resolves written already =>
      have replied := resolves.replied
      rw [reply question] at replied
      cases replied
  | elicited question answer resolved resolves written moves =>
      have replied := resolves.replied
      rw [reply question] at replied
      cases replied

theorem continues_mono
    (query : String)
    (returns weakerReturns : QueryResponse → CallState → Prop)
    (raises weakerRaises : PyError → CallState → Prop)
    (returned : ∀ response final, returns response final → weakerReturns response final)
    (raised : ∀ error final, raises error final → weakerRaises error final)
    (ending : Ending)
    (continues : Continues orch env call query returns raises ending) :
    Continues orch env call query weakerReturns weakerRaises ending := by
  cases ending with
  | dispatches active errors st => exact ensures_mono continues returned raised
  | awaits unresolved question st => exact returned _ _ continues
  | raises error st => exact raised _ _ continues

end Calls

/-- The call returned a question and has not queried the backend. -/
def CallRecord.Asks (record : CallRecord) : Prop :=
  (∃ response, record.outcome = .ok response ∧ response.requiresUserInput = true) ∧
    ∀ event ∈ record.events, event.isBackendQuery = false

def CallRecord.Dispatches (record : CallRecord) (query : String) : Prop :=
  ∃ enriched limit, .backendQueried query enriched limit ∈ record.events

def OtherSession (sessionId : String) : OrchestratorInput → Prop
  | .call call _ => call.sessionId ≠ sessionId
  | .expire other => other ≠ sessionId

/-- The next call of a host that has received `count` questions about the query:
the query itself, and then an answer with any query text. -/
structure HostCall (sessionId query : String) (count : Nat) (call : QueryCall) : Prop where
  own : call.sessionId = sessionId
  opens : count = 0 → call.query = query
  answers : count ≠ 0 → ∃ answer, truthyText call.clarificationAnswer = some answer

section Conversations

variable (orch : OrchestratorConfig) (store : SessionBackend) (sessionId query : String)

/-- From `start` on the host has received `count` questions, while other
sessions went on as they liked. -/
inductive Questioned (start : World) : Nat → World → Prop
  | opened : Questioned start 0 start
  | elsewhere (count : Nat) (world : World) (input : OrchestratorInput)
      (before : Questioned start count world)
      (other : OtherSession sessionId input) :
      Questioned start count (worldStep orch store world input).1
  | asked (count : Nat) (world : World) (call : QueryCall) (env : QueryEnvironment)
      (before : Questioned start count world)
      (turn : HostCall sessionId query count call)
      (host : PlainHost env.clarification)
      (asks : (queryStep orch store world call env).2.Asks) :
      Questioned start (count + 1) (queryStep orch store world call env).1

/-- The session waits for an answer about the query, and has spent a round on
each question. -/
structure HoldsQuestion (count : Nat) (session : SessionState) : Prop where
  waits : session.state = .awaitingClarification
  pending : session.pendingQuery = some query
  nonempty : query ≠ ""
  spent : count ≤ session.clarificationRounds
  bounded : session.clarificationRounds ≤ orch.settings.maxRounds

/-- Where the session stands after `count` questions. -/
def Standing (world : World) : Nat → Prop
  | 0 => ¬ Awaits world sessionId
  | count + 1 => ∃ session, world.sessions.get? sessionId = some session ∧
      HoldsQuestion orch query (count + 1) session

theorem standing_of_same
    (world later : World)
    (same : SameSession sessionId world later)
    (count : Nat)
    (standing : Standing orch sessionId query world count) :
    Standing orch sessionId query later count := by
  have kept : later.sessions.get? sessionId = world.sessions.get? sessionId := same
  cases count with
  | zero =>
      rintro ⟨session, found, waiting⟩
      exact standing ⟨session, kept ▸ found, waiting⟩
  | succ count =>
      rcases standing with ⟨session, found, holds⟩
      exact ⟨session, kept.trans found, holds⟩

theorem standing_elsewhere
    (world : World)
    (reached : ReachableWorld orch store world)
    (input : OrchestratorInput)
    (other : OtherSession sessionId input)
    (count : Nat)
    (standing : Standing orch sessionId query world count) :
    Standing orch sessionId query (worldStep orch store world input).1 count := by
  apply standing_of_same orch sessionId query world _ _ count standing
  cases input with
  | call call env =>
      exact other_session_untouched orch store world reached call env sessionId (Ne.symm other)
  | expire expired =>
      change (world.sessions.erase expired).get? sessionId = world.sessions.get? sessionId
      rw [OrderedDict.get?_erase, if_neg (Ne.symm other)]

/-- From the detection on, where `count` rounds have been spent. -/
theorem detection_continues
    (call : QueryCall)
    (env : QueryEnvironment)
    (host : PlainHost env.clarification)
    (start : CallState)
    (count : Nat)
    (spent : count ≤ start.session.clarificationRounds)
    (ending : Ending)
    (path : Detects orch env query start ending) :
    Continues orch env call query
      (fun response final => response.requiresUserInput = true ∧
        HoldsQuestion orch query (count + 1) final.session ∨ Sends query final)
      (fun error final => Sends query final ∨ env.clarification.StoreRaises error) ending := by
  apply continues_mono orch env call query _ _ _ _ _ _ ending
    (continues_plain orch env call host query start ending path)
  · intro response final asksOrSends
    rcases asksOrSends with ⟨asks, round⟩ | sent
    · have counted := round.counted
      have roundsLeft := round.roundsLeft
      apply Or.inl
      apply And.intro asks
      constructor
      · exact round.waits
      · exact round.pending
      · exact round.nonempty
      · omega
      · omega
    · exact Or.inr sent
  · intro error final raised
    exact raised

theorem opened_free
    (world : World)
    (free : ¬ Awaits world sessionId) :
    ((CallState.start world sessionId).opened sessionId).session.state ≠
      .awaitingClarification := by
  cases found : world.sessions.get? sessionId with
  | none =>
      rw [CallState.opened, CallState.start, found]
      intro waiting
      cases waiting
  | some session =>
      rw [opened_session_stored world sessionId session found]
      exact fun waiting => free ⟨session, found, waiting⟩

theorem host_call_continues
    (world : World)
    (count : Nat)
    (standing : Standing orch sessionId query world count)
    (call : QueryCall)
    (env : QueryEnvironment)
    (turn : HostCall sessionId query count call)
    (host : PlainHost env.clarification) :
    Ensures (handleQuery orch env call) (CallState.start world call.sessionId)
      (fun response final => response.requiresUserInput = true ∧
        HoldsQuestion orch query (count + 1) final.session ∨ Sends query final)
      (fun error final => Sends query final ∨ env.clarification.StoreRaises error) := by
  apply (ensures_handle_query orch env call _ _ _).mpr
  intro opening path
  rcases turn with ⟨rfl, opens, answers⟩
  cases count with
  | zero =>
      have free := opened_free call.sessionId world standing
      cases path with
      | notPending _ =>
          rw [opens rfl]
          exact detection_continues orch query call env host _ 0 (Nat.zero_le _)
      | resolveFailed answer error pending _ _ => exact absurd pending free
      | learnFailed answer resolved error resolves _ => exact absurd resolves.pending free
      | resumed answer resolved resolves _ => exact absurd resolves.pending free
      | reissued question pending _ _ => exact absurd pending free
      | abandoned pending _ _ => exact absurd pending free
  | succ count =>
      rcases standing with ⟨session, found, holds⟩
      rcases answers (Nat.succ_ne_zero count) with ⟨answer, given⟩
      have opened := opened_session_stored world call.sessionId session found
      have pending : (openedSession call (CallState.start world call.sessionId)).state =
          .awaitingClarification := by
        rw [openedSession, opened]
        exact holds.waits
      have resumed : resumedQuery call (CallState.start world call.sessionId) = query := by
        have text := (truthy_text_some (some query) query).mpr ⟨rfl, holds.nonempty⟩
        rw [resumedQuery, openedSession, opened, holds.pending, text, Option.getD_some]
      cases path with
      | notPending free => exact absurd pending free
      | resolveFailed text error _ _ failed =>
          rcases host.resolves .roundTrip _ with ⟨resolved, resolves⟩
          exact absurd (resolves.symm.trans failed) (by simp)
      | learnFailed text resolved error resolves fault =>
          exact Or.inr (learn_fault_raised _ _ _ _ error fault)
      | resumed text resolved resolves written =>
          have rounds : count + 1 ≤ ((answerLearned orch env call
              (CallState.start world call.sessionId) text resolved).moved
                .resolved).session.clarificationRounds := by
            change _ ≤ (answerLearned orch env call _ text resolved).session.clarificationRounds
            rw [answerLearned, learned_session]
            change _ ≤ ((CallState.start world call.sessionId).opened
              call.sessionId).session.clarificationRounds
            rw [opened]
            exact holds.spent
          rw [resumed]
          exact detection_continues orch query call env host _ (count + 1) rounds
      | reissued question _ silent _ =>
          rw [given] at silent
          cases silent
      | abandoned _ silent _ =>
          rw [given] at silent
          cases silent

theorem host_call_outcome
    (world : World)
    (reached : ReachableWorld orch store world)
    (count : Nat)
    (standing : Standing orch sessionId query world count)
    (call : QueryCall)
    (env : QueryEnvironment)
    (turn : HostCall sessionId query count call)
    (host : PlainHost env.clarification) :
    ((queryStep orch store world call env).2.Asks ∧
      Standing orch sessionId query (queryStep orch store world call env).1 (count + 1)) ∨
    (queryStep orch store world call env).2.Dispatches query ∨
    ∃ error, (queryStep orch store world call env).2.outcome = .error error ∧
      env.clarification.StoreRaises error := by
  apply (query_step_iff orch store world call env fun next record =>
    (record.Asks ∧ Standing orch sessionId query next (count + 1)) ∨ record.Dispatches query ∨
      ∃ error, record.outcome = .error error ∧ env.clarification.StoreRaises error).mpr
  apply ensures_mono (ensures_and
    (returned_session_settled orch store world (reachable_keyed orch store world reached) call env)
    (host_call_continues orch sessionId query world count standing call env turn host))
  · intro response final both
    rcases both with ⟨⟨settled, stored⟩, asksOrSends⟩
    rcases asksOrSends with ⟨asks, holds⟩ | sent
    · apply Or.inl
      rw [turn.own] at stored
      refine ⟨⟨⟨response, rfl, asks⟩, ?_⟩, ⟨final.session, stored, holds⟩⟩
      rcases settled.phase with asked | sent
      · exact asked.unsent
      · exact absurd (sent.done.symm.trans holds.waits) (by decide)
    · exact Or.inr (Or.inl sent)
  · intro error final both
    rcases both.2 with sent | raised
    · exact Or.inr (Or.inl sent)
    · exact Or.inr (Or.inr ⟨error, rfl, raised⟩)

theorem asking_not_dispatching
    (record : CallRecord)
    (asks : record.Asks) : ¬ record.Dispatches query ∧ ∀ error, record.outcome ≠ .error error := by
  rcases asks with ⟨⟨response, returned, _⟩, unsent⟩
  constructor
  · rintro ⟨enriched, limit, queried⟩
    cases unsent _ queried
  · intro error raised
    cases returned.symm.trans raised

theorem world_step_reachable
    (world : World)
    (input : OrchestratorInput)
    (reached : ReachableWorld orch store world) :
    ReachableWorld orch store (worldStep orch store world input).1 := by
  rcases reached with ⟨conventions, reached⟩
  exact ⟨conventions, reachable_next input reached trivial⟩

theorem questioned_standing
    (start : World)
    (reached : ReachableWorld orch store start)
    (free : ¬ Awaits start sessionId)
    (count : Nat)
    (world : World)
    (questioned : Questioned orch store sessionId query start count world) :
    ReachableWorld orch store world ∧ Standing orch sessionId query world count := by
  induction questioned with
  | opened => exact ⟨reached, free⟩
  | elsewhere count world input _ other ih =>
      exact ⟨world_step_reachable orch store world input ih.1,
        standing_elsewhere orch store sessionId query world ih.1 input other count ih.2⟩
  | asked count world call env _ turn host asks ih =>
      have none := asking_not_dispatching query _ asks
      constructor
      · exact world_step_reachable orch store world (.call call env) ih.1
      · rcases host_call_outcome orch store sessionId query world ih.1 count ih.2 call env turn host
          with ⟨_, standing⟩ | dispatched | ⟨error, raised, _⟩
        · exact standing
        · exact absurd dispatched none.1
        · exact absurd raised (none.2 error)

/-- A session that was not waiting is asked at most `max_rounds` questions about
a query, and a call that does not ask one more dispatches the query itself. A
failing store is the only other way. -/
theorem clarification_bounded
    (start : World)
    (reached : ReachableWorld orch store start)
    (free : ¬ Awaits start sessionId)
    (count : Nat)
    (world : World)
    (questioned : Questioned orch store sessionId query start count world) :
    count ≤ orch.settings.maxRounds ∧
      ∀ call env, HostCall sessionId query count call → PlainHost env.clarification →
        (queryStep orch store world call env).2.Asks ∧ count < orch.settings.maxRounds ∨
        (queryStep orch store world call env).2.Dispatches query ∨
        ∃ error, (queryStep orch store world call env).2.outcome = .error error ∧
          env.clarification.StoreRaises error := by
  rcases questioned_standing orch store sessionId query start reached free count world questioned
    with ⟨reachedNow, standing⟩
  have spent (later : World) (asked : Nat)
      (stands : Standing orch sessionId query later (asked + 1)) :
      asked + 1 ≤ orch.settings.maxRounds := by
    rcases stands with ⟨session, _, holds⟩
    exact holds.spent.trans holds.bounded
  constructor
  · cases count with
    | zero => exact Nat.zero_le _
    | succ count => exact spent world count standing
  · intro call env turn host
    rcases host_call_outcome orch store sessionId query world reachedNow count standing call env turn
      host with ⟨asks, stands⟩ | dispatched | raised
    · exact Or.inl ⟨asks, spent _ count stands⟩
    · exact Or.inr (Or.inl dispatched)
    · exact Or.inr (Or.inr raised)

end Conversations

def askOpen : QueryCall := { query := "open", sessionId := "s" }

theorem sample_host_plain : PlainHost sampleEnvironment.clarification :=
  ⟨rfl, fun _ => ⟨_, rfl⟩, fun _ _ => ⟨_, rfl⟩⟩

/-- One question about `open` is asked, and the answer, sent with another text,
dispatches `open`. -/
theorem open_question_bounded :
    (queryStep sampleOrchestrator .inMemory
      (queryStep sampleOrchestrator .inMemory {} askOpen sampleEnvironment).1
      { answerOpen with query := "go on" } sampleEnvironment).2.Dispatches "open" ∧
    1 ≤ sampleOrchestrator.settings.maxRounds := by
  have reached : ReachableWorld sampleOrchestrator .inMemory {} := ⟨{}, [], trivial, rfl⟩
  have free : ¬ Awaits {} "s" := by
    rintro ⟨session, found, _⟩
    cases found
  have asked : (queryStep sampleOrchestrator .inMemory {} askOpen sampleEnvironment).2.Asks := by
    constructor
    · exact ⟨_, rfl, rfl⟩
    · decide +kernel
  have questioned : Questioned sampleOrchestrator .inMemory "s" "open" {} 1 _ :=
    Questioned.asked 0 {} askOpen sampleEnvironment .opened
      ⟨rfl, fun _ => rfl, fun some => absurd rfl some⟩ sample_host_plain asked
  have bounded := clarification_bounded sampleOrchestrator .inMemory "s" "open" {} reached free 1 _
    questioned
  have answering : HostCall "s" "open" 1 { answerOpen with query := "go on" } :=
    ⟨rfl, fun none => absurd none (by decide), fun _ => ⟨"yes", rfl⟩⟩
  apply And.intro _ bounded.1
  rcases bounded.2 _ sampleEnvironment answering sample_host_plain with
    ⟨asks, _⟩ | sent | ⟨error, _, raises⟩
  · have queried := asks.2
      (.backendQueried "open" "open (interpretation hints: open -> hint)" none) (by decide +kernel)
    cases queried
  · exact sent
  · rcases raises with ⟨_, fault⟩ | ⟨_, _, fault⟩ | fault | fault <;> cases fault

end AtlasMindNetra.Orchestrator
