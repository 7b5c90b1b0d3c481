import AtlasMindNetra.TermAccounting

/-!
# What a stored session looks like

A store that keeps values holds a session only as some call saved it, and a
call saves in three places: before the backend is queried, when a question is
handed to the host, and when a pending question is repeated. Between two saves
the session may be in any shape.
-/

namespace AtlasMindNetra.Orchestrator

open AtlasMindNetra.PythonValues AtlasMindNetra.ResponseModels
open AtlasMindNetra.SessionStore AtlasMindNetra.ConventionsStore
open AtlasMindNetra.IntentClassifier AtlasMindNetra.EffectRules AtlasMindNetra.RunRules

set_option autoImplicit false

/-- No question that the clarifier formulates in this call is empty. -/
def OrchestratorInput.AsksText : OrchestratorInput → Prop
  | .call _ env => ∀ request needed, env.clarification.formulateQuestion request = .ok needed →
      needed.question ≠ ""
  | .expire _ => True

section Shape

variable (orch : OrchestratorConfig)

/-- Every resolution is filed under its own term, which is lower-cased, and
stems from a clarification. -/
def ClarifiedTerms (session : SessionState) : Prop :=
  ∀ key resolution, session.resolutions.get? key = some resolution →
    resolution.term = key ∧ (∃ name, key = orch.tables.lower name) ∧
      resolution.source = .clarification

structure AwaitsAnswer (session : SessionState) : Prop where
  question : ∃ question, truthyText session.pendingQuestion = some question
  someTerms : session.pendingTerms ≠ []
  query : ∃ query, truthyText session.pendingQuery = some query ∧
    ∀ term ∈ session.pendingTerms, term ∈ detect orch.tables orch.vocab query ∧
      session.resolutions.get? term = none
  started : 1 ≤ session.clarificationRounds
  bounded : session.clarificationRounds ≤ orch.settings.maxRounds

structure NothingPending (session : SessionState) : Prop where
  query : session.pendingQuery = none
  terms : session.pendingTerms = []
  question : session.pendingQuestion = none
  rounds : session.clarificationRounds = 0

structure WellStored (session : SessionState) : Prop where
  phase : session.state = .awaitingClarification ∧ AwaitsAnswer orch session ∨
    session.state = .dispatched ∧ NothingPending session
  terms : ClarifiedTerms orch session

/-- The table is well stored; the session in hand only has its terms in order. -/
structure StoringCall (st : CallState) : Prop where
  current : ClarifiedTerms orch st.session
  stored : ∀ sessionId session, st.sessions.get? sessionId = some session →
    WellStored orch session

variable {orch}

theorem clarified_fresh (sessionId : String) :
    ClarifiedTerms orch { sessionId := sessionId } := by
  intro key resolution found
  rw [OrderedDict.get?_empty] at found
  cases found

theorem clarified_remember
    (session : SessionState)
    (item : TermResolutionOutput)
    (clarified : ClarifiedTerms orch session) :
    ClarifiedTerms orch (recordResolution orch item session) := by
  intro key resolution found
  rw [recordResolution, OrderedDict.get?_set] at found
  split_ifs at found with same
  · cases found
    exact ⟨same.symm, ⟨item.term, same⟩, rfl⟩
  · exact clarified key resolution found

theorem storing_save
    (st : CallState)
    (storing : StoringCall orch st)
    (well : WellStored orch st.session) : StoringCall orch st.save := by
  constructor
  · exact storing.current
  · intro sessionId session found
    rw [CallState.save, OrderedDict.get?_set] at found
    split_ifs at found
    · cases found
      exact well
    · exact storing.stored sessionId session found

/-- A question is asked about terms that are open in the query, in a round that
the settings allow. -/
theorem asked_awaits_answer
    (env : QueryEnvironment)
    (query : String)
    (start : CallState)
    (question : String)
    (asks : AsksQuestion orch env query start question)
    (text : question ≠ "") :
    AwaitsAnswer orch
      (awaitAnswer query (unresolvedTerms orch query start) question
        { (repliedState orch env query start question).session with
          state := .awaitingClarification }) := by
  rw [replied_session]
  constructor
  · exact ⟨question, (truthy_text_some _ _).mpr ⟨rfl, text⟩⟩
  · exact asks.someOpen
  · refine ⟨query, (truthy_text_some _ _).mpr ⟨rfl, asks.toNeedsQuestion.query_text⟩, ?_⟩
    · intro term member
      have opened := (mem_unresolved_iff query start term).mp member
      refine ⟨opened.1, ?_⟩
      have unknown := opened.2
      unfold interpretation at unknown
      cases held : start.session.resolutions.get? term with
      | none => exact held
      | some resolution =>
          rw [held] at unknown
          cases unknown
  · exact Nat.le_add_left 1 _
  · exact asks.roundsLeft

theorem storing_preserves
    (call : QueryCall)
    (env : QueryEnvironment)
    (texts : (OrchestratorInput.call call env).AsksText) :
    Preserves orch env call.sessionId (StoringCall orch) where
  logged _ _ _ storing := ⟨storing.current, storing.stored⟩
  formulates _ _ _ _ storing := ⟨storing.current, storing.stored⟩
  unresolved _ _ _ _ _ storing := ⟨storing.current, storing.stored⟩
  resolves path request resolved st _ storing := by
    apply learned_carries env.clarification _ _ path 0 resolved.resolutions
      (st.log (.resolveRequested path request))
    · exact ⟨storing.current, storing.stored⟩
    · exact fun st _ item storing =>
        ⟨clarified_remember st.session item storing.current, storing.stored⟩
    · exact fun _ storing => ⟨storing.current, storing.stored⟩
  moved _ _ _ storing := ⟨storing.current, storing.stored⟩
  counted _ storing := ⟨storing.current, storing.stored⟩
  dispatches st storing := by
    apply storing_save
    · exact ⟨storing.current, storing.stored⟩
    · exact ⟨Or.inr ⟨rfl, rfl, rfl, rfl, rfl⟩, storing.current⟩
  awaits query start question asks _ reached := by
    have text : question ≠ "" := by
      rcases asks.needed with ⟨needed, formed, same⟩
      unfold formulated formulation at formed
      split at formed
      · cases formed
      · rw [← same]
        exact texts _ needed formed
    apply storing_save
    · exact ⟨reached.current, reached.stored⟩
    · exact ⟨Or.inl ⟨rfl, asked_awaits_answer env query start question asks text⟩,
        reached.current⟩
  opened st storing := by
    unfold CallState.opened
    cases found : st.sessions.get? call.sessionId with
    | some session =>
        exact ⟨(storing.stored call.sessionId session found).terms, storing.stored⟩
    | none => exact ⟨clarified_fresh call.sessionId, storing.stored⟩
  replaced _ storing := ⟨clarified_fresh call.sessionId, storing.stored⟩
  reissues st pending storing := by
    unfold CallState.opened at pending ⊢
    cases found : st.sessions.get? call.sessionId with
    | none =>
        rw [found] at pending
        cases pending
    | some session =>
        have well := storing.stored call.sessionId session found
        exact storing_save _ ⟨well.terms, storing.stored⟩ well

end Shape

section Worlds

variable (orch : OrchestratorConfig)

theorem well_stored_step
    (world : World)
    (input : OrchestratorInput)
    (stored : ∀ sessionId session, world.sessions.get? sessionId = some session →
      WellStored orch session)
    (texts : input.AsksText) :
    ∀ sessionId session,
      (worldStep orch .valkey world input).1.sessions.get? sessionId = some session →
      WellStored orch session := by
  cases input with
  | call call env =>
      apply (query_step_iff orch .valkey world call env fun next _ =>
        ∀ sessionId session, next.sessions.get? sessionId = some session →
          WellStored orch session).mpr
      have start : StoringCall orch (CallState.start world call.sessionId) :=
        ⟨clarified_fresh call.sessionId, stored⟩
      apply ensures_mono ((storing_preserves call env texts).handle_query call _ start)
      · intro response final storing
        exact storing.stored
      · intro error final storing
        exact storing.stored
  | expire sessionId =>
      intro other session found
      rw [worldStep, OrderedDict.get?_erase] at found
      split_ifs at found
      exact stored other session found

/-- In every reachable world of a store that keeps values, every stored session
waits for an answer to its question or has nothing pending. -/
theorem stored_sessions_well_formed
    (conventions : JsonFileConventionsStore)
    (world : World)
    (reached : Reachable (worldStep orch .valkey) (fun _ input => input.AsksText)
      { conventions := conventions } world)
    (sessionId : String)
    (session : SessionState)
    (found : world.sessions.get? sessionId = some session) : WellStored orch session := by
  have stored := reachable_invariant
    (fun world => ∀ sessionId session, world.sessions.get? sessionId = some session →
      WellStored orch session)
    (fun state input kept texts => well_stored_step orch state input kept texts)
    (fun _ _ absent => by simp at absent) reached
  exact stored sessionId session found

end Worlds

def openQuestion : OrchestratorInput :=
  .call { query := "open", sessionId := "s" } sampleEnvironment

theorem open_question_text : openQuestion.AsksText := by
  intro request needed formed
  cases formed
  intro blank
  have length := congrArg String.length blank
  simp at length

theorem open_question_well_formed :
    ∃ session,
      (worldStep sampleOrchestrator .valkey {} openQuestion).1.sessions.get? "s" = some session ∧
      session.state = .awaitingClarification ∧ WellStored sampleOrchestrator session := by
  have reached : Reachable (worldStep sampleOrchestrator .valkey)
      (fun _ input => input.AsksText) { conventions := {} }
      (worldStep sampleOrchestrator .valkey {} openQuestion).1 :=
    ⟨[openQuestion], ⟨open_question_text, trivial⟩, rfl⟩
  have waits : ((worldStep sampleOrchestrator .valkey {} openQuestion).1.sessions.get? "s").map
      SessionState.state = some .awaitingClarification := by decide +kernel
  rw [Option.map_eq_some_iff] at waits
  rcases waits with ⟨session, found, state⟩
  exact ⟨session, found, state,
    stored_sessions_well_formed sampleOrchestrator {} _ reached "s" session found⟩

end AtlasMindNetra.Orchestrator
