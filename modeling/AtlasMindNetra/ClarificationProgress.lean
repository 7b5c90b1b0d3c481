import AtlasMindNetra.AnswerDelivery
import AtlasMindNetra.TermAccounting

/-!
# A clarified query goes out

A session that waits for an answer was asked about every term that was open in
its pending query, and stays so in every reachable world. When the clarifier
resolves all terms it is asked about, the next answer therefore settles the
query, and only a result without issues can make the user be asked again.
-/

namespace AtlasMindNetra.Orchestrator

open AtlasMindNetra.PythonValues AtlasMindNetra.ResponseModels
open AtlasMindNetra.SessionStore AtlasMindNetra.ConventionsStore
open AtlasMindNetra.IntentClassifier AtlasMindNetra.EffectRules AtlasMindNetra.RunRules

set_option autoImplicit false

section Covering

variable (orch : OrchestratorConfig)

/-- The session or the conventions say what `term` means. -/
def KnownTerm (session : SessionState) (conventions : JsonFileConventionsStore)
    (term : String) : Prop :=
  interpretation orch session.resolutions conventions term ≠ none

/-- Every ambiguous term of the pending query is known or was asked about. -/
structure CoversPending (session : SessionState) (conventions : JsonFileConventionsStore) :
    Prop where
  rounds : 0 < orch.settings.maxRounds
  listed : ∀ term ∈ session.pendingTerms, term ∈ orch.vocab.terms
  covers : ∃ query, truthyText session.pendingQuery = some query ∧
    ∀ term ∈ detect orch.tables orch.vocab query,
      term ∈ session.pendingTerms ∨ KnownTerm orch session conventions term

def CoveredSession (session : SessionState) (conventions : JsonFileConventionsStore) : Prop :=
  session.state = .awaitingClarification → CoversPending orch session conventions

def CoveredTable (sessions : SessionTable) (conventions : JsonFileConventionsStore) : Prop :=
  ∀ sessionId session, sessions.get? sessionId = some session →
    CoveredSession orch session conventions

structure CoveredCall (st : CallState) : Prop where
  current : CoveredSession orch st.session st.conventions
  stored : CoveredTable orch st.sessions st.conventions

def KnowsMore (before after : JsonFileConventionsStore) : Prop :=
  ∀ term, before.get orch.tables instanceDefaultProject term ≠ none →
    after.get orch.tables instanceDefaultProject term ≠ none

theorem known_term_grows
    (session grown : SessionState)
    (before after : JsonFileConventionsStore)
    (resolutions : ∀ term, session.resolutions.get? term ≠ none →
      grown.resolutions.get? term ≠ none)
    (conventions : KnowsMore orch before after)
    (term : String)
    (known : KnownTerm orch session before term) : KnownTerm orch grown after term := by
  unfold KnownTerm interpretation at known ⊢
  cases later : grown.resolutions.get? term with
  | some resolution => simp
  | none =>
      have unheld : session.resolutions.get? term = none := by
        by_contra held
        exact resolutions term held later
      rw [unheld] at known
      simp only [ne_eq, Option.map_eq_none_iff] at known ⊢
      exact conventions term known

theorem covered_session_grows
    (session grown : SessionState)
    (before after : JsonFileConventionsStore)
    (state : grown.state = session.state)
    (query : grown.pendingQuery = session.pendingQuery)
    (terms : grown.pendingTerms = session.pendingTerms)
    (resolutions : ∀ term, session.resolutions.get? term ≠ none →
      grown.resolutions.get? term ≠ none)
    (conventions : KnowsMore orch before after)
    (covered : CoveredSession orch session before) : CoveredSession orch grown after := by
  intro awaiting
  rw [state] at awaiting
  rcases covered awaiting with ⟨rounds, listed, pending, asked, covers⟩
  rw [← terms] at listed
  refine ⟨rounds, listed, pending, ?_, ?_⟩
  · rw [query]
    exact asked
  · intro term detected
    rw [terms]
    rcases covers term detected with listed | known
    · exact Or.inl listed
    · exact Or.inr (known_term_grows orch session grown before after resolutions conventions term
        known)

theorem knows_more_refl
    (conventions : JsonFileConventionsStore) : KnowsMore orch conventions conventions :=
  fun _ known => known

theorem remember_knows_more
    (conventions : JsonFileConventionsStore)
    (learnedAt : String)
    (item : TermResolutionOutput) :
    KnowsMore orch conventions
      (conventions.remember orch.tables (learnedConvention orch learnedAt item)) := by
  intro term known
  rw [JsonFileConventionsStore.get_remember_default _ _ _ rfl]
  split_ifs
  · simp
  · exact known

theorem record_resolution_keeps
    (item : TermResolutionOutput)
    (session : SessionState)
    (term : String)
    (held : session.resolutions.get? term ≠ none) :
    (recordResolution orch item session).resolutions.get? term ≠ none := by
  rw [recordResolution, OrderedDict.get?_set]
  split_ifs
  · simp
  · exact held

theorem formulated_conventions
    (env : QueryEnvironment)
    (query : String)
    (start : CallState) : (formulated orch env query start).2.conventions = start.conventions := by
  unfold formulated formulation
  cases formulateRequest orch env start.conventions query (unresolvedTerms orch query start) <;> rfl

theorem replied_conventions
    (env : QueryEnvironment)
    (query : String)
    (start : CallState)
    (question : String) :
    (repliedState orch env query start question).conventions = start.conventions := by
  unfold repliedState CallState.elicited CallState.countRound
  split_ifs <;> exact formulated_conventions orch env query start

theorem unresolved_listed
    (query : String)
    (start : CallState)
    (term : String)
    (opened : term ∈ unresolvedTerms orch query start) : term ∈ orch.vocab.terms := by
  have detected := ((mem_unresolved_iff query start term).mp opened).1
  exact (List.mem_filter.mp detected).1

theorem asked_covers_pending
    (env : QueryEnvironment)
    (query : String)
    (start : CallState)
    (question : String)
    (asks : AsksQuestion orch env query start question)
    (session : SessionState)
    (resolutions : session.resolutions = start.session.resolutions) :
    CoversPending orch
      (awaitAnswer query (unresolvedTerms orch query start) question session)
      start.conventions := by
  constructor
  · exact Nat.lt_of_le_of_lt (Nat.zero_le _) asks.roundsLeft
  · exact unresolved_listed orch query start
  · refine ⟨query, ?_, ?_⟩
    · apply (truthy_text_some _ _).mpr
      exact ⟨rfl, asks.toNeedsQuestion.query_text⟩
    · intro term detected
      by_cases known : interpretation orch start.session.resolutions start.conventions term = none
      · left
        exact (mem_unresolved_iff query start term).mpr ⟨detected, known⟩
      · right
        rw [KnownTerm, awaitAnswer, resolutions]
        exact known

theorem covered_table_grows
    (sessions : SessionTable)
    (before after : JsonFileConventionsStore)
    (conventions : KnowsMore orch before after)
    (covered : CoveredTable orch sessions before) : CoveredTable orch sessions after := by
  intro sessionId session found
  exact covered_session_grows orch session session before after rfl rfl rfl (fun _ held => held)
    conventions (covered sessionId session found)

theorem covered_call_carried
    (sessionId : String) : Carried orch sessionId (CoveredCall orch) where
  events _ _ covered := ⟨covered.current, covered.stored⟩
  moved st newState other covered := by
    constructor
    · intro awaiting
      exact absurd awaiting other
    · exact covered.stored
  counted st covered := by
    constructor
    · exact covered_session_grows orch st.session _ st.conventions st.conventions rfl rfl rfl
        (fun _ held => held) (knows_more_refl orch _) covered.current
    · exact covered.stored
  cleared st covered := by
    constructor
    · intro awaiting
      cases awaiting
    · exact covered.stored
  awaits env query start question asks covered reached := by
    constructor
    · intro _
      have covers := asked_covers_pending orch env query start question asks
        { (repliedState orch env query start question).session with
          state := .awaitingClarification } (by rw [replied_session])
      rw [← replied_conventions orch env query start question] at covers
      exact covers
    · exact reached.stored
  remember st learnedAt item covered := by
    have grows := remember_knows_more orch st.conventions learnedAt item
    constructor
    · exact covered_session_grows orch st.session _ st.conventions _ rfl rfl rfl
        (record_resolution_keeps orch item st.session) grows covered.current
    · exact covered_table_grows orch st.sessions st.conventions _ grows covered.stored
  persist st covered := by
    have grows : KnowsMore orch st.conventions st.conventions.persist := fun _ known => known
    constructor
    · exact covered_session_grows orch st.session _ st.conventions _ rfl rfl rfl
        (fun _ held => held) grows covered.current
    · exact covered_table_grows orch st.sessions st.conventions _ grows covered.stored
  save st covered := by
    constructor
    · exact covered.current
    · intro other session found
      rw [CallState.save, OrderedDict.get?_set] at found
      split_ifs at found
      · rw [← Option.some.inj found]
        exact covered.current
      · exact covered.stored other session found
  opened st covered := by
    unfold CallState.opened
    cases found : st.sessions.get? sessionId with
    | some session => exact ⟨covered.stored sessionId session found, covered.stored⟩
    | none =>
        constructor
        · intro awaiting
          cases awaiting
        · exact covered.stored
  replaced st covered := by
    constructor
    · intro awaiting
      cases awaiting
    · exact covered.stored

theorem covered_close
    (store : SessionBackend)
    (final : CallState)
    (covered : CoveredCall orch final) :
    CoveredTable orch (final.close store).sessions (final.close store).conventions := by
  cases store with
  | valkey => exact covered.stored
  | inMemory =>
      change CoveredTable orch (if final.shared = true then
        final.sessions.set final.session.sessionId final.session else final.sessions) _
      split_ifs
      · exact ((covered_call_carried orch "").save final covered).stored
      · exact covered.stored

theorem covered_world_step
    (store : SessionBackend)
    (world : World)
    (input : OrchestratorInput)
    (covered : CoveredTable orch world.sessions world.conventions) :
    CoveredTable orch (worldStep orch store world input).1.sessions
      (worldStep orch store world input).1.conventions := by
  cases input with
  | call call env =>
      apply (query_step_iff orch store world call env fun next _ =>
        CoveredTable orch next.sessions next.conventions).mpr
      have start : CoveredCall orch (CallState.start world call.sessionId) := by
        constructor
        · intro awaiting
          cases awaiting
        · exact covered
      apply ensures_mono ((covered_call_carried orch call.sessionId).handle_query env call _ start)
      · exact fun _ final held => covered_close orch store final held
      · exact fun _ final held => covered_close orch store final held
  | expire sessionId =>
      intro other session found
      simp only [worldStep, OrderedDict.get?_erase] at found
      split_ifs at found
      exact covered other session found

theorem reachable_covered
    (store : SessionBackend)
    (world : World)
    (reached : ReachableWorld orch store world) :
    CoveredTable orch world.sessions world.conventions := by
  rcases reached with ⟨conventions, reached⟩
  apply reachable_invariant (fun world => CoveredTable orch world.sessions world.conventions) _ _
    reached
  · intro state input covered _
    exact covered_world_step orch store state input covered
  · intro sessionId session found
    simp at found

end Covering

/-- The clarifier resolves every term of the vocabulary it is asked about, and
neither the user's replies nor the stores fail. A clarifier may fail to
formulate a question. -/
structure ClarifierCooperates (orch : OrchestratorConfig) (side : ClarificationSide) : Prop where
  lookups : ∀ term, side.conventionsGet term = none
  writes : ∀ path index, side.conventionsSet path index = none
  lists : side.conventionsList = none
  fields : ∃ fields, side.loadFields = .ok fields
  formulates : ∀ request error, side.formulateQuestion request = .error error →
    error.clarification? ≠ none
  replies : ∀ elicit, side.elicit = some elicit → ∀ question, ∃ reply, elicit question = .ok reply
  resolves : ∀ path request, (∀ term ∈ request.terms, term ∈ orch.vocab.terms) →
    ∃ resolved, side.resolveAnswer path request = .ok resolved ∧ ∀ term ∈ request.terms,
      term ∈ resolved.resolutions.map fun item => orch.tables.lower item.term

/-- The backend answers every query, and reports fail only with errors that are caught. -/
structure BackendCooperates (backend : BackendSide) : Prop where
  answers : ∀ text limit, ∃ result, backend.query text limit = .ok result
  builds : ∀ query response error, backend.buildQueryReport query response = .error error →
    error.isOsOrNetra = true
  delivers : ∀ id content error, backend.deliver id content = .error error →
    error.isOsOrNetra = true

def FindsResults (backend : BackendSide) : Prop :=
  ∀ text limit result, backend.query text limit = .ok result → result.total ≠ 0

section Cooperation

variable (orch : OrchestratorConfig) (env : QueryEnvironment) (call : QueryCall)

theorem dispatch_answers
    (backend : BackendCooperates env.backend)
    (finds : FindsResults env.backend)
    (hidden : call.showInUi = false)
    (query : String)
    (active : ActiveTerms)
    (errors : List String)
    (start : CallState) :
    Ensures (dispatch orch env.backend call query active errors) start
      (fun response _ => response.requiresUserInput = false) (fun _ _ => False) := by
  rw [ensures_dispatch]
  rcases backend.answers (enrichedQuery query active) call.limit with ⟨result, answered⟩
  have found := finds _ _ result answered
  rw [answered]
  simp only [respond, if_neg found, ensures_bind, showResult, hidden, Bool.false_eq_true, if_false,
    ensures_pure]
  exact with_report_returns orch env.backend backend.builds backend.delivers query _ _

/-- From a session that is not resolved the call ends in a query with results
or in a question before the query. -/
theorem continues_cooperates
    (clarifier : ClarifierCooperates orch env.clarification)
    (backend : BackendCooperates env.backend)
    (finds : FindsResults env.backend)
    (hidden : call.showInUi = false)
    (query : String)
    (start : CallState)
    (unresolved : start.session.state ≠ .resolved)
    (ending : Ending)
    (path : Detects orch env query start ending) :
    Continues orch env call query
      (fun response final => response.requiresUserInput = true →
        final.session.state = .awaitingClarification)
      (fun _ _ => False) ending := by
  have answers : ∀ active errors st, Ensures
      (dispatch orch env.backend call query active errors) st
      (fun response final => response.requiresUserInput = true →
        final.session.state = .awaitingClarification) (fun _ _ => False) := by
    intro active errors st
    apply ensures_mono (dispatch_answers orch env call backend finds hidden query active errors st)
    · intro response final silent asks
      rw [silent] at asks
      cases asks
    · intro error final impossible
      exact impossible
  cases path with
  | lookupFailed error fault =>
      rw [firstLookupFault, lookup_fault_none env.clarification clarifier.lookups] at fault
      cases fault
  | allKnown lookups closed => exact answers _ _ _
  | exhausted lookups someOpen spent => exact answers _ _ _
  | unavailable error message needs failed caught => exact answers _ _ _
  | clarifierFailed error needs failed passed =>
      obtain ⟨request, raised⟩ := formulated_failure orch env clarifier.lists clarifier.fields query
        start error failed
      exact absurd passed (clarifier.formulates request error raised)
  | elicitFailed question error asks failed =>
      exact absurd failed (elicit_reply_returns env clarifier.replies question error)
  | unanswered question asks silent => exact fun _ => rfl
  | resolveFailed question answer error asks replied failed =>
      obtain ⟨resolved, resolves, _⟩ := clarifier.resolves .elicitation
        (elicitedRequest orch query start answer) (unresolved_listed orch query start)
      rw [resolves] at failed
      cases failed
  | learnFailed question answer resolved error resolves fault =>
      rw [learn_fault_none _ _ clarifier.writes] at fault
      cases fault
  | resolvedTwice question answer resolved resolves written already =>
      exact absurd already unresolved
  | elicited question answer resolved resolves written moves => exact answers _ _ _

theorem learned_keeps_known
    (path : AnswerPath)
    (items : List TermResolutionOutput)
    (start : CallState)
    (term : String)
    (known : KnownTerm orch start.session start.conventions term) :
    KnownTerm orch (learned orch env.clarification path 0 items start).session
      (learned orch env.clarification path 0 items start).conventions term := by
  apply @learned_carries orch (fun st => KnownTerm orch st.session st.conventions term)
    env.clarification _ _ path 0 items start known
  · intro st learnedAt item known
    exact known_term_grows orch st.session _ st.conventions _
      (record_resolution_keeps orch item st.session)
      (remember_knows_more orch st.conventions learnedAt item) term known
  · intro st known
    exact known

theorem resumed_settled
    (clarifier : ClarifierCooperates orch env.clarification)
    (start : CallState)
    (covers : CoversPending orch (openedSession call start) (start.opened call.sessionId).conventions)
    (answer : String)
    (resolved : ResolvedTerms)
    (resolves : ResolvesAnswer orch env call start answer resolved) :
    unresolvedTerms orch (resumedQuery call start)
      ((answerLearned orch env call start answer resolved).moved .resolved) = [] := by
  rcases covers with ⟨_, listed, query, pending, covers⟩
  have resumed : resumedQuery call start = query := by
    rw [resumedQuery, pending, Option.getD_some]
  have written := learn_fault_none env.clarification .roundTrip clarifier.writes 0
    resolved.resolutions
  apply List.eq_nil_iff_forall_not_mem.mpr
  intro term opened
  rcases (mem_unresolved_iff _ _ term).mp opened with ⟨detected, unknown⟩
  rw [resumed] at detected
  change interpretation orch (answerLearned orch env call start answer resolved).session.resolutions
    (answerLearned orch env call start answer resolved).conventions term = none at unknown
  rcases covers term detected with asked | known
  · obtain ⟨other, returned, all⟩ := clarifier.resolves .roundTrip
      (resumedRequest orch call start answer) listed
    have same : resolved = other := Except.ok.inj (resolves.resolves.symm.trans returned)
    have settled := all term asked
    rw [← same] at settled
    have held : (answerLearned orch env call start answer resolved).session.resolutions.get?
        term ≠ none := by
      intro missing
      exact ((learned_contains_iff 0 _ _ written term).mp missing).1 settled
    unfold interpretation at unknown
    cases found : (answerLearned orch env call start answer resolved).session.resolutions.get?
        term with
    | none => exact held found
    | some resolution =>
        rw [found] at unknown
        cases unknown
  · exact learned_keeps_known orch env .roundTrip resolved.resolutions
      (answeredState orch call start answer) term known unknown

theorem handle_query_answered
    (clarifier : ClarifierCooperates orch env.clarification)
    (backend : BackendCooperates env.backend)
    (finds : FindsResults env.backend)
    (hidden : call.showInUi = false)
    (start : CallState)
    (covered : CoveredSession orch (openedSession call start)
      (start.opened call.sessionId).conventions)
    (pending : (openedSession call start).state = .awaitingClarification)
    (answer : String)
    (given : truthyText call.clarificationAnswer = some answer) :
    Ensures (handleQuery orch env call) start
      (fun response _ => response.requiresUserInput = false) (fun _ _ => False) := by
  apply (ensures_handle_query orch env call start _ _).mpr
  intro opening path
  cases path with
  | notPending free => exact absurd pending free
  | reissued question _ silent repeats =>
      rw [given] at silent
      cases silent
  | abandoned _ silent differs =>
      rw [given] at silent
      cases silent
  | resolveFailed text error _ answered failed =>
      obtain ⟨resolved, resolves, _⟩ := clarifier.resolves .roundTrip
        (resumedRequest orch call start text) (covered pending).listed
      rw [resolves] at failed
      cases failed
  | learnFailed text resolved error resolves fault =>
      rw [learn_fault_none _ _ clarifier.writes] at fault
      cases fault
  | resumed text resolved resolves written =>
      have closed := resumed_settled orch env call clarifier start (covered pending) text resolved
        resolves
      intro ending detected
      exact continues_closed orch env call clarifier.lookups _ _ closed _ _
        (dispatch_answers orch env call backend finds hidden _ _ _ _) ending detected

/-- Whatever the call brings, it returns, and if it asks the session waits. -/
theorem handle_query_cooperates
    (clarifier : ClarifierCooperates orch env.clarification)
    (backend : BackendCooperates env.backend)
    (finds : FindsResults env.backend)
    (hidden : call.showInUi = false)
    (start : CallState)
    (covered : CoveredSession orch (openedSession call start)
      (start.opened call.sessionId).conventions)
    (unresolved : (openedSession call start).state ≠ .resolved) :
    Ensures (handleQuery orch env call) start
      (fun response final => response.requiresUserInput = true →
        final.session.state = .awaitingClarification)
      (fun _ _ => False) := by
  by_cases answering : (openedSession call start).state = .awaitingClarification ∧
      ∃ answer, truthyText call.clarificationAnswer = some answer
  · rcases answering with ⟨pending, answer, given⟩
    apply ensures_mono (handle_query_answered orch env call clarifier backend finds hidden start
      covered pending answer given)
    · intro response final silent asks
      rw [silent] at asks
      cases asks
    · intro error final impossible
      exact impossible
  · apply (ensures_handle_query orch env call start _ _).mpr
    intro opening path
    cases path with
    | notPending free =>
        intro ending detected
        exact continues_cooperates orch env call clarifier backend finds hidden _ _ unresolved ending
          detected
    | reissued question pending silent repeats => exact fun _ => pending
    | abandoned pending silent differs =>
        intro ending detected
        apply continues_cooperates orch env call clarifier backend finds hidden _ _ _ ending detected
        intro same
        cases same
    | resolveFailed text error pending answered failed =>
        exact absurd ⟨pending, text, answered⟩ answering
    | learnFailed text resolved error resolves fault =>
        exact absurd ⟨resolves.pending, text, resolves.answered⟩ answering
    | resumed text resolved resolves written =>
        exact absurd ⟨resolves.pending, text, resolves.answered⟩ answering

end Cooperation

section Worlds

variable (orch : OrchestratorConfig) (store : SessionBackend)
variable (world : World) (reached : ReachableWorld orch store world)
variable (call : QueryCall) (env : QueryEnvironment)

/-- No raised error has left the session in `resolved`. -/
def NotStuck (world : World) (sessionId : String) : Prop :=
  ∀ session, world.sessions.get? sessionId = some session → session.state ≠ .resolved

include reached in
theorem opened_covered :
    CoveredSession orch (openedSession call (CallState.start world call.sessionId))
      ((CallState.start world call.sessionId).opened call.sessionId).conventions := by
  have start : CoveredCall orch (CallState.start world call.sessionId) := by
    constructor
    · intro awaiting
      cases awaiting
    · exact reachable_covered orch store world reached
  exact ((covered_call_carried orch call.sessionId).opened _ start).current

theorem opened_not_resolved
    (calm : NotStuck world call.sessionId) :
    (openedSession call (CallState.start world call.sessionId)).state ≠ .resolved := by
  cases found : world.sessions.get? call.sessionId with
  | some session =>
      rw [openedSession, opened_session_stored world call.sessionId session found]
      exact calm session found
  | none =>
      rw [openedSession, CallState.opened, CallState.start, found]
      intro same
      cases same

include reached in
/-- With cooperating collaborators a call returns; when it asks, the session waits. -/
theorem cooperating_call_returns
    (clarifier : ClarifierCooperates orch env.clarification)
    (backend : BackendCooperates env.backend)
    (finds : FindsResults env.backend)
    (hidden : call.showInUi = false)
    (calm : NotStuck world call.sessionId) :
    ∃ response, (queryStep orch store world call env).2.outcome = .ok response ∧
      (response.requiresUserInput = true →
        Awaits (queryStep orch store world call env).1 call.sessionId) := by
  apply (query_step_iff orch store world call env fun next record =>
    ∃ response, record.outcome = .ok response ∧
      (response.requiresUserInput = true → Awaits next call.sessionId)).mpr
  apply ensures_mono (ensures_and
    (returned_session_settled orch store world (reachable_keyed orch store world reached) call env)
    (handle_query_cooperates orch env call clarifier backend finds hidden _
      (opened_covered orch store world reached call) (opened_not_resolved world call calm)))
  · intro response final both
    rcases both with ⟨⟨_, stored⟩, waits⟩
    exact ⟨response, rfl, fun asks => ⟨final.session, stored, waits asks⟩⟩
  · intro error final both
    exact both.2.elim

include reached in
theorem answered_call_completes
    (clarifier : ClarifierCooperates orch env.clarification)
    (backend : BackendCooperates env.backend)
    (finds : FindsResults env.backend)
    (hidden : call.showInUi = false)
    (awaits : Awaits world call.sessionId)
    (answer : String)
    (given : truthyText call.clarificationAnswer = some answer) :
    ∃ response, (queryStep orch store world call env).2.outcome = .ok response ∧
      response.requiresUserInput = false := by
  rcases awaits with ⟨session, found, waiting⟩
  have pending : (openedSession call (CallState.start world call.sessionId)).state =
      .awaitingClarification := by
    rw [openedSession, opened_session_stored world call.sessionId session found]
    exact waiting
  apply (query_step_iff orch store world call env fun _ record =>
    ∃ response, record.outcome = .ok response ∧ response.requiresUserInput = false).mpr
  apply ensures_mono (handle_query_answered orch env call clarifier backend finds hidden _
    (opened_covered orch store world reached call) pending answer given)
  · intro response final silent
    exact ⟨response, rfl, silent⟩
  · intro error final impossible
    exact impossible.elim

include reached in
theorem awaiting_allows_rounds
    (sessionId : String)
    (awaits : Awaits world sessionId) : 0 < orch.settings.maxRounds := by
  rcases awaits with ⟨session, found, waiting⟩
  exact (reachable_covered orch store world reached sessionId session found waiting).rounds

/-- A call touches its own session only. -/
theorem other_session_untouched_stable
    (sessionId other : String)
    (different : other ≠ sessionId)
    (before : Option SessionState) :
    Stable orch sessionId
      (fun st => KeyedCall sessionId st ∧ st.sessions.get? other = before) where
  events st more held := ⟨(keyed_call_stable orch sessionId).events st more held.1, held.2⟩
  session st session sameId sameTerms held :=
    ⟨(keyed_call_stable orch sessionId).session st session sameId sameTerms held.1, held.2⟩
  remember st learnedAt item held :=
    ⟨(keyed_call_stable orch sessionId).remember st learnedAt item held.1, held.2⟩
  persist st held := ⟨(keyed_call_stable orch sessionId).persist st held.1, held.2⟩
  save st held := by
    constructor
    · exact (keyed_call_stable orch sessionId).save st held.1
    · rw [CallState.save, held.1.current.ownId, OrderedDict.get?_set_other _ _ different]
      exact held.2
  opened st held := by
    constructor
    · exact (keyed_call_stable orch sessionId).opened st held.1
    · unfold CallState.opened
      cases st.sessions.get? sessionId with
      | some session => exact held.2
      | none => exact held.2
  replaced st held := ⟨(keyed_call_stable orch sessionId).replaced st held.1, held.2⟩

include reached in
theorem other_session_untouched
    (other : String)
    (different : other ≠ call.sessionId) :
    SameSession other world (queryStep orch store world call env).1 := by
  have keyed := keyed_start world call.sessionId (reachable_keyed orch store world reached)
  have stable := other_session_untouched_stable orch call.sessionId other different
    (world.sessions.get? other)
  apply (query_step_iff orch store world call env fun next _ => SameSession other world next).mpr
  have close : ∀ final, KeyedCall call.sessionId final ∧
      final.sessions.get? other = world.sessions.get? other →
      SameSession other world (final.close store) := by
    intro final held
    cases store with
    | valkey => exact held.2
    | inMemory =>
        change (if final.shared = true then final.sessions.set final.session.sessionId final.session
          else final.sessions).get? other = world.sessions.get? other
        split_ifs
        · exact (stable.save final held).2
        · exact held.2
  apply ensures_mono (stable.carried.handle_query env call _ ⟨keyed, rfl⟩)
  · exact fun _ final held => close final held
  · exact fun _ final held => close final held

end Worlds

end AtlasMindNetra.Orchestrator
