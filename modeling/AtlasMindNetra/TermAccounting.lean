import AtlasMindNetra.OrchestratorRuns

/-!
# What happens to every ambiguous term of a dispatched query

A dispatched term is listed among the applied interpretations or covered by a
notice, with one exception: terms that an elicited answer leaves open are
dropped without a word. `DropsElicitedTerm` says when that happens.
-/

namespace AtlasMindNetra.Orchestrator

open AtlasMindNetra.PythonValues AtlasMindNetra.ResponseModels
open AtlasMindNetra.SessionStore AtlasMindNetra.ConventionsStore
open AtlasMindNetra.IntentClassifier AtlasMindNetra.EffectRules AtlasMindNetra.RunRules

set_option autoImplicit false

/-- An entry of `errors` says that the term went out unresolved. -/
def Covered (term : String) (errors : List String) : Prop :=
  (∃ terms, term ∈ terms ∧ exhaustedNotice terms ∈ errors) ∨
    ∃ message, unavailableNotice message ∈ errors

/-- Every ambiguous term of a query sent to the backend is applied or covered. -/
def CallRecord.AccountsForTerms (orch : OrchestratorConfig) (record : CallRecord) : Prop :=
  ∀ response query enriched limit, record.outcome = .ok response →
    .backendQueried query enriched limit ∈ record.events →
    ∀ term ∈ detect orch.tables orch.vocab query,
      (∃ applied ∈ response.appliedConventions, applied.term = term) ∨
        Covered term response.errors

theorem covered_mono
    {term : String}
    {errors more : List String}
    (longer : errors <+: more)
    (covered : Covered term errors) : Covered term more := by
  rcases covered with ⟨terms, member, listed⟩ | ⟨message, listed⟩
  · exact Or.inl ⟨terms, member, longer.subset listed⟩
  · exact Or.inr ⟨message, longer.subset listed⟩

def KeyedTerms (active : ActiveTerms) : Prop :=
  ∀ term resolution, active.get? term = some resolution → resolution.term = term

theorem applied_iff
    (active : ActiveTerms)
    (keyed : KeyedTerms active)
    (term : String) :
    (∃ applied ∈ appliedConventions active, applied.term = term) ↔
      ∃ resolution, active.get? term = some resolution := by
  simp only [appliedConventions, List.mem_map, OrderedDict.mem_values_iff]
  constructor
  · rintro ⟨applied, ⟨resolution, ⟨key, found⟩, rfl⟩, same⟩
    obtain rfl : key = term := (keyed key resolution found).symm.trans same
    exact ⟨resolution, found⟩
  · rintro ⟨resolution, found⟩
    exact ⟨_, ⟨resolution, ⟨term, found⟩, rfl⟩, keyed term resolution found⟩

section Terms

variable {orch : OrchestratorConfig}

theorem activate_known_get
    (resolutions : OrderedDict String TermResolution)
    (conventions : JsonFileConventionsStore)
    (active : ActiveTerms)
    (terms : List String)
    (term : String) :
    (activateKnown orch resolutions conventions active terms).get? term =
      if term ∈ terms then
        (interpretation orch resolutions conventions term).or (active.get? term)
      else active.get? term :=
  OrderedDict.get?_overlay (interpretation orch resolutions conventions) active terms term

theorem activate_resolved_get
    (resolutions : OrderedDict String TermResolution)
    (active : ActiveTerms)
    (unresolved : List String)
    (term : String) :
    (activateResolved resolutions active unresolved).get? term =
      if term ∈ unresolved then (resolutions.get? term).or (active.get? term)
      else active.get? term :=
  OrderedDict.get?_overlay resolutions.get? active unresolved term

theorem mem_unresolved_iff
    (query : String)
    (start : CallState)
    (term : String) :
    term ∈ unresolvedTerms orch query start ↔
      term ∈ detect orch.tables orch.vocab query ∧
        interpretation orch start.session.resolutions start.conventions term = none := by
  simp [unresolvedTerms, openTerms, List.mem_filter]

theorem known_terms_get
    (query : String)
    (start : CallState)
    (term : String)
    (detected : term ∈ detect orch.tables orch.vocab query) :
    (knownTerms orch query start).get? term =
      interpretation orch start.session.resolutions start.conventions term := by
  rw [knownTerms, activate_known_get, if_pos detected, OrderedDict.get?_empty, Option.or_none]

theorem interpretation_keyed
    (resolutions : OrderedDict String TermResolution)
    (conventions : JsonFileConventionsStore)
    (keyed : KeyedTerms resolutions)
    (term : String)
    (resolution : TermResolution)
    (known : interpretation orch resolutions conventions term = some resolution) :
    resolution.term = term := by
  unfold interpretation at known
  cases held : resolutions.get? term with
  | some stored =>
      simp only [held, Option.some.injEq] at known
      exact keyed term resolution (known ▸ held)
  | none =>
      simp only [held, Option.map_eq_some_iff] at known
      rcases known with ⟨convention, -, rfl⟩
      rfl

theorem known_terms_keyed
    (orch : OrchestratorConfig)
    (query : String)
    (start : CallState)
    (keyed : KeyedTerms start.session.resolutions) : KeyedTerms (knownTerms orch query start) := by
  intro term resolution found
  by_cases detected : term ∈ detect orch.tables orch.vocab query
  · rw [known_terms_get query start term detected] at found
    exact interpretation_keyed _ _ keyed term resolution found
  · rw [knownTerms, activate_known_get, if_neg detected] at found
    simp at found

theorem activate_resolved_keyed
    (resolutions : OrderedDict String TermResolution)
    (active : ActiveTerms)
    (unresolved : List String)
    (keyedSession : KeyedTerms resolutions)
    (keyed : KeyedTerms active) : KeyedTerms (activateResolved resolutions active unresolved) := by
  intro term resolution found
  rw [activate_resolved_get] at found
  split_ifs at found with member
  · rcases Option.or_eq_some_iff.mp found with stored | ⟨-, stored⟩
    · exact keyedSession term resolution stored
    · exact keyed term resolution stored
  · exact keyed term resolution found

end Terms

/-- The state from which a call without an answer to a pending question
examines its own query. -/
inductive StartsAfresh (call : QueryCall) (start : CallState) : CallState → Prop
  | stored
      (free : (openedSession call start).state ≠ .awaitingClarification)
      (moves : (openedSession call start).state ≠ .resolved) :
      StartsAfresh call start (start.opened call.sessionId)
  | abandoned
      (pending : (openedSession call start).state = .awaitingClarification)
      (silent : truthyText call.clarificationAnswer = none)
      (differs : repeatsQuestion call (openedSession call start) = none) :
      StartsAfresh call start (start.replaced call.sessionId)

/-- The user answers the elicited question, and the clarifier's reading of the
answer leaves out one of the terms it was asked about. -/
structure DropsElicitedTerm (orch : OrchestratorConfig) (env : QueryEnvironment)
    (call : QueryCall) (start : CallState) : Prop where
  drops : ∃ st question answer resolved, StartsAfresh call start st ∧
    ResolvesElicited orch env call.query st question answer resolved ∧
    learnFault env.clarification .elicitation 0 resolved.resolutions = none ∧
    ∃ term ∈ unresolvedTerms orch call.query st,
      term ∉ resolved.resolutions.map fun item => orch.tables.lower item.term

section Accounting

variable {orch : OrchestratorConfig} {env : QueryEnvironment} {call : QueryCall}

/-- What `errors` and `active` must say about a query before it is sent. -/
def Accounted (orch : OrchestratorConfig) (query : String) (active : ActiveTerms)
    (errors : List String) : Prop :=
  ∀ term ∈ detect orch.tables orch.vocab query,
    (∃ applied ∈ appliedConventions active, applied.term = term) ∨ Covered term errors

theorem dispatch_accounts
    (query : String)
    (active : ActiveTerms)
    (errors : List String)
    (start : CallState)
    (unsent : AllEvents (fun event => event.isBackendQuery = false) start)
    (accounted : Accounted orch query active errors) :
    Ensures (dispatch orch env.backend call query active errors) start
      (fun response final => CallRecord.AccountsForTerms orch ⟨.ok response, final.events⟩)
      (fun error final => CallRecord.AccountsForTerms orch ⟨.error error, final.events⟩) := by
  have onlyQuery : AllEvents (fun event => ∀ other enriched limit,
      event = .backendQueried other enriched limit → other = query)
      (start.dispatched call query active) := by
    refine (all_events_dispatched call query active start).mpr ⟨⟨?_, by simp⟩, by simp⟩
    rintro event member other enriched limit rfl
    exact absurd (unsent _ member) (by simp [OrchestratorEvent.isBackendQuery])
  rw [ensures_dispatch]
  refine ensures_mono (respond_frame orch env.backend call query active errors _ _
    ⟨_, _, rfl⟩ _) ?_ ?_
  · rintro response final ⟨displayed, longer, applied, -, -⟩ value other enriched limit same member
    obtain rfl := Except.ok.inj same
    obtain rfl := (all_events_after_display _ final (by simp) displayed).mpr onlyQuery _ member
      other enriched limit rfl
    intro term detected
    rw [applied]
    exact (accounted term detected).imp_right (covered_mono longer)
  · intro error final _ response query enriched limit same
    cases same

theorem known_accounted
    (query : String)
    (start : CallState)
    (keyed : KeyedTerms start.session.resolutions)
    (errors : List String)
    (covered : ∀ term ∈ unresolvedTerms orch query start, Covered term errors) :
    Accounted orch query (knownTerms orch query start) errors := by
  intro term detected
  cases known : interpretation orch start.session.resolutions start.conventions term with
  | none => exact Or.inr (covered term ((mem_unresolved_iff query start term).mpr ⟨detected, known⟩))
  | some resolution =>
      refine Or.inl ?_
      apply (applied_iff _ (known_terms_keyed orch query start keyed) term).mpr
      refine ⟨resolution, ?_⟩
      rw [known_terms_get query start term detected, known]

theorem elicited_active_get
    (query : String)
    (start : CallState)
    (question answer : String)
    (resolved : ResolvedTerms)
    (written : learnFault env.clarification .elicitation 0 resolved.resolutions = none)
    (term : String)
    (opened : term ∈ unresolvedTerms orch query start) :
    (activateResolved
      (elicitedLearned orch env query start question answer resolved).session.resolutions
      (knownTerms orch query start) (unresolvedTerms orch query start)).get? term = none ↔
      term ∉ resolved.resolutions.map fun item => orch.tables.lower item.term := by
  have parts := (mem_unresolved_iff query start term).mp opened
  have unheld : start.session.resolutions.get? term = none := by
    cases held : start.session.resolutions.get? term with
    | none => rfl
    | some resolution => simp [interpretation, held] at parts
  rw [activate_resolved_get, if_pos opened, known_terms_get query start term parts.1, parts.2,
    Option.or_none, elicitedLearned, learned_contains_iff _ _ _ written]
  simp [elicitedState, replied_session, unheld]

theorem elicited_accounted
    (query : String)
    (start : CallState)
    (question answer : String)
    (resolved : ResolvedTerms)
    (written : learnFault env.clarification .elicitation 0 resolved.resolutions = none)
    (keyed : KeyedTerms start.session.resolutions)
    (keyedLater : KeyedTerms
      (elicitedLearned orch env query start question answer resolved).session.resolutions)
    (complete : ∀ term ∈ unresolvedTerms orch query start,
      term ∈ resolved.resolutions.map fun item => orch.tables.lower item.term) :
    Accounted orch query
      (activateResolved
        (elicitedLearned orch env query start question answer resolved).session.resolutions
        (knownTerms orch query start) (unresolvedTerms orch query start)) [] := by
  have keyedKnown := known_terms_keyed orch query start keyed
  intro term detected
  refine Or.inl ((applied_iff _ (activate_resolved_keyed _ _ _ keyedLater keyedKnown) term).mpr
    (Option.ne_none_iff_exists'.mp ?_))
  by_cases opened : term ∈ unresolvedTerms orch query start
  · rw [ne_eq, elicited_active_get query start question answer resolved written term opened]
    exact not_not.mpr (complete term opened)
  · rw [activate_resolved_get, if_neg opened, known_terms_get query start term detected]
    exact fun unknown => opened ((mem_unresolved_iff query start term).mpr ⟨detected, unknown⟩)

theorem continues_accounts
    (query : String)
    (start : CallState)
    (keyed : KeyedCall call.sessionId start)
    (unsent : AllEvents (fun event => event.isBackendQuery = false) start)
    (ending : Ending)
    (path : Detects orch env query start ending)
    (complete : start.session.state ≠ .resolved → ∀ question answer resolved,
      ResolvesElicited orch env query start question answer resolved →
      learnFault env.clarification .elicitation 0 resolved.resolutions = none →
      ∀ term ∈ unresolvedTerms orch query start,
        term ∈ resolved.resolutions.map fun item => orch.tables.lower item.term) :
    Continues orch env call query
      (fun response final => CallRecord.AccountsForTerms orch ⟨.ok response, final.events⟩)
      (fun error final => CallRecord.AccountsForTerms orch ⟨.error error, final.events⟩) ending := by
  have allows := unsent_allows_questions
  have formed := (all_events_formulated orch env allows query start).mpr unsent
  have silentError : ∀ error st,
      CallRecord.AccountsForTerms orch ⟨.error error, CallState.events st⟩ := by
    intro error st response other enriched limit same
    cases same
  cases path with
  | allKnown lookups closed =>
      exact dispatch_accounts _ _ _ _ unsent
        (known_accounted query start keyed.current.ownTerms [] (by simp [closed]))
  | exhausted lookups someOpen spent =>
      refine dispatch_accounts _ _ _ _ unsent
        (known_accounted query start keyed.current.ownTerms _ fun term member => ?_)
      exact Or.inl ⟨_, member, List.mem_singleton_self _⟩
  | unavailable error message needs failed caught =>
      refine dispatch_accounts _ _ _ _ formed
        (known_accounted query start keyed.current.ownTerms _ fun term _ => ?_)
      exact Or.inr ⟨message, List.mem_singleton_self _⟩
  | unanswered question asks silent =>
      have waiting : AllEvents (fun event => event.isBackendQuery = false)
          ((repliedState orch env query start question).awaiting query
            (unresolvedTerms orch query start) question) :=
        (all_events_moved _ _).mpr
          ⟨(all_events_replied orch env allows query start question).mpr unsent, rfl⟩
      intro response other enriched limit _ member
      exact absurd (waiting _ member) (by simp [OrchestratorEvent.isBackendQuery])
  | elicited question answer resolved resolves written moves =>
      have later := ((keyed_call_stable orch call.sessionId).carried.preserves env).detects keyed
        (.elicited question answer resolved resolves written moves)
      refine dispatch_accounts _ _ _ _ ((all_events_moved _ _).mpr
        ⟨(all_events_elicited_learned orch env allows query start question answer
          resolved).mpr unsent, rfl⟩)
        (elicited_accounted query start question answer resolved written keyed.current.ownTerms
          later.current.ownTerms (complete moves question answer resolved resolves written))
  | _ => exact silentError _ _

theorem handle_query_accounts
    (start : CallState)
    (keyed : KeyedCall call.sessionId start)
    (fresh : start.events = [])
    (kept : ¬DropsElicitedTerm orch env call start) :
    Ensures (handleQuery orch env call) start
      (fun response final => CallRecord.AccountsForTerms orch ⟨.ok response, final.events⟩)
      (fun error final => CallRecord.AccountsForTerms orch ⟨.error error, final.events⟩) := by
  have carried := (keyed_call_stable orch call.sessionId).carried
  have unsent : AllEvents (fun event => event.isBackendQuery = false) start := by
    intro event member
    simp [fresh] at member
  have opens := (all_events_opened start call.sessionId).mpr unsent
  have complete : ∀ st, StartsAfresh call start st → ∀ question answer resolved,
      ResolvesElicited orch env call.query st question answer resolved →
      learnFault env.clarification .elicitation 0 resolved.resolutions = none →
      ∀ term ∈ unresolvedTerms orch call.query st,
        term ∈ resolved.resolutions.map fun item => orch.tables.lower item.term := by
    intro st afresh question answer resolved resolves written term opened
    by_contra dropped
    exact kept ⟨st, question, answer, resolved, afresh, resolves, written, term, opened, dropped⟩
  rw [ensures_handle_query]
  intro opening path
  cases path with
  | notPending free =>
      intro ending detected
      exact continues_accounts _ _ (carried.opened start keyed) opens ending detected
        fun moves => complete _ (.stored free moves)
  | resolveFailed answer error pending answered failed =>
      intro response query enriched limit same
      cases same
  | learnFailed answer resolved error resolves fault =>
      intro response query enriched limit same
      cases same
  | resumed answer resolved resolves written =>
      intro ending detected
      have learns := (carried.preserves env).resolves _ _ resolved _ resolves.resolves
        (carried.opened start keyed)
      have learnt := (all_events_answer_learned orch env call unsent_allows_questions start answer
        resolved).mpr unsent
      refine continues_accounts _ _ (carried.moved _ .resolved (by decide) learns)
        ((all_events_moved _ _).mpr ⟨learnt, rfl⟩) ending detected fun moves => absurd rfl moves
  | reissued question pending silent repeats =>
      intro response query enriched limit _ member
      exact absurd (opens _ member) (by simp [OrchestratorEvent.isBackendQuery])
  | abandoned pending silent differs =>
      intro ending detected
      exact continues_accounts _ (start.replaced call.sessionId) (carried.replaced start keyed) unsent
        ending detected fun _ => complete _ (.abandoned pending silent differs)

def answeringBackend : BackendSide where
  query _ _ := .ok { jql := some "project = A", total := 1, shown := 1 }

theorem show_result_answering
    (showInUi : Bool)
    (errors : List String)
    (start : CallState) :
    Ensures (showResult answeringBackend showInUi (some "project = A") errors) start
      (fun shown final => AfterDisplay start final ∧ shown.2 = errors) (fun _ _ => False) := by
  unfold showResult
  rw [ensures_ite]
  exact ⟨fun _ => ⟨⟨["project = A" ++ " /raw"], rfl⟩, rfl⟩,
    fun _ => ⟨after_display_refl start, rfl⟩⟩

theorem respond_answering
    (query : String)
    (active : ActiveTerms)
    (errors : List String)
    (sessionId text : String)
    (limit : Option Int)
    (start : CallState) :
    Ensures (respond orch answeringBackend call query active errors sessionId
        (answeringBackend.query text limit)) start
      (fun response final => AfterDisplay start final ∧ response.errors = errors ∧
        response.appliedConventions = appliedConventions active) (fun _ _ => False) := by
  have found : ¬(1 : Int) = 0 := by decide
  simp only [respond, answeringBackend, if_neg found, ensures_bind]
  refine ensures_mono (show_result_answering call.showInUi errors start) ?_
    (fun _ _ impossible => impossible)
  rintro ⟨shown, kept⟩ middle ⟨displayed, rfl⟩
  unfold withReport
  rw [ensures_ite]
  exact ⟨fun _ => ⟨displayed, rfl, rfl⟩, fun _ => ⟨displayed, rfl, rfl⟩⟩

theorem resolves_elicited_backend
    {query : String}
    {start : CallState}
    {question answer : String}
    {resolved : ResolvedTerms}
    (backend : BackendSide)
    (resolves : ResolvesElicited orch env query start question answer resolved) :
    ResolvesElicited orch { env with backend := backend } query start question answer resolved :=
  ⟨⟨⟨resolves.lookups, resolves.someOpen, resolves.roundsLeft⟩, resolves.needed⟩,
    resolves.replied, resolves.resolves⟩

theorem drops_elicited_term_backend
    (env : QueryEnvironment)
    (backend : BackendSide)
    (start : CallState)
    (drops : DropsElicitedTerm orch env call start) :
    DropsElicitedTerm orch { env with backend := backend } call start := by
  rcases drops with ⟨st, question, answer, resolved, afresh, resolves, written, left⟩
  exact ⟨st, question, answer, resolved, afresh, resolves_elicited_backend backend resolves,
    written, left⟩

theorem dropped_unaccounted
    (start : CallState)
    (keyed : KeyedCall call.sessionId start)
    (dropped : DropsElicitedTerm orch { env with backend := answeringBackend } call start) :
    ¬Ensures (handleQuery orch { env with backend := answeringBackend } call) start
      (fun response final => CallRecord.AccountsForTerms orch ⟨.ok response, final.events⟩)
      (fun error final => CallRecord.AccountsForTerms orch ⟨.error error, final.events⟩) := by
  obtain ⟨st, question, answer, resolved, afresh, resolves, written, term, opened, left⟩ := dropped
  intro ends
  have carried := (keyed_call_stable orch call.sessionId).carried
  have keyedSt : KeyedCall call.sessionId st ∧ st.session.state ≠ .resolved ∧
      Begins orch { env with backend := answeringBackend } call start
        (.detects call.query st) := by
    cases afresh with
    | stored free moves => exact ⟨carried.opened start keyed, moves, .notPending free⟩
    | abandoned pending silent differs =>
        exact ⟨carried.replaced start keyed,
          fun same => absurd (show ClarificationState.idle = .resolved from same) (by decide),
          .abandoned pending silent differs⟩
  rcases keyedSt with ⟨keyedSt, moves, begins⟩
  have path := Detects.elicited question answer resolved resolves written moves
  have later := (carried.preserves _).detects keyedSt path
  have sent := (ensures_handle_query orch _ call start _ _).mp ends _ begins _ path
  rw [Continues, ensures_dispatch] at sent
  rcases ensures_exit (ensures_and sent (respond_answering _ _ _ _ _ _ _)) with
    ⟨response, final, accounts, displayed, noErrors, applied⟩ | ⟨_, _, _, impossible⟩
  · obtain ⟨enriched, queried⟩ : ∃ enriched, OrchestratorEvent.backendQueried call.query enriched
        call.limit ∈ final.events := by
      rcases displayed with ⟨shown, rfl⟩
      exact ⟨_, List.mem_append_left _ (List.mem_append_right _ List.mem_cons_self)⟩
    have detected := ((mem_unresolved_iff call.query st term).mp opened).1
    have keyedActive := activate_resolved_keyed _ _ (unresolvedTerms orch call.query st)
      later.current.ownTerms (known_terms_keyed orch call.query st keyedSt.current.ownTerms)
    rcases accounts response call.query enriched call.limit rfl queried term detected with
      listed | ⟨terms, -, listed⟩ | ⟨message, listed⟩
    · rw [applied] at listed
      rcases (applied_iff _ keyedActive term).mp listed with ⟨resolution, found⟩
      have missing := (elicited_active_get call.query st question answer resolved written term
        opened).mpr left
      exact absurd (missing.symm.trans found) (by simp)
    · simp [noErrors] at listed
    · simp [noErrors] at listed
  · exact impossible

end Accounting

/-- With every backend side the dispatched terms are accounted for, exactly if
no elicited answer leaves a term open. -/
theorem terms_accounted_iff
    (orch : OrchestratorConfig)
    (store : SessionBackend)
    (world : World)
    (reached : ReachableWorld orch store world)
    (call : QueryCall)
    (env : QueryEnvironment) :
    (∀ backend, CallRecord.AccountsForTerms orch
      (queryStep orch store world call { env with backend := backend }).2) ↔
      ¬DropsElicitedTerm orch env call (CallState.start world call.sessionId) := by
  have keyed := keyed_start world call.sessionId (reachable_keyed orch store world reached)
  constructor
  · intro accounts dropped
    refine dropped_unaccounted _ keyed
      (drops_elicited_term_backend env answeringBackend _ dropped) ?_
    exact (query_step_iff orch store world call _ fun _ record =>
      CallRecord.AccountsForTerms orch record).mp (accounts answeringBackend)
  · intro kept backend
    refine (query_step_iff orch store world call _ fun _ record =>
      CallRecord.AccountsForTerms orch record).mpr (handle_query_accounts _ keyed rfl ?_)
    exact fun dropped => kept
      (drops_elicited_term_backend { env with backend := backend } env.backend _ dropped)

def elicitingEnvironment : QueryEnvironment :=
  { sampleEnvironment with
    clarification := { sampleEnvironment.clarification with elicit := some fun _ => .ok (some "yes") } }

def twoTermCall : QueryCall where
  query := "open late"
  sessionId := "s"

theorem two_term_call_accounted_iff :
    (∀ backend, CallRecord.AccountsForTerms sampleOrchestrator
      (queryStep sampleOrchestrator .inMemory {} twoTermCall
        { elicitingEnvironment with backend := backend }).2) ↔
      ¬DropsElicitedTerm sampleOrchestrator elicitingEnvironment twoTermCall
        (CallState.start {} twoTermCall.sessionId) :=
  terms_accounted_iff sampleOrchestrator .inMemory {} ⟨{}, [], trivial, rfl⟩ twoTermCall
    elicitingEnvironment

def oneTermResponse : QueryResponse where
  sessionId := "s"
  jql := some "project = A"
  total := 1
  shown := 1
  appliedConventions := [{ term := "open", jqlHint := "hint", source := .clarification }]

theorem late_dispatched_silently :
    ReachableWorld sampleOrchestrator .inMemory {} ∧
      ¬CallRecord.AccountsForTerms sampleOrchestrator
        (queryStep sampleOrchestrator .inMemory {} twoTermCall elicitingEnvironment).2 := by
  refine ⟨⟨{}, [], trivial, rfl⟩, fun accounts => ?_⟩
  have answered : (queryStep sampleOrchestrator .inMemory {} twoTermCall
      elicitingEnvironment).2.outcome = .ok oneTermResponse := rfl
  have sent : OrchestratorEvent.backendQueried "open late"
      "open late (interpretation hints: open -> hint)" none ∈
      (queryStep sampleOrchestrator .inMemory {} twoTermCall elicitingEnvironment).2.events := by
    decide +kernel
  have detected : "late" ∈ detect sampleOrchestrator.tables sampleOrchestrator.vocab
      "open late" := by
    decide +kernel
  rcases accounts oneTermResponse _ _ _ answered sent "late" detected with
    ⟨applied, listed, same⟩ | ⟨terms, -, listed⟩ | ⟨message, listed⟩
  · obtain rfl := List.mem_singleton.mp listed
    exact absurd same (by decide)
  · cases listed
  · cases listed

end AtlasMindNetra.Orchestrator
