import AtlasMindNetra.AnswerScope
import AtlasMindNetra.ClarificationProgress
import AtlasMindNetra.ClarifierFailures

/-!
# The two ways to answer a question

An elicited answer patches the interpretations that were found before the
question; an answer by a later call detects and partitions all terms anew from
the stored session. Both arrive at the same interpretations, unless the session
was left in `resolved`, where only the later call can be served.
-/

namespace AtlasMindNetra.Orchestrator

open AtlasMindNetra.PythonValues AtlasMindNetra.ResponseModels
open AtlasMindNetra.SessionStore AtlasMindNetra.ConventionsStore
open AtlasMindNetra.IntentClassifier AtlasMindNetra.EffectRules AtlasMindNetra.RunRules
open AtlasMindNetra.CacheRules AtlasMindNetra.ConventionsStore.JsonFileConventionsStore

set_option autoImplicit false

structure FixedClarifier where
  formulate : FormulateRequest → ClarificationNeeded
  resolve : ResolveRequest → ResolvedTerms

/-- In this call the clarifier is `clarifier`; stores and fields file do not
fail, and the backend fails only as declared. -/
structure Follows (clarifier : FixedClarifier) (env : QueryEnvironment) : Prop where
  lookups : ∀ term, env.clarification.conventionsGet term = none
  writes : ∀ path index, env.clarification.conventionsSet path index = none
  lists : env.clarification.conventionsList = none
  fields : ∃ fields, env.clarification.loadFields = .ok fields
  formulates : ∀ request, env.clarification.formulateQuestion request =
    .ok (clarifier.formulate request)
  resolves : ∀ path request, env.clarification.resolveAnswer path request =
    .ok (clarifier.resolve request)
  backend : DeclaredBackend env.backend

/-- Asked about terms of the vocabulary, the clarifier resolves exactly these. -/
def ResolvesExactly (orch : OrchestratorConfig) (clarifier : FixedClarifier) : Prop :=
  ∀ request : ResolveRequest, (∀ term ∈ request.terms, term ∈ orch.vocab.terms) →
    ∀ term, term ∈ (clarifier.resolve request).resolutions.map
      (fun item => orch.tables.lower item.term) ↔ term ∈ request.terms

def backendQueries (events : List OrchestratorEvent) : List OrchestratorEvent :=
  events.filter fun event => event.isBackendQuery

def hintText (resolution : TermResolution) : String := resolution.term ++ " -> " ++ resolution.jqlHint

def unstamped (convention : Convention) : Convention := { convention with learnedAt := "" }

/-- One call with elicitation against a question and a later answer. -/
structure PathsAgree (sessionId : String) (inline asked answered : World × CallRecord) : Prop where
  served : ∃ query active rebuilt limit otherLimit response later,
    backendQueries inline.2.events = [.backendQueried query (enrichedQuery query active) limit] ∧
    backendQueries (asked.2.events ++ answered.2.events) =
      [.backendQueried query (enrichedQuery query rebuilt) otherLimit] ∧
    inline.2.outcome = .ok response ∧ answered.2.outcome = .ok later ∧
    (∀ hint, hint ∈ active.values.map hintText ↔ hint ∈ rebuilt.values.map hintText) ∧
    ∀ applied, applied ∈ response.appliedConventions ↔ applied ∈ later.appliedConventions
  session : inline.1.sessions.get? sessionId = answered.1.sessions.get? sessionId
  conventions : ∀ place, (inline.1.conventions.items.get? place).map unstamped =
    (answered.1.conventions.items.get? place).map unstamped

section Dispatched

variable (orch : OrchestratorConfig) (env : QueryEnvironment) (call : QueryCall)
variable (store : SessionBackend)

/-- A call that ended in a query with the interpretations `active`. -/
structure Served (query : String) (active : ActiveTerms) (st : CallState)
    (next : World) (record : CallRecord) : Prop where
  response : ∃ response, record.outcome = .ok response ∧
    response.appliedConventions = appliedConventions active
  sent : backendQueries record.events =
    [.backendQueried query (enrichedQuery query active) call.limit]
  session : next.sessions.get? st.session.sessionId =
    some (clearPending { st.session with state := .dispatched })
  conventions : next.conventions = st.conventions

theorem backend_queries_unsent
    (st : CallState)
    (unsent : AllEvents (fun event => event.isBackendQuery = false) st) :
    backendQueries st.events = [] := by
  apply List.filter_eq_nil_iff.mpr
  intro event member
  rw [unsent event member]
  exact Bool.false_ne_true

theorem backend_queries_quiet
    (earlier later : List OrchestratorEvent)
    (quiet : backendQueries earlier = []) :
    backendQueries (earlier ++ later) = backendQueries later := by
  rw [backendQueries, List.filter_append]
  exact congrArg (· ++ backendQueries later) quiet

theorem backend_queries_shown
    (shown : List String) : backendQueries (shown.map OrchestratorEvent.uiInjected) = [] := by
  apply List.filter_eq_nil_iff.mpr
  intro event member
  rcases List.mem_map.mp member with ⟨text, _, rfl⟩
  exact Bool.false_ne_true

theorem dispatch_served
    (backend : DeclaredBackend env.backend)
    (query : String)
    (active : ActiveTerms)
    (errors : List String)
    (start : CallState)
    (unsent : AllEvents (fun event => event.isBackendQuery = false) start) :
    Ensures (dispatch orch env.backend call query active errors) start
      (fun response final =>
        Served call query active start (final.close store) ⟨.ok response, final.events⟩)
      (fun _ _ => False) := by
  have returns := dispatch_returns orch env call backend query active errors start
  rw [ensures_dispatch] at returns ⊢
  apply ensures_mono (ensures_and returns (respond_frame orch env.backend call query active errors
    _ _ ⟨_, _, rfl⟩ _))
  · rintro response final ⟨-, ⟨shown, rfl⟩, -, applied, -⟩
    constructor
    · exact ⟨response, rfl, applied⟩
    · change backendQueries (start.events ++ [.transition _ .dispatched] ++
        [.backendQueried query (enrichedQuery query active) call.limit] ++
          shown.map OrchestratorEvent.uiInjected) = _
      have quiet := backend_queries_unsent start unsent
      have later := backend_queries_shown shown
      unfold backendQueries at quiet later ⊢
      rw [List.filter_append, List.filter_append, List.filter_append, quiet, later]
      rfl
    · cases store with
      | valkey => exact OrderedDict.get?_set_self _ _ _
      | inMemory => exact OrderedDict.get?_set_self _ _ _
    · exact close_conventions store _
  · rintro error final ⟨impossible, -⟩
    exact impossible

end Dispatched

/-- Two states that differ in when conventions were learned, if at all. -/
structure Alike (left right : CallState) : Prop where
  resolutions : left.session.resolutions = right.session.resolutions
  conventions : ∀ place, (left.conventions.items.get? place).map unstamped =
    (right.conventions.items.get? place).map unstamped

section Learning

variable (orch : OrchestratorConfig) (env : ClarificationSide)

theorem remember_alike
    (left right : CallState)
    (leftAt rightAt : String)
    (item : TermResolutionOutput)
    (alike : Alike left right) :
    Alike (left.remember orch leftAt item).persist (right.remember orch rightAt item).persist := by
  constructor
  · change left.session.resolutions.set _ _ = right.session.resolutions.set _ _
    rw [alike.resolutions]
  · intro place
    have written : ∀ (st : CallState) (stamp : String),
        ((st.remember orch stamp item).persist.conventions.items.get? place) =
          if place = defaultKey orch.tables (orch.tables.lower item.term) then
            some (learnedConvention orch stamp item)
          else st.conventions.items.get? place := by
      intro st stamp
      exact OrderedDict.get?_set st.conventions.items
        (defaultKey orch.tables (orch.tables.lower item.term)) place _
    rw [written left, written right]
    split_ifs
    · rfl
    · exact alike.conventions place

theorem learned_alike
    (other : ClarificationSide)
    (writes : ∀ path index, env.conventionsSet path index = none)
    (otherWrites : ∀ path index, other.conventionsSet path index = none)
    (leftPath rightPath : AnswerPath)
    (leftIndex rightIndex : Nat)
    (items : List TermResolutionOutput)
    (left right : CallState)
    (alike : Alike left right) :
    Alike (learned orch env leftPath leftIndex items left)
      (learned orch other rightPath rightIndex items right) := by
  induction items generalizing leftIndex rightIndex left right with
  | nil => exact alike
  | cons item rest ih =>
      rw [learned, learned, writes leftPath leftIndex, otherWrites rightPath rightIndex]
      exact ih _ _ _ _ (remember_alike orch left right _ _ item alike)

theorem interpretation_alike
    (left right : CallState)
    (alike : Alike left right)
    (term : String) :
    interpretation orch left.session.resolutions left.conventions term =
      interpretation orch right.session.resolutions right.conventions term := by
  have same := congrArg (Option.map (conventionResolution term))
    (alike.conventions (defaultKey orch.tables term))
  rw [Option.map_map, Option.map_map] at same
  unfold interpretation
  rw [alike.resolutions, get_default, get_default]
  cases right.session.resolutions.get? term with
  | some resolution => rfl
  | none => exact same

theorem known_terms_alike
    (left right : CallState)
    (alike : Alike left right)
    (query term : String) :
    (knownTerms orch query left).get? term = (knownTerms orch query right).get? term := by
  rw [knownTerms, knownTerms, activate_known_get, activate_known_get,
    interpretation_alike orch left right alike term]

theorem exact_answer_teaches_only
    (terms : List String)
    (path : AnswerPath)
    (items : List TermResolutionOutput)
    (exactly : ∀ term, term ∈ items.map (fun item => orch.tables.lower item.term) ↔ term ∈ terms)
    (start : CallState) :
    TeachesOnly orch terms start.session start.conventions
      (learned orch env path 0 items start) := by
  have covered : ∀ index, ∀ lesson ∈ lessons env path index items, lesson.term orch ∈ terms := by
    intro index lesson taught
    exact (exactly _).mp (List.mem_map_of_mem (lesson_item env path index items lesson taught))
  apply (learned_teaches_only_iff orch env path terms 0 items start).mpr
  constructor
  · intro term lesson stray last
    have member := covered 0 lesson (last_filed_mem last)
    rw [last_filed_key last] at member
    exact absurd member stray
  · intro place lesson stray last
    have member := covered 0 lesson (last_filed_mem last)
    rw [← last_filed_key last] at stray
    exact absurd (List.mem_map_of_mem member) stray

theorem exact_answer_holds
    (writes : ∀ path index, env.conventionsSet path index = none)
    (terms : List String)
    (path : AnswerPath)
    (items : List TermResolutionOutput)
    (exactly : ∀ term, term ∈ items.map (fun item => orch.tables.lower item.term) ↔ term ∈ terms)
    (start : CallState)
    (term : String)
    (asked : term ∈ terms) :
    ∃ resolution,
      (learned orch env path 0 items start).session.resolutions.get? term = some resolution := by
  apply Option.ne_none_iff_exists'.mp
  intro missing
  have written := learn_fault_none env path writes 0 items
  exact ((learned_contains_iff 0 items start written term).mp missing).1 ((exactly term).mpr asked)

/-- What the terms mean after an exact answer: the asked ones what the answer
says, the others what they meant before. -/
theorem learned_interpretation
    (writes : ∀ path index, env.conventionsSet path index = none)
    (lowered : ∀ term ∈ orch.vocab.terms, orch.tables.lower term = term)
    (terms : List String)
    (listed : ∀ term ∈ terms, term ∈ orch.vocab.terms)
    (path : AnswerPath)
    (items : List TermResolutionOutput)
    (exactly : ∀ term, term ∈ items.map (fun item => orch.tables.lower item.term) ↔ term ∈ terms)
    (start : CallState)
    (term : String)
    (known : term ∈ orch.vocab.terms) :
    let after := learned orch env path 0 items start
    interpretation orch after.session.resolutions after.conventions term =
      if term ∈ terms then after.session.resolutions.get? term
      else interpretation orch start.session.resolutions start.conventions term := by
  intro after
  split_ifs with asked
  · obtain ⟨resolution, held⟩ := exact_answer_holds orch env writes terms path items exactly start
      term asked
    rw [interpretation, held]
  · have only := exact_answer_teaches_only orch env terms path items exactly start
    have apart : defaultKey orch.tables term ∉ terms.map (defaultKey orch.tables) := by
      intro member
      rcases List.mem_map.mp member with ⟨other, asked', same⟩
      have spelled : orch.tables.lower other = orch.tables.lower term := congrArg Prod.snd same
      rw [lowered other (listed other asked'), lowered term known] at spelled
      rw [spelled] at asked'
      exact asked asked'
    have kept : after.conventions.get orch.tables instanceDefaultProject term =
        start.conventions.get orch.tables instanceDefaultProject term := by
      rw [get_default, get_default]
      exact only.conventions _ apart
    unfold interpretation
    rw [only.resolutions term asked, kept]

end Learning

section Calls

variable (orch : OrchestratorConfig) (store : SessionBackend) (clarifier : FixedClarifier)
variable (env : QueryEnvironment) (follows : Follows clarifier env) (call : QueryCall)

def FixedClarifier.answered (query : String) (st : CallState) (answer : String) : ResolvedTerms :=
  clarifier.resolve (elicitedRequest orch query st answer)

include follows in
/-- A query with open terms and a round left puts its question, and then ends
with the question handed back or with an answer. -/
theorem continues_fixed
    (replies : ∀ ask, env.clarification.elicit = some ask → ∀ question, ∃ reply,
      ask question = .ok reply)
    (query : String)
    (start : CallState)
    (someOpen : unresolvedTerms orch query start ≠ [])
    (roundsLeft : start.session.clarificationRounds < orch.settings.maxRounds)
    (moves : ∀ question answer, elicitReply env question = .ok (some answer) →
      start.session.state ≠ .resolved)
    (returns : QueryResponse → CallState → Prop)
    (raises : PyError → CallState → Prop)
    (silent : ∀ question, AsksQuestion orch env query start question →
      elicitReply env question = .ok none →
      Continues orch env call query returns raises (.awaits (unresolvedTerms orch query start)
        question (repliedState orch env query start question)))
    (spoken : ∀ question answer, elicitReply env question = .ok (some answer) →
      let after := elicitedLearned orch env query start question answer
        (clarifier.answered orch query start answer)
      Continues orch env call query returns raises (.dispatches
        (activateResolved after.session.resolutions (knownTerms orch query start)
          (unresolvedTerms orch query start)) [] (after.moved .resolved)))
    (ending : Ending)
    (path : Detects orch env query start ending) :
    Continues orch env call query returns raises ending := by
  cases path with
  | lookupFailed error fault =>
      rw [firstLookupFault, lookup_fault_none _ follows.lookups] at fault
      cases fault
  | allKnown lookups closed => exact absurd closed someOpen
  | exhausted lookups _ spent => exact absurd roundsLeft (Nat.not_lt.mpr spent)
  | unavailable error message needs failed caught =>
      obtain ⟨request, raised⟩ := formulated_failure orch env follows.lists follows.fields query
        start error failed
      rw [follows.formulates] at raised
      cases raised
  | clarifierFailed error needs failed passed =>
      obtain ⟨request, raised⟩ := formulated_failure orch env follows.lists follows.fields query
        start error failed
      rw [follows.formulates] at raised
      cases raised
  | elicitFailed question error asks failed =>
      exact absurd failed (elicit_reply_returns env replies question error)
  | unanswered question asks unsaid => exact silent question asks unsaid
  | resolveFailed question answer error asks replied failed =>
      rw [follows.resolves] at failed
      cases failed
  | learnFailed question answer resolved error resolves fault =>
      rw [learn_fault_none _ _ follows.writes] at fault
      cases fault
  | resolvedTwice question answer resolved resolves written already =>
      exact absurd already (moves question answer resolves.replied)
  | elicited question answer resolved resolves written _ =>
      have returned := resolves.resolves
      rw [follows.resolves] at returned
      cases returned
      exact spoken question answer resolves.replied

variable (start : CallState)
variable (unsent : AllEvents (fun event => event.isBackendQuery = false) start)
variable (free : (openedSession call start).state ≠ .awaitingClarification)
variable (someOpen : unresolvedTerms orch call.query (start.opened call.sessionId) ≠ [])
variable (roundsLeft : (openedSession call start).clarificationRounds < orch.settings.maxRounds)

include follows unsent free someOpen roundsLeft in
theorem inline_call
    (answer : String)
    (replied : ∀ question, elicitReply env question = .ok (some answer))
    (offered : ∀ ask, env.clarification.elicit = some ask → ∀ question, ∃ reply,
      ask question = .ok reply)
    (moves : (openedSession call start).state ≠ .resolved) :
    Ensures (handleQuery orch env call) start
      (fun response final => ∃ question,
        let opened := start.opened call.sessionId
        let after := elicitedLearned orch env call.query opened question answer
          (clarifier.answered orch call.query opened answer)
        Served call call.query
          (activateResolved after.session.resolutions (knownTerms orch call.query opened)
            (unresolvedTerms orch call.query opened)) (after.moved .resolved)
          (final.close store) ⟨.ok response, final.events⟩)
      (fun _ _ => False) := by
  rw [ensures_handle_query]
  intro opening path
  cases path with
  | notPending _ =>
      intro ending detected
      apply continues_fixed orch clarifier env follows call offered call.query
        (start.opened call.sessionId) someOpen roundsLeft (fun _ _ _ => moves) _ _ _ _ ending
        detected
      · intro question _ unsaid
        rw [replied question] at unsaid
        cases unsaid
      · intro question text said
        rw [replied question] at said
        cases said
        have quiet := (all_events_opened start call.sessionId).mpr unsent
        apply ensures_mono (dispatch_served orch env call store follows.backend call.query _ _ _
          ((all_events_moved _ _).mpr ⟨(all_events_elicited_learned orch env unsent_allows_questions
            call.query (start.opened call.sessionId) question answer _).mpr quiet, rfl⟩))
        · exact fun response final served => ⟨question, served⟩
        · exact fun _ _ impossible => impossible
  | resolveFailed _ _ pending _ _ => exact absurd pending free
  | learnFailed _ _ _ resolves _ => exact absurd resolves.pending free
  | resumed _ _ resolves _ => exact absurd resolves.pending free
  | reissued _ pending _ _ => exact absurd pending free
  | abandoned pending _ _ => exact absurd pending free

include follows unsent free someOpen roundsLeft in
theorem asking_call
    (quiet : env.clarification.elicit = none) :
    Ensures (handleQuery orch env call) start
      (fun _ final => backendQueries final.events = [] ∧ ∃ question,
        let opened := start.opened call.sessionId
        AsksQuestion orch env call.query opened question ∧
        final = (repliedState orch env call.query opened question).awaiting call.query
          (unresolvedTerms orch call.query opened) question)
      (fun _ _ => False) := by
  have silence : ∀ question, elicitReply env question = .ok none := by
    intro question
    rw [elicitReply, quiet]
  rw [ensures_handle_query]
  intro opening path
  cases path with
  | notPending _ =>
      intro ending detected
      apply continues_fixed orch clarifier env follows call _ call.query
        (start.opened call.sessionId) someOpen roundsLeft _ _ _ _ _ ending detected
      · intro ask offered
        rw [quiet] at offered
        cases offered
      · intro question answer said
        rw [silence question] at said
        cases said
      · intro question asks _
        have kept := (all_events_opened start call.sessionId).mpr unsent
        constructor
        · apply backend_queries_unsent
          exact (all_events_moved _ _).mpr ⟨(all_events_replied orch env unsent_allows_questions
            call.query (start.opened call.sessionId) question).mpr kept, rfl⟩
        · exact ⟨question, asks, rfl⟩
      · intro question answer said
        rw [silence question] at said
        cases said
  | resolveFailed _ _ pending _ _ => exact absurd pending free
  | learnFailed _ _ _ resolves _ => exact absurd resolves.pending free
  | resumed _ _ resolves _ => exact absurd resolves.pending free
  | reissued _ pending _ _ => exact absurd pending free
  | abandoned pending _ _ => exact absurd pending free

end Calls

section Answering

variable (orch : OrchestratorConfig) (store : SessionBackend) (clarifier : FixedClarifier)
variable (env : QueryEnvironment) (follows : Follows clarifier env) (call : QueryCall)
variable (exactly : ResolvesExactly orch clarifier)
variable (lowered : ∀ term ∈ orch.vocab.terms, orch.tables.lower term = term)

theorem detected_listed
    (query term : String)
    (detected : term ∈ detect orch.tables orch.vocab query) : term ∈ orch.vocab.terms :=
  (List.mem_filter.mp detected).1

include follows exactly lowered in
theorem exactly_settled
    (session : SessionState)
    (query answer : String)
    (conventions : JsonFileConventionsStore)
    (covers : CoversPending orch session conventions)
    (asked : truthyText session.pendingQuery = some query)
    (start : CallState)
    (sameTerms : start.session.resolutions = session.resolutions)
    (sameStore : start.conventions = conventions) :
    unresolvedTerms orch query
      ((learned orch env.clarification .roundTrip 0
        (clarifier.resolve (resolveRequest orch query session.pendingTerms answer)).resolutions
        start).moved .resolved) = [] := by
  rcases covers with ⟨_, listed, pending, text, covers⟩
  have same := asked.symm.trans text
  cases same
  apply List.eq_nil_iff_forall_not_mem.mpr
  intro term opened
  rcases (mem_unresolved_iff _ _ term).mp opened with ⟨detected, unknown⟩
  have named := exactly (resolveRequest orch query session.pendingTerms answer) listed
  have meaning := learned_interpretation orch env.clarification follows.writes lowered
    session.pendingTerms listed .roundTrip _ named start term (detected_listed orch query term detected)
  replace unknown := meaning.symm.trans unknown
  split_ifs at unknown with waiting
  · obtain ⟨resolution, held⟩ := exact_answer_holds orch env.clarification follows.writes
      session.pendingTerms .roundTrip _ named start term waiting
    rw [held] at unknown
    cases unknown
  · rcases covers term detected with asked | known
    · exact waiting asked
    · rw [KnownTerm, ← sameTerms, ← sameStore] at known
      exact known unknown

include follows exactly lowered in
/-- The call that brings the answer to a pending question about `query`. -/
theorem answering_call
    (start : CallState)
    (unsent : AllEvents (fun event => event.isBackendQuery = false) start)
    (query answer : String)
    (pending : (openedSession call start).state = .awaitingClarification)
    (given : truthyText call.clarificationAnswer = some answer)
    (asked : truthyText (openedSession call start).pendingQuery = some query)
    (covers : CoversPending orch (openedSession call start)
      (start.opened call.sessionId).conventions) :
    Ensures (handleQuery orch env call) start
      (fun response final =>
        let request := resolveRequest orch query (openedSession call start).pendingTerms answer
        let after := answerLearned orch env call start answer (clarifier.resolve request)
        Served call query (knownTerms orch query after) (after.moved .resolved)
          (final.close store) ⟨.ok response, final.events⟩)
      (fun _ _ => False) := by
  have resumes : resumedQuery call start = query := by
    rw [resumedQuery, asked, Option.getD_some]
  rw [ensures_handle_query]
  intro opening path
  cases path with
  | notPending free => exact absurd pending free
  | resolveFailed text error _ _ failed =>
      rw [follows.resolves] at failed
      cases failed
  | learnFailed text resolved error resolves fault =>
      rw [learn_fault_none _ _ follows.writes] at fault
      cases fault
  | reissued _ _ silent _ =>
      rw [given] at silent
      cases silent
  | abandoned _ silent _ =>
      rw [given] at silent
      cases silent
  | resumed text resolved resolves written =>
      have same := given.symm.trans resolves.answered
      cases same
      have returned := resolves.resolves
      rw [follows.resolves, resumedRequest, resumes] at returned
      cases returned
      rw [resumes]
      have settled := exactly_settled orch clarifier env follows exactly lowered _ query answer _
        covers asked (answeredState orch call start answer) rfl rfl
      apply continues_closed orch env call follows.lookups query _ settled
      apply dispatch_served orch env call store follows.backend query _ _ _
      exact (all_events_moved _ _).mpr ⟨(all_events_answer_learned orch env call
        unsent_allows_questions start answer _).mpr unsent, rfl⟩

include follows exactly lowered in
/-- Patching the interpretations found before the question gives what looking
for them again gives. -/
theorem patched_as_detected
    (query : String)
    (start : CallState)
    (question answer term : String) :
    let after := elicitedLearned orch env query start question answer
      (clarifier.answered orch query start answer)
    (activateResolved after.session.resolutions (knownTerms orch query start)
      (unresolvedTerms orch query start)).get? term = (knownTerms orch query after).get? term := by
  intro after
  have named := exactly (elicitedRequest orch query start answer) (unresolved_listed orch query start)
  rw [activate_resolved_get]
  by_cases detected : term ∈ detect orch.tables orch.vocab query
  · have meaning := learned_interpretation orch env.clarification follows.writes lowered
      (unresolvedTerms orch query start) (unresolved_listed orch query start) .elicitation _ named
      (elicitedState orch env query start question answer) term
      (detected_listed orch query term detected)
    rw [known_terms_get query start term detected, known_terms_get query after term detected]
    apply Eq.trans _ meaning.symm
    split_ifs with asked
    · obtain ⟨resolution, held⟩ := exact_answer_holds orch env.clarification follows.writes
        (unresolvedTerms orch query start) .elicitation _ named
        (elicitedState orch env query start question answer) term asked
      change (after.session.resolutions.get? term).or _ = after.session.resolutions.get? term
      have found : after.session.resolutions.get? term = some resolution := held
      rw [found]
      rfl
    · have before : (elicitedState orch env query start question answer).conventions =
          start.conventions := replied_conventions orch env query start question
      have session : (elicitedState orch env query start question answer).session.resolutions =
          start.session.resolutions := by
        change (repliedState orch env query start question).session.resolutions = _
        rw [replied_session]
      rw [before, session]
  · have closed : term ∉ unresolvedTerms orch query start :=
      fun opened => detected ((mem_unresolved_iff query start term).mp opened).1
    rw [if_neg closed, knownTerms, knownTerms, activate_known_get, activate_known_get,
      if_neg detected, if_neg detected]

end Answering

section Agreement

variable (orch : OrchestratorConfig) (store : SessionBackend) (clarifier : FixedClarifier)

theorem follows_asks
    (env : QueryEnvironment)
    (follows : Follows clarifier env)
    (query : String)
    (start : CallState)
    (someOpen : unresolvedTerms orch query start ≠ [])
    (roundsLeft : start.session.clarificationRounds < orch.settings.maxRounds) :
    ∃ question, AsksQuestion orch env query start question := by
  rcases follows.fields with ⟨fields, loaded⟩
  have lookups : firstLookupFault orch env query start = none :=
    lookup_fault_none env.clarification follows.lookups _ _
  have formed : ∃ needed, (formulated orch env query start).1 = .ok needed := by
    rw [formulated, formulation, formulateRequest, follows.lists, loaded]
    exact ⟨_, follows.formulates _⟩
  rcases formed with ⟨needed, formed⟩
  exact ⟨needed.question, ⟨lookups, someOpen, roundsLeft⟩, needed, formed, rfl⟩

theorem values_same
    (left right : ActiveTerms)
    (same : ∀ term, left.get? term = right.get? term)
    (resolution : TermResolution) : resolution ∈ left.values ↔ resolution ∈ right.values := by
  rw [OrderedDict.mem_values_iff, OrderedDict.mem_values_iff]
  constructor
  · rintro ⟨term, found⟩
    exact ⟨term, same term ▸ found⟩
  · rintro ⟨term, found⟩
    exact ⟨term, same term ▸ found⟩

theorem served_session
    {call : QueryCall}
    {query : String}
    {active : ActiveTerms}
    {st : CallState}
    {next : World}
    {record : CallRecord}
    (served : Served call query active st next record)
    (sessionId : String)
    (named : st.session.sessionId = sessionId) :
    next.sessions.get? sessionId = some
      { sessionId := sessionId, state := .dispatched, resolutions := st.session.resolutions } := by
  subst named
  exact served.session

abbrev openedState (world : World) (call : QueryCall) : CallState :=
  (CallState.start world call.sessionId).opened call.sessionId

theorem opened_conventions
    (world : World)
    (call : QueryCall) : (openedState world call).conventions = world.conventions := by
  unfold openedState CallState.opened
  cases (CallState.start world call.sessionId).sessions.get? call.sessionId <;> rfl

variable (world : World) (call : QueryCall)
variable (own : (openedState world call).session.sessionId = call.sessionId)
variable (free : (openedState world call).session.state ≠ .awaitingClarification)
variable (roundsLeft :
  (openedState world call).session.clarificationRounds < orch.settings.maxRounds)
variable (someOpen : unresolvedTerms orch call.query (openedState world call) ≠ [])

theorem start_unsent
    (sessionId : String) :
    AllEvents (fun event => event.isBackendQuery = false) (CallState.start world sessionId) :=
  fun _ absent => absurd absent List.not_mem_nil

theorem awaiting_stored
    (st : CallState)
    (query : String)
    (unresolved : List String)
    (question : String) :
    ((st.awaiting query unresolved question).close store).sessions.get? st.session.sessionId =
      some (awaitAnswer query unresolved question
        { st.session with state := .awaitingClarification }) := by
  cases store with
  | valkey => exact OrderedDict.get?_set_self _ _ _
  | inMemory => exact OrderedDict.get?_set_self _ _ _

/-- The next call finds the question of `call` pending in `session`. -/
structure LeavesQuestion (next : World) (record : CallRecord) (session : SessionState) : Prop where
  unsent : backendQueries record.events = []
  conventions : next.conventions = world.conventions
  stored : next.sessions.get? call.sessionId = some session
  ownId : session.sessionId = call.sessionId
  waits : session.state = .awaitingClarification
  terms : session.pendingTerms = unresolvedTerms orch call.query (openedState world call)
  resolutions : session.resolutions = (openedState world call).session.resolutions
  query : truthyText session.pendingQuery = some call.query
  covers : CoversPending orch session world.conventions

include own free roundsLeft someOpen in
theorem asked_world
    (asking : QueryEnvironment)
    (follows : Follows clarifier asking)
    (quiet : asking.clarification.elicit = none) :
    ∃ session, LeavesQuestion orch world call (queryStep orch store world call asking).1
      (queryStep orch store world call asking).2 session := by
  apply (query_step_iff orch store world call asking fun next record =>
    ∃ session, LeavesQuestion orch world call next record session).mpr
  apply ensures_mono (asking_call orch clarifier asking follows call _ (start_unsent world _) free
    someOpen roundsLeft quiet)
  · rintro response final ⟨unsent, question, asks, rfl⟩
    have left := replied_session orch asking call.query (openedState world call) question
    have covers := asked_covers_pending orch asking call.query (openedState world call) question asks
      { (repliedState orch asking call.query (openedState world call) question).session with
        state := .awaitingClarification } (by rw [left])
    rw [opened_conventions] at covers
    have named : call.sessionId =
        (repliedState orch asking call.query (openedState world call) question).session.sessionId := by
      rw [left]
      exact own.symm
    refine ⟨_, unsent, ?_, (congrArg _ named).trans (awaiting_stored store _ call.query _ question),
      named.symm, rfl, rfl, ?_, ?_, covers⟩
    · rw [close_conventions]
      exact (replied_conventions orch asking call.query (openedState world call) question).trans
        (opened_conventions world call)
    · rw [left]
      rfl
    · exact (truthy_text_some _ _).mpr ⟨rfl, asks.toNeedsQuestion.query_text⟩
  · exact fun _ _ impossible => impossible.elim

variable (exactly : ResolvesExactly orch clarifier)
variable (lowered : ∀ term ∈ orch.vocab.terms, orch.tables.lower term = term)
variable (reply : QueryCall) (answer : String)
variable (inline asking answering : QueryEnvironment)
variable (inlineFollows : Follows clarifier inline) (askingFollows : Follows clarifier asking)
variable (answeringFollows : Follows clarifier answering)
variable (elicits : ∃ ask, inline.clarification.elicit = some ask ∧
  ∀ question, ask question = .ok (some answer))
variable (quiet : asking.clarification.elicit = none)
variable (sameSession : reply.sessionId = call.sessionId)
variable (given : truthyText reply.clarificationAnswer = some answer)

include elicits given in
theorem inline_replies (question : String) : elicitReply inline question = .ok (some answer) := by
  rcases elicits with ⟨ask, offered, replies⟩
  have text := ((truthy_text_some _ _).mp given).2
  rw [elicitReply, offered]
  simp only [replies question, Except.map, truthyText, if_neg text]

abbrev inlineLearned (question : String) : CallState :=
  elicitedLearned orch inline call.query (openedState world call) question answer
    (clarifier.answered orch call.query (openedState world call) answer)

abbrev laterLearned (next : World) : CallState :=
  answerLearned orch answering reply (CallState.start next reply.sessionId) answer
    (clarifier.answered orch call.query (openedState world call) answer)

include inlineFollows free someOpen roundsLeft elicits given in
theorem inline_world
    (moves : (openedState world call).session.state ≠ .resolved) :
    ∃ question, Served call call.query
      (activateResolved (inlineLearned orch clarifier world call answer inline
          question).session.resolutions
        (knownTerms orch call.query (openedState world call))
        (unresolvedTerms orch call.query (openedState world call)))
      ((inlineLearned orch clarifier world call answer inline question).moved .resolved)
      (queryStep orch store world call inline).1 (queryStep orch store world call inline).2 := by
  have replied := inline_replies reply answer inline elicits given
  have offered : ∀ ask, inline.clarification.elicit = some ask → ∀ question, ∃ reply,
      ask question = .ok reply := by
    intro ask offered question
    rcases elicits with ⟨other, same, replies⟩
    rw [same] at offered
    cases offered
    exact ⟨some answer, replies question⟩
  apply (query_step_iff orch store world call inline fun next record => ∃ question,
    Served call call.query
      (activateResolved (inlineLearned orch clarifier world call answer inline
          question).session.resolutions
        (knownTerms orch call.query (openedState world call))
        (unresolvedTerms orch call.query (openedState world call)))
      ((inlineLearned orch clarifier world call answer inline question).moved .resolved)
      next record).mpr
  apply ensures_mono (inline_call orch store clarifier inline inlineFollows call _
    (start_unsent world _) free someOpen roundsLeft answer replied offered moves)
  · exact fun _ _ served => served
  · exact fun _ _ impossible => impossible.elim

include answeringFollows exactly lowered given sameSession in
theorem answered_world
    (next : World)
    (record : CallRecord)
    (session : SessionState)
    (asked : LeavesQuestion orch world call next record session) :
    Served reply call.query
      (knownTerms orch call.query
        (laterLearned orch clarifier world call reply answer answering next))
      ((laterLearned orch clarifier world call reply answer answering next).moved .resolved)
      (queryStep orch store next reply answering).1 (queryStep orch store next reply answering).2 := by
  have opened : openedSession reply (CallState.start next reply.sessionId) = session := by
    rw [openedSession]
    apply opened_session_stored
    rw [sameSession]
    exact asked.stored
  apply (query_step_iff orch store next reply answering fun final record =>
    Served reply call.query
      (knownTerms orch call.query
        (laterLearned orch clarifier world call reply answer answering next))
      ((laterLearned orch clarifier world call reply answer answering next).moved .resolved)
      final record).mpr
  have covers : CoversPending orch (openedSession reply (CallState.start next reply.sessionId))
      ((CallState.start next reply.sessionId).opened reply.sessionId).conventions := by
    rw [opened, opened_conventions, asked.conventions]
    exact asked.covers
  have ends := answering_call orch store clarifier answering answeringFollows reply exactly lowered
    (CallState.start next reply.sessionId) (start_unsent next _) call.query answer
    (by rw [opened]; exact asked.waits) given (by rw [opened]; exact asked.query) covers
  rw [opened, asked.terms] at ends
  apply ensures_mono ends
  · exact fun _ _ served => served
  · exact fun _ _ impossible => impossible.elim

include inlineFollows answeringFollows sameSession in
theorem answers_alike
    (question : String)
    (next : World)
    (record : CallRecord)
    (session : SessionState)
    (asked : LeavesQuestion orch world call next record session) :
    Alike (inlineLearned orch clarifier world call answer inline question)
      (laterLearned orch clarifier world call reply answer answering next) := by
  apply learned_alike orch inline.clarification answering.clarification inlineFollows.writes
    answeringFollows.writes
  have opened : ((CallState.start next reply.sessionId).opened reply.sessionId).session = session := by
    apply opened_session_stored
    rw [sameSession]
    exact asked.stored
  constructor
  · change (repliedState orch inline call.query (openedState world call) question).session.resolutions =
      ((CallState.start next reply.sessionId).opened reply.sessionId).session.resolutions
    rw [replied_session, opened, asked.resolutions]
  · intro place
    change ((repliedState orch inline call.query (openedState world call) question).conventions.items.get?
        place).map _ =
      (((CallState.start next reply.sessionId).opened reply.sessionId).conventions.items.get?
        place).map _
    rw [replied_conventions, opened_conventions, opened_conventions, asked.conventions]

theorem learned_session_id
    (env : ClarificationSide)
    (path : AnswerPath)
    (items : List TermResolutionOutput)
    (st : CallState) :
    (learned orch env path 0 items st).session.sessionId = st.session.sessionId := by
  rw [learned_session]

include own free roundsLeft someOpen exactly lowered inlineFollows askingFollows answeringFollows
  elicits quiet sameSession given in
/-- From a session that is not resolved both ways end alike. -/
theorem paths_agree
    (moves : (openedState world call).session.state ≠ .resolved) :
    PathsAgree call.sessionId (queryStep orch store world call inline)
      (queryStep orch store world call asking)
      (queryStep orch store (queryStep orch store world call asking).1 reply answering) := by
  obtain ⟨question, atOnce⟩ := inline_world orch store clarifier world call free roundsLeft someOpen
    reply answer inline inlineFollows elicits given moves
  obtain ⟨session, asked⟩ := asked_world orch store clarifier world call own free roundsLeft someOpen
    asking askingFollows quiet
  have later := answered_world orch store clarifier world call exactly lowered reply answer answering
    answeringFollows sameSession given _ _ session asked
  have alike := answers_alike orch clarifier world call reply answer inline answering inlineFollows
    answeringFollows sameSession question _ _ session asked
  have same : ∀ term,
      (activateResolved (inlineLearned orch clarifier world call answer inline
          question).session.resolutions
        (knownTerms orch call.query (openedState world call))
        (unresolvedTerms orch call.query (openedState world call))).get? term =
      (knownTerms orch call.query
        (laterLearned orch clarifier world call reply answer answering
          (queryStep orch store world call asking).1)).get? term := by
    intro term
    rw [patched_as_detected orch clarifier inline inlineFollows exactly lowered]
    exact known_terms_alike orch _ _ alike call.query term
  have values := values_same _ _ same
  rcases atOnce.response with ⟨response, returned, applied⟩
  rcases later.response with ⟨second, returnedLater, appliedLater⟩
  have sentLater := (backend_queries_quiet _ (queryStep orch store
    (queryStep orch store world call asking).1 reply answering).2.events asked.unsent).trans later.sent
  constructor
  · refine ⟨_, _, _, _, _, response, second, atOnce.sent, sentLater, returned, returnedLater, ?_, ?_⟩
    · intro hint
      simp only [List.mem_map, values]
    · intro one
      rw [applied, appliedLater]
      simp only [appliedConventions, List.mem_map, values]
  · have inlineId : (inlineLearned orch clarifier world call answer inline
        question).session.sessionId = call.sessionId := by
      rw [inlineLearned, elicitedLearned, learned_session_id]
      change (repliedState orch inline call.query (openedState world call) question).session.sessionId = _
      rw [replied_session]
      exact own
    have laterId : (laterLearned orch clarifier world call reply answer answering
        (queryStep orch store world call asking).1).session.sessionId = call.sessionId := by
      rw [laterLearned, answerLearned, learned_session_id]
      change (openedSession reply (CallState.start _ reply.sessionId)).sessionId = _
      rw [openedSession, sameSession, opened_session_stored _ _ session asked.stored]
      exact asked.ownId
    rw [served_session atOnce call.sessionId inlineId,
      served_session later call.sessionId laterId]
    change some { sessionId := _, state := _, resolutions := (inlineLearned orch clarifier world call
      answer inline question).session.resolutions : SessionState } = _
    rw [alike.resolutions]
    rfl
  · intro place
    rw [atOnce.conventions, later.conventions]
    exact alike.conventions place

include roundsLeft someOpen inlineFollows elicits given in
/-- In `resolved` the elicited answer raises `StateTransitionError`. -/
theorem inline_raises
    (left : (openedState world call).session.state = .resolved) :
    ∀ response, (queryStep orch store world call inline).2.outcome ≠ .ok response := by
  obtain ⟨question, asks⟩ := follows_asks orch clarifier inline inlineFollows call.query
    (openedState world call) someOpen roundsLeft
  have twice : ResolvesTwice orch inline call (CallState.start world call.sessionId) := by
    apply ResolvesTwice.leftResolved left question answer
      (clarifier.answered orch call.query (openedState world call) answer)
    · exact ⟨asks, inline_replies reply answer inline elicits given question,
        inlineFollows.resolves _ _⟩
    · exact learn_fault_none _ _ inlineFollows.writes 0 _
  intro response returned
  have ends : Ensures (handleQuery orch inline call) (CallState.start world call.sessionId)
      (fun _ _ => True)
      (fun error _ => (queryStep orch store world call inline).2.outcome = .error error) := by
    unfold queryStep Ensures
    cases handleQuery orch inline call (CallState.start world call.sessionId) with
    | ok value final => trivial
    | error error final => rfl
  rcases resolves_twice_raises _ twice _ _ ends with ⟨message, final, raised⟩
  rw [raised] at returned
  cases returned

include own free roundsLeft someOpen exactly lowered inlineFollows askingFollows answeringFollows
  elicits quiet sameSession given in
/-- The two ways to answer agree unless the session was left in `resolved`. -/
theorem paths_agree_iff :
    PathsAgree call.sessionId (queryStep orch store world call inline)
        (queryStep orch store world call asking)
        (queryStep orch store (queryStep orch store world call asking).1 reply answering) ↔
      (openedState world call).session.state ≠ .resolved := by
  constructor
  · intro agree left
    rcases agree.served with ⟨_, _, _, _, _, response, _, _, _, returned, _⟩
    exact inline_raises orch store clarifier world call roundsLeft someOpen reply answer inline
      inlineFollows elicits given left response returned
  · exact paths_agree orch store clarifier world call own free roundsLeft someOpen exactly lowered
      reply answer inline asking answering inlineFollows askingFollows answeringFollows elicits quiet
      sameSession given

end Agreement

def thoroughClarifier : FixedClarifier where
  formulate request := { question := String.intercalate ", " request.terms ++ "?", terms := request.terms }
  resolve request :=
    { resolutions := request.terms.map fun term =>
        { term := term, resolutionKey := term, jqlHint := "hint" } }

def thoroughEnvironment (elicit : Option (String → Except PyError (Option String))) :
    QueryEnvironment where
  clarification :=
    { elicit := elicit
      formulateQuestion := fun request => .ok (thoroughClarifier.formulate request)
      resolveAnswer := fun _ request => .ok (thoroughClarifier.resolve request) }
  backend := sampleEnvironment.backend

def sayYes : Option (String → Except PyError (Option String)) := some fun _ => .ok (some "yes")

theorem sample_lowered :
    ∀ term ∈ sampleOrchestrator.vocab.terms, sampleOrchestrator.tables.lower term = term := by
  decide +kernel

theorem thorough_resolves_exactly : ResolvesExactly sampleOrchestrator thoroughClarifier := by
  intro request listed term
  rw [thoroughClarifier, List.map_map]
  have same : request.terms.map ((fun item => sampleOrchestrator.tables.lower item.term) ∘
      fun term => { term := term, resolutionKey := term, jqlHint := "hint" : TermResolutionOutput }) =
      request.terms := by
    apply (List.map_congr_left _).trans (List.map_id _)
    exact fun term member => sample_lowered term (listed term member)
  rw [same]

theorem thorough_follows
    (elicit : Option (String → Except PyError (Option String))) :
    Follows thoroughClarifier (thoroughEnvironment elicit) where
  lookups _ := rfl
  writes _ _ := rfl
  lists := rfl
  fields := ⟨[], rfl⟩
  formulates _ := rfl
  resolves _ _ := rfl
  backend :=
    { answers := fun _ _ _ failed => by cases failed
      shows := fun _ => ⟨_, rfl⟩
      builds := fun _ _ => ⟨_, rfl⟩
      delivers := fun _ _ => ⟨_, rfl⟩ }

def answerElsewhere : QueryCall :=
  { query := "late", sessionId := "s", clarificationAnswer := some "yes" }

theorem fresh_session_agrees :
    PathsAgree "s"
        (queryStep sampleOrchestrator .valkey {} { query := "open", sessionId := "s" }
          (thoroughEnvironment sayYes))
        (queryStep sampleOrchestrator .valkey {} { query := "open", sessionId := "s" }
          (thoroughEnvironment none))
        (queryStep sampleOrchestrator .valkey
          (queryStep sampleOrchestrator .valkey {} { query := "open", sessionId := "s" }
            (thoroughEnvironment none)).1 answerElsewhere (thoroughEnvironment none)) ↔
      (openedState {} { query := "open", sessionId := "s" }).session.state ≠ .resolved :=
  paths_agree_iff sampleOrchestrator .valkey thoroughClarifier {}
    { query := "open", sessionId := "s" } rfl (by decide) (by decide) (by decide +kernel)
    thorough_resolves_exactly sample_lowered answerElsewhere "yes" (thoroughEnvironment sayYes)
    (thoroughEnvironment none) (thoroughEnvironment none) (thorough_follows _) (thorough_follows _)
    (thorough_follows _) ⟨_, rfl, fun _ => rfl⟩ rfl rfl rfl

def breakingEnvironment : QueryEnvironment :=
  { sampleEnvironment with
    clarification := { sampleEnvironment.clarification with
      formulateQuestion := fun _ => .error (.other "boom") } }

def brokenRun : List OrchestratorInput :=
  [.call { query := "open late", sessionId := "s" } sampleEnvironment,
    .call { query := "open late", sessionId := "s", clarificationAnswer := some "yes" }
      breakingEnvironment]

def brokenWorld : World := (run (worldStep sampleOrchestrator .inMemory) {} brokenRun).1

/-- After a breakdown the elicited answer raises where the later one is served. -/
theorem broken_session_disagrees :
    ReachableWorld sampleOrchestrator .inMemory brokenWorld ∧
      (openedState brokenWorld { query := "late", sessionId := "s" }).session.state = .resolved ∧
      (openedState brokenWorld { query := "late", sessionId := "s" }).session.clarificationRounds <
        sampleOrchestrator.settings.maxRounds ∧
      unresolvedTerms sampleOrchestrator "late"
        (openedState brokenWorld { query := "late", sessionId := "s" }) = ["late"] ∧
      ¬PathsAgree "s"
        (queryStep sampleOrchestrator .inMemory brokenWorld { query := "late", sessionId := "s" }
          (thoroughEnvironment sayYes))
        (queryStep sampleOrchestrator .inMemory brokenWorld { query := "late", sessionId := "s" }
          (thoroughEnvironment none))
        (queryStep sampleOrchestrator .inMemory
          (queryStep sampleOrchestrator .inMemory brokenWorld { query := "late", sessionId := "s" }
            (thoroughEnvironment none)).1 answerElsewhere (thoroughEnvironment none)) := by
  refine ⟨⟨{}, brokenRun, ⟨trivial, trivial, trivial⟩, rfl⟩, by decide +kernel, by decide +kernel,
    by decide +kernel, ?_⟩
  rintro ⟨⟨_, _, _, _, _, response, _, _, _, returned, _⟩, -, -⟩
  have raised : (queryStep sampleOrchestrator .inMemory brokenWorld
      { query := "late", sessionId := "s" } (thoroughEnvironment sayYes)).2.outcome.toOption =
      none := by decide +kernel
  rw [returned] at raised
  cases raised

end AtlasMindNetra.Orchestrator
