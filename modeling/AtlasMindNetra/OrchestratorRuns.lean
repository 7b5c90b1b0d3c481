import AtlasMindNetra.OrchestratorPaths
import AtlasMindNetra.RunRules

/-!
# Runs of the orchestrator

A run starts without sessions, with whatever conventions an earlier process
has learned, and takes calls and expiries in any order. `Carried` collects the
closure properties that carry an invariant through a whole call, on the normal
and on the exceptional exit. In every world the sessions are filed under their
ids and the resolutions under their terms.
-/

namespace AtlasMindNetra.Orchestrator

open AtlasMindNetra.PythonValues AtlasMindNetra.ResponseModels
open AtlasMindNetra.SessionStore AtlasMindNetra.ConventionsStore
open AtlasMindNetra.IntentClassifier AtlasMindNetra.EffectRules AtlasMindNetra.RunRules

set_option autoImplicit false

inductive OrchestratorInput where
  | call (call : QueryCall) (env : QueryEnvironment)
  | expire (sessionId : String)

/-- One call, which answers with its record, or one expiry. -/
def worldStep (orch : OrchestratorConfig) (store : SessionBackend) (world : World) :
    OrchestratorInput → World × Option CallRecord
  | .call call env =>
      let (next, record) := queryStep orch store world call env
      (next, some record)
  | .expire sessionId => ({ world with sessions := world.sessions.erase sessionId }, none)

/-- The worlds of all runs of a freshly started server. -/
def ReachableWorld (orch : OrchestratorConfig) (store : SessionBackend) (world : World) : Prop :=
  ∃ conventions : JsonFileConventionsStore,
    Reachable (worldStep orch store) (fun _ _ => True) { conventions := conventions } world

/-- A property of a call's effect on the world and of its record. -/
theorem query_step_iff
    (orch : OrchestratorConfig)
    (store : SessionBackend)
    (world : World)
    (call : QueryCall)
    (env : QueryEnvironment)
    (holds : World → CallRecord → Prop) :
    holds (queryStep orch store world call env).1 (queryStep orch store world call env).2 ↔
      Ensures (handleQuery orch env call) (CallState.start world call.sessionId)
        (fun response final => holds (final.close store) ⟨.ok response, final.events⟩)
        (fun error final => holds (final.close store) ⟨.error error, final.events⟩) := by
  unfold queryStep Ensures
  cases handleQuery orch env call (CallState.start world call.sessionId) <;> rfl

theorem close_conventions
    (store : SessionBackend)
    (final : CallState) : (final.close store).conventions = final.conventions := by
  cases store <;> rfl

/-- `invariant` survives every step a call takes. -/
structure Carried (orch : OrchestratorConfig) (sessionId : String)
    (invariant : CallState → Prop) : Prop where
  events : ∀ st more, invariant st → invariant { st with events := st.events ++ more }
  moved : ∀ st newState, newState ≠ .awaitingClarification → invariant st →
    invariant (st.moved newState)
  counted : ∀ st, invariant st → invariant st.countRound
  cleared : ∀ st, invariant st →
    invariant (st.withSession (clearPending { st.session with state := .dispatched }))
  awaits : ∀ env query start question, AsksQuestion orch env query start question →
    invariant start → invariant (repliedState orch env query start question) →
    invariant (((repliedState orch env query start question).moved
      .awaitingClarification).withSession (awaitAnswer query (unresolvedTerms orch query start)
        question { (repliedState orch env query start question).session with
          state := .awaitingClarification }))
  remember : ∀ st learnedAt item, invariant st → invariant (st.remember orch learnedAt item)
  persist : ∀ st, invariant st → invariant st.persist
  save : ∀ st, invariant st → invariant st.save
  opened : ∀ st, invariant st → invariant (st.opened sessionId)
  replaced : ∀ st, invariant st → invariant (st.replaced sessionId)

theorem learned_carries
    {orch : OrchestratorConfig}
    {invariant : CallState → Prop}
    (env : ClarificationSide)
    (remember : ∀ st learnedAt item, invariant st → invariant (st.remember orch learnedAt item))
    (persist : ∀ st, invariant st → invariant st.persist)
    (path : AnswerPath)
    (index : Nat)
    (items : List TermResolutionOutput)
    (st : CallState)
    (holds : invariant st) : invariant (learned orch env path index items st) := by
  induction items generalizing index st with
  | nil => exact holds
  | cons item rest ih =>
      rw [learned]
      have remembered := remember st (env.learnedAt path index) item holds
      cases env.conventionsSet path index with
      | some error => exact remembered
      | none => exact ih _ _ (persist _ remembered)

def OrchestratorEvent.isClarifierCall : OrchestratorEvent → Bool
  | .formulateRequested _ | .resolveRequested _ _ => true
  | _ => false

/-- `invariant` survives what a call does with these collaborators, where the
session may be in any shape between two saves. -/
structure Preserves (orch : OrchestratorConfig) (env : QueryEnvironment) (sessionId : String)
    (invariant : CallState → Prop) : Prop where
  logged : ∀ st event, event.isClarifierCall = false → invariant st → invariant (st.log event)
  formulates : ∀ query st request,
    formulateRequest orch env st.conventions query (unresolvedTerms orch query st) = .ok request →
    invariant st → invariant (st.log (.formulateRequested request))
  unresolved : ∀ path request error st,
    env.clarification.resolveAnswer path request = .error error → invariant st →
    invariant (st.log (.resolveRequested path request))
  resolves : ∀ path request resolved st,
    env.clarification.resolveAnswer path request = .ok resolved → invariant st →
    invariant (learned orch env.clarification path 0 resolved.resolutions
      (st.log (.resolveRequested path request)))
  moved : ∀ st newState, newState ≠ .awaitingClarification → invariant st →
    invariant (st.moved newState)
  counted : ∀ st, invariant st → invariant st.countRound
  dispatches : ∀ st, invariant st →
    invariant (st.withSession (clearPending { st.session with state := .dispatched })).save
  awaits : ∀ query start question, AsksQuestion orch env query start question →
    invariant start → invariant (repliedState orch env query start question) →
    invariant ((repliedState orch env query start question).awaiting query
      (unresolvedTerms orch query start) question)
  opened : ∀ st, invariant st → invariant (st.opened sessionId)
  replaced : ∀ st, invariant st → invariant (st.replaced sessionId)
  reissues : ∀ st, (st.opened sessionId).session.state = .awaitingClarification →
    invariant st → invariant (st.opened sessionId).save

namespace Preserves

variable {orch : OrchestratorConfig} {env : QueryEnvironment} (call : QueryCall)
variable {sessionId : String} {invariant : CallState → Prop}

theorem formulated
    (preserves : Preserves orch env sessionId invariant)
    (query : String)
    (st : CallState)
    (holds : invariant st) : invariant (formulated orch env query st).2 := by
  unfold Orchestrator.formulated formulation
  cases asked : formulateRequest orch env st.conventions query (unresolvedTerms orch query st) with
  | error error => exact holds
  | ok request => exact preserves.formulates query st request asked holds

theorem replied
    (preserves : Preserves orch env sessionId invariant)
    (query : String)
    (st : CallState)
    (question : String)
    (holds : invariant st) : invariant (repliedState orch env query st question) := by
  unfold repliedState CallState.elicited
  have counted := preserves.counted _ (preserves.formulated query st holds)
  split_ifs
  · exact preserves.logged _ _ rfl counted
  · exact counted

theorem dispatched
    (preserves : Preserves orch env sessionId invariant)
    (query : String)
    (active : ActiveTerms)
    (st : CallState)
    (holds : invariant st) : invariant (st.dispatched call query active) := by
  have recorded := preserves.logged st (.transition st.session.state .dispatched) rfl holds
  exact preserves.logged _ _ rfl (preserves.dispatches _ recorded)

theorem displayed
    (preserves : Preserves orch env sessionId invariant)
    (shown : List String)
    (st : CallState)
    (holds : invariant st) :
    invariant { st with events := st.events ++ shown.map OrchestratorEvent.uiInjected } := by
  induction shown generalizing st with
  | nil =>
      rw [List.map_nil, List.append_nil]
      exact holds
  | cons text rest ih =>
      have next := ih _ (preserves.logged st (.uiInjected text) rfl holds)
      rw [log_events, List.append_assoc] at next
      exact next

theorem detects
    (preserves : Preserves orch env sessionId invariant)
    {query : String}
    {start : CallState}
    (holds : invariant start)
    {ending : Ending}
    (path : Detects orch env query start ending) : invariant ending.state := by
  have formed := preserves.formulated query start holds
  have replied := fun question => preserves.replied query start question holds
  cases path with
  | lookupFailed _ _ => exact holds
  | allKnown _ _ => exact holds
  | exhausted _ _ _ => exact holds
  | unavailable _ _ _ _ _ => exact formed
  | clarifierFailed _ _ _ _ => exact formed
  | elicitFailed question _ _ _ => exact replied question
  | unanswered question _ _ => exact replied question
  | resolveFailed question answer error _ _ failed =>
      exact preserves.unresolved _ _ error _ failed (replied question)
  | learnFailed question answer resolved _ resolves _ =>
      exact preserves.resolves _ _ resolved _ resolves.resolves (replied question)
  | resolvedTwice question answer resolved resolves _ _ =>
      have learns := preserves.resolves _ _ resolved _ resolves.resolves (replied question)
      exact preserves.logged _ _ rfl learns
  | elicited question answer resolved resolves _ _ =>
      have learns := preserves.resolves _ _ resolved _ resolves.resolves (replied question)
      exact preserves.moved _ _ (by decide) learns

theorem continues_dispatch
    (preserves : Preserves orch env sessionId invariant)
    (query : String)
    (active : ActiveTerms)
    (errors : List String)
    (st : CallState)
    (holds : invariant st) :
    Ensures (dispatch orch env.backend call query active errors) st
      (fun _ final => invariant final) (fun _ final => invariant final) := by
  rw [ensures_dispatch]
  have sent := preserves.dispatched call query active st holds
  apply ensures_mono (respond_frame orch env.backend call query active errors _ _ ⟨_, _, rfl⟩ _)
  · intro response final frame
    rcases frame with ⟨⟨shown, rfl⟩, _⟩
    exact preserves.displayed shown _ sent
  · intro error final frame
    rcases frame with ⟨⟨shown, rfl⟩, _⟩
    exact preserves.displayed shown _ sent

theorem continues
    (preserves : Preserves orch env sessionId invariant)
    {query : String}
    {start : CallState}
    (holds : invariant start)
    {ending : Ending}
    (path : Detects orch env query start ending) :
    Continues orch env call query (fun _ final => invariant final)
      (fun _ final => invariant final) ending := by
  have reached := preserves.detects holds path
  cases path with
  | allKnown _ _ => exact preserves.continues_dispatch call _ _ _ _ reached
  | exhausted _ _ _ => exact preserves.continues_dispatch call _ _ _ _ reached
  | unavailable _ _ _ _ _ => exact preserves.continues_dispatch call _ _ _ _ reached
  | elicited _ _ _ _ _ _ => exact preserves.continues_dispatch call _ _ _ _ reached
  | unanswered question asks _ => exact preserves.awaits query start question asks holds reached
  | _ => exact reached

/-- A preserved invariant holds wherever the call ends. -/
theorem handle_query
    (preserves : Preserves orch env call.sessionId invariant)
    (start : CallState)
    (holds : invariant start) :
    Ensures (handleQuery orch env call) start (fun _ final => invariant final)
      (fun _ final => invariant final) := by
  rw [ensures_handle_query]
  have opens := preserves.opened start holds
  intro opening path
  cases path with
  | notPending _ => exact fun ending detected => preserves.continues call opens detected
  | resolveFailed answer error _ _ failed =>
      exact preserves.unresolved _ _ error _ failed opens
  | learnFailed answer resolved _ resolves _ =>
      exact preserves.resolves _ _ resolved _ resolves.resolves opens
  | resumed answer resolved resolves _ =>
      have learns := preserves.resolves _ _ resolved _ resolves.resolves opens
      intro ending detected
      exact preserves.continues call (preserves.moved _ _ (by decide) learns) detected
  | reissued _ pending _ _ => exact preserves.reissues start pending holds
  | abandoned _ _ _ =>
      exact fun ending detected => preserves.continues call (preserves.replaced start holds) detected

end Preserves

theorem Carried.preserves
    {orch : OrchestratorConfig}
    {sessionId : String}
    {invariant : CallState → Prop}
    (carried : Carried orch sessionId invariant)
    (env : QueryEnvironment) : Preserves orch env sessionId invariant where
  logged st event _ holds := carried.events st [event] holds
  formulates _ st _ _ holds := carried.events st _ holds
  unresolved _ _ _ st _ holds := carried.events st _ holds
  resolves path _ resolved st _ holds :=
    learned_carries env.clarification carried.remember carried.persist path 0 resolved.resolutions _
      (carried.events st _ holds)
  moved := carried.moved
  counted := carried.counted
  dispatches _ holds := carried.save _ (carried.cleared _ holds)
  awaits query start question asks holds reached :=
    carried.save _ (carried.awaits env query start question asks holds reached)
  opened := carried.opened
  replaced := carried.replaced
  reissues _ _ holds := carried.save _ (carried.opened _ holds)

theorem Carried.handle_query
    {orch : OrchestratorConfig}
    (env : QueryEnvironment)
    (call : QueryCall)
    {invariant : CallState → Prop}
    (carried : Carried orch call.sessionId invariant)
    (start : CallState)
    (holds : invariant start) :
    Ensures (handleQuery orch env call) start (fun _ final => invariant final)
      (fun _ final => invariant final) :=
  (carried.preserves env).handle_query call start holds

/-- `invariant` does not look at the phase of the current session. -/
structure Stable (orch : OrchestratorConfig) (sessionId : String)
    (invariant : CallState → Prop) : Prop where
  events : ∀ st more, invariant st → invariant { st with events := st.events ++ more }
  session : ∀ st session, session.sessionId = st.session.sessionId →
    session.resolutions = st.session.resolutions → invariant st →
    invariant (st.withSession session)
  remember : ∀ st learnedAt item, invariant st → invariant (st.remember orch learnedAt item)
  persist : ∀ st, invariant st → invariant st.persist
  save : ∀ st, invariant st → invariant st.save
  opened : ∀ st, invariant st → invariant (st.opened sessionId)
  replaced : ∀ st, invariant st → invariant (st.replaced sessionId)

theorem Stable.carried
    {orch : OrchestratorConfig}
    {sessionId : String}
    {invariant : CallState → Prop}
    (stable : Stable orch sessionId invariant) : Carried orch sessionId invariant where
  events := stable.events
  moved st newState _ holds :=
    stable.session (st.log (.transition st.session.state newState))
      { st.session with state := newState } rfl rfl (stable.events st _ holds)
  counted st holds := stable.session st _ rfl rfl holds
  cleared st holds := stable.session st _ rfl rfl holds
  awaits env query start question _ _ holds :=
    stable.session ((repliedState orch env query start question).log _) _ rfl rfl
      (stable.events _ _ holds)
  remember := stable.remember
  persist := stable.persist
  save := stable.save
  opened := stable.opened
  replaced := stable.replaced

/-- Every event so far is `ok`. -/
def AllEvents (ok : OrchestratorEvent → Prop) (st : CallState) : Prop :=
  ∀ event ∈ st.events, ok event

/-- `ok` accepts every event before the dispatch that is not a transition. -/
structure AllowsQuestions (ok : OrchestratorEvent → Prop) : Prop where
  formulate : ∀ request, ok (.formulateRequested request)
  elicit : ∀ question, ok (.elicited question)
  resolve : ∀ path request, ok (.resolveRequested path request)

def OrchestratorEvent.isBackendQuery : OrchestratorEvent → Bool
  | .backendQueried _ _ _ => true
  | _ => false

theorem unsent_allows_questions :
    AllowsQuestions (fun event => event.isBackendQuery = false) :=
  ⟨fun _ => rfl, fun _ => rfl, fun _ _ => rfl⟩

section Events

variable (orch : OrchestratorConfig) (env : QueryEnvironment) (call : QueryCall)
variable {ok : OrchestratorEvent → Prop}

theorem all_events_log
    (st : CallState)
    (event : OrchestratorEvent) :
    AllEvents ok (st.log event) ↔ AllEvents ok st ∧ ok event := by
  simp [AllEvents, or_imp, forall_and]

theorem all_events_moved
    (st : CallState)
    (newState : ClarificationState) :
    AllEvents ok (st.moved newState) ↔
      AllEvents ok st ∧ ok (.transition st.session.state newState) :=
  all_events_log st (.transition st.session.state newState)

theorem all_events_opened
    (st : CallState)
    (sessionId : String) : AllEvents ok (st.opened sessionId) ↔ AllEvents ok st := by
  unfold CallState.opened
  cases st.sessions.get? sessionId <;> rfl

theorem all_events_learned
    (path : AnswerPath)
    (items : List TermResolutionOutput)
    (st : CallState) :
    AllEvents ok (learned orch env.clarification path 0 items st) ↔ AllEvents ok st := by
  unfold AllEvents
  rw [(learned_frame 0 items st).2.2]

theorem all_events_formulated
    (allows : AllowsQuestions ok)
    (query : String)
    (start : CallState) :
    AllEvents ok (formulated orch env query start).2 ↔ AllEvents ok start := by
  unfold formulated formulation
  cases formulateRequest orch env start.conventions query (unresolvedTerms orch query start) with
  | error error => rfl
  | ok request => exact (all_events_log start _).trans (and_iff_left (allows.formulate request))

theorem all_events_replied
    (allows : AllowsQuestions ok)
    (query : String)
    (start : CallState)
    (question : String) :
    AllEvents ok (repliedState orch env query start question) ↔ AllEvents ok start := by
  rw [← all_events_formulated orch env allows query start]
  unfold repliedState CallState.elicited
  split_ifs
  · exact (all_events_log _ _).trans (and_iff_left (allows.elicit question))
  · rfl

theorem all_events_elicited
    (allows : AllowsQuestions ok)
    (query : String)
    (start : CallState)
    (question answer : String) :
    AllEvents ok (elicitedState orch env query start question answer) ↔ AllEvents ok start :=
  (all_events_log _ _).trans ((and_iff_left (allows.resolve _ _)).trans
    (all_events_replied orch env allows query start question))

theorem all_events_elicited_learned
    (allows : AllowsQuestions ok)
    (query : String)
    (start : CallState)
    (question answer : String)
    (resolved : ResolvedTerms) :
    AllEvents ok (elicitedLearned orch env query start question answer resolved) ↔
      AllEvents ok start :=
  (all_events_learned orch env _ _ _).trans
    (all_events_elicited orch env allows query start question answer)

theorem all_events_answer_learned
    (allows : AllowsQuestions ok)
    (start : CallState)
    (answer : String)
    (resolved : ResolvedTerms) :
    AllEvents ok (answerLearned orch env call start answer resolved) ↔ AllEvents ok start :=
  (all_events_learned orch env _ _ _).trans ((all_events_log _ _).trans
    ((and_iff_left (allows.resolve _ _)).trans (all_events_opened start call.sessionId)))

theorem all_events_after_display
    (start final : CallState)
    (shows : ∀ text, ok (.uiInjected text))
    (displayed : AfterDisplay start final) : AllEvents ok final ↔ AllEvents ok start := by
  rcases displayed with ⟨shown, rfl⟩
  simp [AllEvents, or_imp, forall_and, shows]

theorem all_events_dispatched
    (query : String)
    (active : ActiveTerms)
    (st : CallState) :
    AllEvents ok (st.dispatched call query active) ↔
      (AllEvents ok st ∧ ok (.transition st.session.state .dispatched)) ∧
        ok (.backendQueried query (enrichedQuery query active) call.limit) :=
  (all_events_log _ _).trans (and_congr_left' (all_events_moved st .dispatched))

end Events

/-- The call asked for clarification and has not queried the backend. -/
structure AskedFirst (final : CallState) : Prop where
  awaits : final.session.state = .awaitingClarification
  unsent : AllEvents (fun event => event.isBackendQuery = false) final

structure Sent (final : CallState) : Prop where
  done : final.session.state = .dispatched
  sent : ∃ event ∈ final.events, event.isBackendQuery = true

/-- The session object is the stored one, in one of two states. -/
structure Settled (final : CallState) : Prop where
  shared : final.shared = true
  stored : final.sessions.get? final.session.sessionId = some final.session
  phase : AskedFirst final ∨ Sent final

section Settling

variable (orch : OrchestratorConfig) (env : QueryEnvironment) (call : QueryCall)

theorem dispatch_settles
    (query : String)
    (active : ActiveTerms)
    (errors : List String)
    (start : CallState) :
    Ensures (dispatch orch env.backend call query active errors) start
      (fun _ final => Settled final) (fun _ _ => True) := by
  rw [ensures_dispatch]
  refine ensures_mono (respond_frame orch env.backend call query active errors _ _
    ⟨_, _, rfl⟩ _) ?_ (fun _ _ _ => trivial)
  rintro response final ⟨⟨shown, rfl⟩, -⟩
  have queried : OrchestratorEvent.backendQueried query (enrichedQuery query active) call.limit ∈
      (start.dispatched call query active).events := by
    simp [CallState.dispatched]
  exact ⟨rfl, OrderedDict.get?_set_self _ _ _, Or.inr ⟨rfl, _, List.mem_append_left _ queried, rfl⟩⟩

theorem continues_settles
    (query : String)
    (start : CallState)
    (unsent : AllEvents (fun event => event.isBackendQuery = false) start)
    (ending : Ending)
    (path : Detects orch env query start ending) :
    Continues orch env call query (fun _ final => Settled final) (fun _ _ => True) ending := by
  cases path with
  | unanswered question asks silent =>
      refine ⟨rfl, OrderedDict.get?_set_self _ _ _, Or.inl ⟨rfl, ?_⟩⟩
      exact (all_events_moved _ _).mpr
        ⟨(all_events_replied orch env unsent_allows_questions query start question).mpr unsent, rfl⟩
  | allKnown _ _ => exact dispatch_settles orch env call _ _ _ _
  | exhausted _ _ _ => exact dispatch_settles orch env call _ _ _ _
  | unavailable _ _ _ _ _ => exact dispatch_settles orch env call _ _ _ _
  | elicited _ _ _ _ _ _ => exact dispatch_settles orch env call _ _ _ _
  | _ => trivial

/-- Every return of a call comes after the last save. -/
theorem handle_query_settles
    (start : CallState)
    (fresh : start.events = []) :
    Ensures (handleQuery orch env call) start (fun _ final => Settled final)
      (fun _ _ => True) := by
  have unsent : AllEvents (fun event => event.isBackendQuery = false) start := by
    intro event member
    simp [fresh] at member
  have opens := (all_events_opened start call.sessionId).mpr unsent
  rw [ensures_handle_query]
  intro opening path
  cases path with
  | notPending free => exact continues_settles orch env call _ _ opens
  | resolveFailed _ _ _ _ _ => trivial
  | learnFailed _ _ _ _ _ => trivial
  | resumed answer resolved resolves written =>
      exact continues_settles orch env call _ _ ((all_events_moved _ _).mpr
        ⟨(all_events_answer_learned orch env call unsent_allows_questions start answer
          resolved).mpr unsent, rfl⟩)
  | reissued question pending silent repeats =>
      exact ⟨rfl, OrderedDict.get?_set_self _ _ _, Or.inl ⟨pending, opens⟩⟩
  | abandoned pending silent differs =>
      exact continues_settles orch env call _ (start.replaced call.sessionId) unsent

end Settling

/-- Every resolution of the session is filed under the term it is for. -/
structure KeyedSession (sessionId : String) (session : SessionState) : Prop where
  ownId : session.sessionId = sessionId
  ownTerms : ∀ term resolution, session.resolutions.get? term = some resolution →
    resolution.term = term

def KeyedTable (sessions : SessionTable) : Prop :=
  ∀ sessionId session, sessions.get? sessionId = some session → KeyedSession sessionId session

structure KeyedCall (sessionId : String) (st : CallState) : Prop where
  current : KeyedSession sessionId st.session
  stored : KeyedTable st.sessions

theorem keyed_fresh (sessionId : String) : KeyedSession sessionId { sessionId := sessionId } :=
  ⟨rfl, fun _ _ found => by simp at found⟩

theorem keyed_table_set
    (sessions : SessionTable)
    (session : SessionState)
    (keyed : KeyedTable sessions)
    (own : KeyedSession session.sessionId session) :
    KeyedTable (sessions.set session.sessionId session) := by
  intro sessionId other found
  rw [OrderedDict.get?_set] at found
  split_ifs at found with same
  · obtain rfl := Option.some.inj found
    exact same ▸ own
  · exact keyed sessionId other found

theorem keyed_call_stable
    (orch : OrchestratorConfig)
    (sessionId : String) : Stable orch sessionId (KeyedCall sessionId) where
  events _ _ keyed := ⟨keyed.current, keyed.stored⟩
  session st session sameId sameTerms keyed :=
    ⟨⟨sameId.trans keyed.current.ownId, fun term resolution found =>
      keyed.current.ownTerms term resolution (sameTerms ▸ found)⟩, keyed.stored⟩
  remember st learnedAt item keyed := by
    refine ⟨⟨keyed.current.ownId, fun term resolution found => ?_⟩, keyed.stored⟩
    simp only [CallState.remember, recordResolution, OrderedDict.get?_set] at found
    split_ifs at found with same
    · rw [← Option.some.inj found, same]
      rfl
    · exact keyed.current.ownTerms term resolution found
  persist _ keyed := ⟨keyed.current, keyed.stored⟩
  save st keyed := by
    have own : KeyedSession st.session.sessionId st.session :=
      keyed.current.ownId.symm ▸ keyed.current
    exact ⟨keyed.current, keyed_table_set st.sessions st.session keyed.stored own⟩
  opened st keyed := by
    unfold CallState.opened
    cases found : st.sessions.get? sessionId with
    | some session => exact ⟨keyed.stored sessionId session found, keyed.stored⟩
    | none => exact ⟨keyed_fresh sessionId, keyed.stored⟩
  replaced _ keyed := ⟨keyed_fresh sessionId, keyed.stored⟩

theorem keyed_start
    (world : World)
    (sessionId : String)
    (keyed : KeyedTable world.sessions) :
    KeyedCall sessionId (CallState.start world sessionId) :=
  ⟨keyed_fresh sessionId, keyed⟩

theorem keyed_close
    (store : SessionBackend)
    (sessionId : String)
    (final : CallState)
    (keyed : KeyedCall sessionId final) : KeyedTable (final.close store).sessions := by
  cases store with
  | valkey => exact keyed.stored
  | inMemory =>
      change KeyedTable (if final.shared = true then
        final.sessions.set final.session.sessionId final.session else final.sessions)
      split_ifs
      · exact ((keyed_call_stable { tables := asciiTables, vocab := {} } sessionId).save final
          keyed).stored
      · exact keyed.stored

theorem returned_session_settled
    (orch : OrchestratorConfig)
    (store : SessionBackend)
    (world : World)
    (keyed : KeyedTable world.sessions)
    (call : QueryCall)
    (env : QueryEnvironment) :
    Ensures (handleQuery orch env call) (CallState.start world call.sessionId)
      (fun _ final => Settled final ∧
        (final.close store).sessions.get? call.sessionId = some final.session)
      (fun _ _ => True) := by
  apply ensures_mono (ensures_and
    ((keyed_call_stable orch call.sessionId).carried.handle_query env call _
      (keyed_start world call.sessionId keyed))
    (handle_query_settles orch env call _ rfl))
  · intro response final both
    rcases both with ⟨keyedFinal, settled⟩
    apply And.intro settled
    rw [← keyedFinal.current.ownId]
    cases store with
    | inMemory => simp [CallState.close, settled.shared]
    | valkey => exact settled.stored
  · intro _ _ _
    trivial

theorem keyed_world_step
    (orch : OrchestratorConfig)
    (store : SessionBackend)
    (world : World)
    (input : OrchestratorInput)
    (keyed : KeyedTable world.sessions) :
    KeyedTable (worldStep orch store world input).1.sessions := by
  cases input with
  | call call env =>
      refine (query_step_iff orch store world call env fun next _ => KeyedTable next.sessions).mpr ?_
      refine ensures_mono ((keyed_call_stable orch call.sessionId).carried.handle_query env call _
        (keyed_start world call.sessionId keyed)) ?_ ?_
      · exact fun _ final held => keyed_close store call.sessionId final held
      · exact fun _ final held => keyed_close store call.sessionId final held
  | expire sessionId =>
      intro other session found
      simp only [worldStep, OrderedDict.get?_erase] at found
      split_ifs at found
      exact keyed other session found

/-- Sessions are stored under their ids and resolutions under their terms. -/
theorem reachable_keyed
    (orch : OrchestratorConfig)
    (store : SessionBackend)
    (world : World)
    (reached : ReachableWorld orch store world) : KeyedTable world.sessions := by
  rcases reached with ⟨conventions, reached⟩
  exact reachable_invariant (fun world => KeyedTable world.sessions)
    (fun state input keyed _ => keyed_world_step orch store state input keyed)
    (fun _ _ found => by simp at found) reached

def sampleOrchestrator : OrchestratorConfig where
  tables := asciiTables
  vocab := VocabLookup.load asciiTables
    [("open", { ambiguity := "status" }), ("late", { ambiguity := "due date" })]
  settings := { deliveryEnabled := false }

def resolveFirst (request : ResolveRequest) : ResolvedTerms where
  resolutions := (request.terms.take 1).map fun term =>
    { term := term, resolutionKey := term, jqlHint := "hint" }

def sampleEnvironment : QueryEnvironment where
  clarification :=
    { formulateQuestion := fun request =>
        .ok { question := String.intercalate ", " request.terms ++ "?", terms := request.terms }
      resolveAnswer := fun _ request => .ok (resolveFirst request) }
  backend := { query := fun _ _ => .ok { jql := some "project = A", total := 1, shown := 1 } }

/-- The answer to the question about `open`. -/
def answerOpen : QueryCall :=
  { query := "open", sessionId := "s", clarificationAnswer := some "yes" }

end AtlasMindNetra.Orchestrator
