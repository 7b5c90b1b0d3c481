import AtlasMindNetra.Orchestrator

/-!
# What the pieces of one call can do

One rule for each function of the clarification loop. The loops over terms and
over resolutions are first given as pure functions of the state before them;
the rules then say at which state and with which value a piece returns, and at
which state and with which error it raises.
-/

namespace AtlasMindNetra.Orchestrator

open AtlasMindNetra.PythonValues AtlasMindNetra.ResponseModels
open AtlasMindNetra.SessionStore AtlasMindNetra.ConventionsStore
open AtlasMindNetra.IntentClassifier AtlasMindNetra.EffectRules

set_option autoImplicit false

def CallState.log (st : CallState) (event : OrchestratorEvent) : CallState :=
  { st with events := st.events ++ [event] }

def CallState.withSession (st : CallState) (session : SessionState) : CallState :=
  { st with session := session }

@[simp] theorem log_session (st : CallState) (event : OrchestratorEvent) :
    (st.log event).session = st.session := rfl

@[simp] theorem log_shared (st : CallState) (event : OrchestratorEvent) :
    (st.log event).shared = st.shared := rfl

@[simp] theorem log_sessions (st : CallState) (event : OrchestratorEvent) :
    (st.log event).sessions = st.sessions := rfl

@[simp] theorem log_conventions (st : CallState) (event : OrchestratorEvent) :
    (st.log event).conventions = st.conventions := rfl

@[simp] theorem log_events (st : CallState) (event : OrchestratorEvent) :
    (st.log event).events = st.events ++ [event] := rfl

@[simp] theorem with_session_session (st : CallState) (session : SessionState) :
    (st.withSession session).session = session := rfl

@[simp] theorem with_session_shared (st : CallState) (session : SessionState) :
    (st.withSession session).shared = st.shared := rfl

@[simp] theorem with_session_sessions (st : CallState) (session : SessionState) :
    (st.withSession session).sessions = st.sessions := rfl

@[simp] theorem with_session_conventions (st : CallState) (session : SessionState) :
    (st.withSession session).conventions = st.conventions := rfl

@[simp] theorem with_session_events (st : CallState) (session : SessionState) :
    (st.withSession session).events = st.events := rfl

section Rules

variable {Value : Type}
variable (start : CallState)

theorem ensures_emit
    (event : OrchestratorEvent)
    (returns : Unit → CallState → Prop)
    (raises : PyError → CallState → Prop) :
    Ensures (emit event) start returns raises ↔ returns () (start.log event) := Iff.rfl

theorem ensures_edit_session
    (change : SessionState → SessionState)
    (returns : Unit → CallState → Prop)
    (raises : PyError → CallState → Prop) :
    Ensures (editSession change) start returns raises ↔
      returns () (start.withSession (change start.session)) := Iff.rfl

theorem ensures_raise_if
    (fault : Option PyError)
    (returns : Unit → CallState → Prop)
    (raises : PyError → CallState → Prop) :
    Ensures (raiseIf fault) start returns raises ↔
      (fault = none → returns () start) ∧ (∀ error, fault = some error → raises error start) := by
  cases fault with
  | none => simp [raiseIf, fromOutcome, ensures_pure]
  | some error => simp [raiseIf, fromOutcome, ensures_throw]

theorem ensures_transition
    (newState : ClarificationState)
    (returns : Unit → CallState → Prop)
    (raises : PyError → CallState → Prop) :
    Ensures (transition newState) start returns raises ↔
      (newState ∈ start.session.state.allowedTransitions →
        returns () ((start.log (.transition start.session.state newState)).withSession
          { start.session with state := newState })) ∧
      (newState ∉ start.session.state.allowedTransitions →
        raises (start.session.illegalTransition newState)
          (start.log (.transition start.session.state newState))) := by
  simp only [transition, ensures_bind, ensures_get, ensures_emit, ensures_fromOutcome,
    ensures_edit_session, SessionState.transition]
  by_cases allowed : newState ∈ start.session.state.allowedTransitions
  · simp [allowed]
  · simp [allowed]

end Rules

section Terms

variable (orch : OrchestratorConfig) (env : ClarificationSide)

def interpretation
    (resolutions : OrderedDict String TermResolution)
    (conventions : JsonFileConventionsStore)
    (term : String) : Option TermResolution :=
  match resolutions.get? term with
  | some resolution => some resolution
  | none =>
      (conventions.get orch.tables instanceDefaultProject term).map (conventionResolution term)

def activateKnown
    (resolutions : OrderedDict String TermResolution)
    (conventions : JsonFileConventionsStore)
    (active : ActiveTerms)
    (terms : List String) : ActiveTerms :=
  active.overlay (interpretation orch resolutions conventions) terms

def openTerms
    (resolutions : OrderedDict String TermResolution)
    (conventions : JsonFileConventionsStore)
    (terms : List String) : List String :=
  terms.filter fun term => (interpretation orch resolutions conventions term).isNone

/-- The first failing lookup; terms of the session are not looked up. -/
def lookupFault (resolutions : OrderedDict String TermResolution) : List String → Option PyError
  | [] => none
  | term :: rest =>
      match resolutions.get? term with
      | some _ => lookupFault resolutions rest
      | none =>
          match env.conventionsGet term with
          | some error => some error
          | none => lookupFault resolutions rest

theorem lookup_fault_none
    (working : ∀ term, env.conventionsGet term = none)
    (resolutions : OrderedDict String TermResolution)
    (terms : List String) : lookupFault env resolutions terms = none := by
  induction terms with
  | nil => rfl
  | cons term rest ih =>
      rw [lookupFault, working term, ih]
      cases resolutions.get? term <;> rfl

theorem ensures_split_resolved_from
    (terms : List String)
    (active : ActiveTerms)
    (unresolved : List String)
    (start : CallState)
    (returns : ActiveTerms × List String → CallState → Prop)
    (raises : PyError → CallState → Prop) :
    Ensures (splitResolvedFrom orch env active unresolved terms) start returns raises ↔
      (lookupFault env start.session.resolutions terms = none →
        returns (activateKnown orch start.session.resolutions start.conventions active terms,
          unresolved ++ openTerms orch start.session.resolutions start.conventions terms) start) ∧
      (∀ error, lookupFault env start.session.resolutions terms = some error →
        raises error start) := by
  induction terms generalizing active unresolved with
  | nil =>
      simp [splitResolvedFrom, lookupFault, activateKnown, OrderedDict.overlay, openTerms,
        ensures_pure]
  | cons term rest ih =>
      simp only [splitResolvedFrom, ensures_bind, ensures_get, lookupFault]
      cases held : start.session.resolutions.get? term with
      | some resolution =>
          have known : interpretation orch start.session.resolutions start.conventions term =
              some resolution := by
            rw [interpretation, held]
          simp only [ih, activateKnown, OrderedDict.overlay_cons, openTerms, List.filter_cons,
            known, Option.isNone_some, Bool.false_eq_true, if_false]
      | none =>
          simp only [ensures_bind, getConvention, ensures_raise_if, ensures_get, ensures_pure]
          cases fault : env.conventionsGet term with
          | some error => simp
          | none =>
              cases learned : start.conventions.get orch.tables instanceDefaultProject term with
              | some convention =>
                  have known : interpretation orch start.session.resolutions start.conventions
                      term = some (conventionResolution term convention) := by
                    rw [interpretation, held, learned]
                    rfl
                  simp [ih, activateKnown, OrderedDict.overlay_cons, openTerms, known]
              | none =>
                  have unknown : interpretation orch start.session.resolutions start.conventions
                      term = none := by
                    rw [interpretation, held, learned]
                    rfl
                  simp [ih, activateKnown, OrderedDict.overlay_cons, openTerms, unknown]

/-- A call partitions the detected terms, or a lookup fails and nothing changes. -/
theorem ensures_split_resolved
    (terms : List String)
    (start : CallState)
    (returns : ActiveTerms × List String → CallState → Prop)
    (raises : PyError → CallState → Prop) :
    Ensures (splitResolved orch env terms) start returns raises ↔
      (lookupFault env start.session.resolutions terms = none →
        returns (activateKnown orch start.session.resolutions start.conventions ∅ terms,
          openTerms orch start.session.resolutions start.conventions terms) start) ∧
      (∀ error, lookupFault env start.session.resolutions terms = some error →
        raises error start) := by
  rw [splitResolved, ensures_split_resolved_from, List.nil_append]

end Terms

section Learning

variable (orch : OrchestratorConfig) (env : ClarificationSide) (path : AnswerPath)

def CallState.remember (st : CallState) (learnedAt : String) (item : TermResolutionOutput) :
    CallState :=
  { st with
    session := recordResolution orch item st.session
    conventions := st.conventions.remember orch.tables (learnedConvention orch learnedAt item) }

def CallState.persist (st : CallState) : CallState :=
  { st with conventions := st.conventions.persist }

/-- The state after the learning loop has run as far as the store lets it. -/
def learned : Nat → List TermResolutionOutput → CallState → CallState
  | _, [], st => st
  | index, item :: rest, st =>
      let remembered := st.remember orch (env.learnedAt path index) item
      match env.conventionsSet path index with
      | some _ => remembered
      | none => learned (index + 1) rest remembered.persist

def learnFault : Nat → List TermResolutionOutput → Option PyError
  | _, [] => none
  | index, _ :: rest =>
      match env.conventionsSet path index with
      | some error => some error
      | none => learnFault (index + 1) rest

theorem learn_fault_none
    (working : ∀ path index, env.conventionsSet path index = none)
    (index : Nat)
    (items : List TermResolutionOutput) : learnFault env path index items = none := by
  induction items generalizing index with
  | nil => rfl
  | cons item rest ih => rw [learnFault, working path index, ih]

theorem ensures_learn_items
    (index : Nat)
    (items : List TermResolutionOutput)
    (start : CallState)
    (returns : Unit → CallState → Prop)
    (raises : PyError → CallState → Prop) :
    Ensures (learnItems orch env path index items) start returns raises ↔
      (learnFault env path index items = none →
        returns () (learned orch env path index items start)) ∧
      (∀ error, learnFault env path index items = some error →
        raises error (learned orch env path index items start)) := by
  induction items generalizing index start with
  | nil => simp [learnItems, learned, learnFault, ensures_pure]
  | cons item rest ih =>
      simp only [learnItems, setConvention, ensures_bind, ensures_edit_session, ensures_modify,
        ensures_raise_if, learned, learnFault]
      cases env.conventionsSet path index with
      | some error => simp [CallState.remember, CallState.withSession]
      | none =>
          simp only [ih, true_imp_iff, reduceCtorEq, false_imp_iff, implies_true, and_true]
          rfl

theorem ensures_resolve_and_learn
    (query : String)
    (terms : List String)
    (answer : String)
    (start : CallState)
    (returns : Unit → CallState → Prop)
    (raises : PyError → CallState → Prop) :
    let request := resolveRequest orch query terms answer
    let asked := start.log (.resolveRequested path request)
    Ensures (resolveAndLearn orch env path query terms answer) start returns raises ↔
      (∀ error, env.resolveAnswer path request = .error error → raises error asked) ∧
      (∀ resolved, env.resolveAnswer path request = .ok resolved →
        (learnFault env path 0 resolved.resolutions = none →
          returns () (learned orch env path 0 resolved.resolutions asked)) ∧
        (∀ error, learnFault env path 0 resolved.resolutions = some error →
          raises error (learned orch env path 0 resolved.resolutions asked))) := by
  intro request asked
  simp only [resolveAndLearn, ensures_bind, ensures_emit, ensures_fromOutcome, ensures_learn_items]
  exact and_comm

variable {orch env path}

theorem learned_session
    (index : Nat)
    (items : List TermResolutionOutput)
    (st : CallState) :
    (learned orch env path index items st).session =
      { st.session with
        resolutions := (learned orch env path index items st).session.resolutions } := by
  induction items generalizing index st with
  | nil => rfl
  | cons item rest ih =>
      rw [learned]
      cases env.conventionsSet path index with
      | some error => rfl
      | none => exact ih _ _

theorem learned_frame
    (index : Nat)
    (items : List TermResolutionOutput)
    (st : CallState) :
    (learned orch env path index items st).shared = st.shared ∧
      (learned orch env path index items st).sessions = st.sessions ∧
      (learned orch env path index items st).events = st.events := by
  induction items generalizing index st with
  | nil => exact ⟨rfl, rfl, rfl⟩
  | cons item rest ih =>
      rw [learned]
      cases env.conventionsSet path index with
      | some error => exact ⟨rfl, rfl, rfl⟩
      | none => exact ih _ _

/-- A term has a resolution after learning if it had one or is among the items. -/
theorem learned_contains_iff
    (index : Nat)
    (items : List TermResolutionOutput)
    (st : CallState)
    (written : learnFault env path index items = none)
    (term : String) :
    (learned orch env path index items st).session.resolutions.get? term = none ↔
      term ∉ items.map (fun item => orch.tables.lower item.term) ∧
        st.session.resolutions.get? term = none := by
  induction items generalizing index st with
  | nil => simp [learned]
  | cons item rest ih =>
      rw [learnFault] at written
      rw [learned]
      cases stored : env.conventionsSet path index with
      | some error => simp [stored] at written
      | none =>
          rw [stored] at written
          simp only [ih _ _ written, CallState.persist, CallState.remember, recordResolution,
            OrderedDict.get?_set, List.map_cons, List.mem_cons, not_or]
          by_cases here : term = orch.tables.lower item.term
          · simp [here]
          · simp [here]

end Learning

section Question

variable (orch : OrchestratorConfig) (env : QueryEnvironment)

def formulateRequest
    (conventions : JsonFileConventionsStore)
    (query : String)
    (unresolved : List String) : Except PyError FormulateRequest :=
  match env.clarification.conventionsList with
  | some error => .error error
  | none => env.clarification.loadFields.map fun fields =>
      { query := query
        terms := unresolved
        vocab := orch.vocab.entriesFor orch.tables unresolved
        conventions := conventions.listAll
        fields := fields.take orch.settings.maxFieldsInPrompt }

def formulation
    (query : String)
    (unresolved : List String)
    (st : CallState) : Except PyError ClarificationNeeded × CallState :=
  match formulateRequest orch env st.conventions query unresolved with
  | .error error => (.error error, st)
  | .ok request =>
      (env.clarification.formulateQuestion request, st.log (.formulateRequested request))

theorem ensures_attempt_question
    (query : String)
    (unresolved : List String)
    (start : CallState)
    (returns : Except String ClarificationNeeded → CallState → Prop)
    (raises : PyError → CallState → Prop) :
    let asked := formulation orch env query unresolved start
    Ensures (attemptQuestion orch env query unresolved) start returns raises ↔
      (∀ needed, asked.1 = .ok needed → returns (.ok needed) asked.2) ∧
      (∀ error, asked.1 = .error error →
        (∀ message, error.clarification? = some message → returns (.error message) asked.2) ∧
        (error.clarification? = none → raises error asked.2)) := by
  simp only [attemptQuestion, ensures_catching, ensures_bind, ensures_raise_if, ensures_get,
    ensures_emit, ensures_fromOutcome, formulation, formulateRequest]
  cases env.clarification.conventionsList with
  | some error => simp
  | none =>
      cases env.clarification.loadFields with
      | error error => simp [Except.map]
      | ok fields => simp [Except.map]

/-- The user's reply to an elicited question where it counts as an answer. -/
def elicitReply (question : String) : Except PyError (Option String) :=
  match env.clarification.elicit with
  | none => .ok none
  | some elicit => (elicit question).map truthyText

theorem elicit_reply_returns
    (replies : ∀ elicit, env.clarification.elicit = some elicit →
      ∀ question, ∃ reply, elicit question = .ok reply)
    (question : String)
    (error : PyError) : elicitReply env question ≠ .error error := by
  rw [elicitReply]
  cases offered : env.clarification.elicit with
  | none => simp
  | some elicit =>
      rcases replies elicit offered question with ⟨reply, answered⟩
      simp [answered, Except.map]

def CallState.elicited (st : CallState) (question : String) : CallState :=
  if env.clarification.elicit.isSome then st.log (.elicited question) else st

theorem ensures_elicit_answer
    (question : String)
    (start : CallState)
    (returns : Option String → CallState → Prop)
    (raises : PyError → CallState → Prop) :
    Ensures (elicitAnswer env question) start returns raises ↔
      (∀ answer, elicitReply env question = .ok answer →
        returns answer (start.elicited env question)) ∧
      (∀ error, elicitReply env question = .error error →
        raises error (start.elicited env question)) := by
  unfold elicitAnswer elicitReply CallState.elicited
  cases env.clarification.elicit with
  | none => simp [ensures_pure]
  | some elicit =>
      simp only [ensures_bind, ensures_emit, ensures_fromOutcome, ensures_pure, Option.isSome_some,
        if_true]
      cases elicit question <;> simp [Except.map]

end Question

section Dispatch

variable (orch : OrchestratorConfig) (backend : BackendSide) (call : QueryCall)

def CallState.save (st : CallState) : CallState :=
  { st with sessions := st.sessions.set st.session.sessionId st.session, shared := true }

theorem ensures_save_session
    (start : CallState)
    (returns : Unit → CallState → Prop)
    (raises : PyError → CallState → Prop) :
    Ensures saveSession start returns raises ↔ returns () start.save := Iff.rfl

def CallState.dispatched (st : CallState) (query : String) (active : ActiveTerms) : CallState :=
  ((((st.log (.transition st.session.state .dispatched)).withSession
    (clearPending { st.session with state := .dispatched })).save).log
      (.backendQueried query (enrichedQuery query active) call.limit))

theorem ensures_dispatch
    (query : String)
    (active : ActiveTerms)
    (errors : List String)
    (start : CallState)
    (returns : QueryResponse → CallState → Prop)
    (raises : PyError → CallState → Prop) :
    Ensures (dispatch orch backend call query active errors) start returns raises ↔
      Ensures (respond orch backend call query active errors start.session.sessionId
        (backend.query (enrichedQuery query active) call.limit))
        (start.dispatched call query active) returns raises := by
  have allowed := ClarificationState.dispatched_always_allowed start.session.state
  simp only [dispatch, ensures_bind, ensures_transition, allowed, true_imp_iff, not_true_eq_false,
    false_imp_iff, and_true, ensures_edit_session, ensures_save_session, ensures_emit, ensures_get]
  rfl

def asksBack (active : ActiveTerms) : Except PyError LiteQueryResult → Bool
  | .error (.liteBackend message) => active.values ≠ [] && !isTransportFailure message
  | .error _ => false
  | .ok result => result.total = 0

/-- The errors that the collaborators of `_dispatch` raise in this call. -/
def BackendSide.Raises (backend : BackendSide) (error : PyError) : Prop :=
  (∃ text limit, backend.query text limit = .error error) ∨
    (∃ text, backend.inject text = .error error) ∨
    (∃ query response, backend.buildQueryReport query response = .error error) ∨
    ∃ id content, backend.deliver id content = .error error

/-- `final` is `start` with some browser calls added. -/
def AfterDisplay (start final : CallState) : Prop :=
  ∃ shown : List String,
    final = { start with events := start.events ++ shown.map OrchestratorEvent.uiInjected }

theorem after_display_refl (st : CallState) : AfterDisplay st st :=
  ⟨[], by simp⟩

theorem with_report_frame
    (query : String)
    (response : QueryResponse)
    (start : CallState) :
    Ensures (withReport orch backend query response) start
      (fun written final => final = start ∧ response.errors <+: written.errors ∧
        written.appliedConventions = response.appliedConventions ∧
        written.sessionId = response.sessionId ∧
        written.requiresUserInput = response.requiresUserInput)
      (fun error final => final = start ∧ backend.Raises error) := by
  unfold withReport
  rw [ensures_ite]
  refine ⟨fun _ => ?_, fun _ => ⟨rfl, List.prefix_rfl, rfl, rfl, rfl⟩⟩
  cases built : backend.buildQueryReport query response with
  | error error =>
      simp only [bind, Except.bind]
      rw [ensures_ite]
      exact ⟨fun _ => ⟨rfl, List.prefix_append _ _, rfl, rfl, rfl⟩,
        fun _ => ⟨rfl, Or.inr (Or.inr (Or.inl ⟨_, _, built⟩))⟩⟩
  | ok content =>
      simp only [bind, Except.bind]
      cases sent : backend.deliver (reportId backend response.sessionId) content with
      | ok location =>
          rw [ensures_pure]
          exact ⟨rfl, List.prefix_rfl, rfl, rfl, rfl⟩
      | error error =>
          rw [ensures_ite]
          exact ⟨fun _ => ⟨rfl, List.prefix_append _ _, rfl, rfl, rfl⟩,
            fun _ => ⟨rfl, Or.inr (Or.inr (Or.inr ⟨_, _, sent⟩))⟩⟩

theorem with_report_returns
    (builds : ∀ query response error, backend.buildQueryReport query response = .error error →
      error.isOsOrNetra = true)
    (delivers : ∀ id content error, backend.deliver id content = .error error →
      error.isOsOrNetra = true)
    (query : String)
    (response : QueryResponse)
    (start : CallState) :
    Ensures (withReport orch backend query response) start
      (fun written _ => written.requiresUserInput = response.requiresUserInput)
      (fun _ _ => False) := by
  unfold withReport
  rw [ensures_ite]
  constructor
  · intro _
    cases built : backend.buildQueryReport query response with
    | error error =>
        simp only [bind, Except.bind, if_pos (builds query response error built)]
        rfl
    | ok content =>
        simp only [bind, Except.bind]
        cases sent : backend.deliver (reportId backend response.sessionId) content with
        | ok location => rfl
        | error error =>
            simp only [if_pos (delivers _ content error sent)]
            rfl
  · intro _
    rfl

theorem show_result_frame
    (showInUi : Bool)
    (jql : Option String)
    (errors : List String)
    (start : CallState) :
    Ensures (showResult backend showInUi jql errors) start
      (fun shown final => AfterDisplay start final ∧ errors <+: shown.2)
      (fun error final => AfterDisplay start final ∧ backend.Raises error) := by
  unfold showResult
  rw [ensures_ite]
  refine ⟨fun _ => ?_, fun _ => ⟨after_display_refl start, List.prefix_rfl⟩⟩
  cases truthyText jql with
  | none => exact ⟨after_display_refl start, List.prefix_append _ _⟩
  | some text =>
      have displayed : AfterDisplay start (start.log (.uiInjected (text ++ " /raw"))) :=
        ⟨[text ++ " /raw"], rfl⟩
      simp only [ensures_bind, ensures_emit, ensures_fromOutcome, ensures_ite, ensures_pure]
      refine ⟨fun ack _ => ⟨fun _ => ⟨displayed, List.prefix_rfl⟩,
        fun _ => ⟨displayed, List.prefix_append _ _⟩⟩, fun error failed => ⟨displayed, ?_⟩⟩
      exact Or.inr (Or.inl ⟨_, failed⟩)

/-- What the part after the backend call can do: the stores and the session
stay as they are, and the response carries the terms and errors it was given. -/
theorem respond_frame
    (query : String)
    (active : ActiveTerms)
    (errors : List String)
    (sessionId : String)
    (outcome : Except PyError LiteQueryResult)
    (asked : ∃ text limit, backend.query text limit = outcome)
    (start : CallState) :
    Ensures (respond orch backend call query active errors sessionId outcome) start
      (fun response final => AfterDisplay start final ∧ errors <+: response.errors ∧
        response.appliedConventions = appliedConventions active ∧
        response.sessionId = sessionId ∧
        response.requiresUserInput = asksBack active outcome)
      (fun error final => AfterDisplay start final ∧ backend.Raises error) := by
  cases outcome with
  | error failure =>
      cases failure with
      | liteBackend message =>
          refine ensures_mono (with_report_frame orch backend query _ start) ?_ ?_
          · rintro response final ⟨rfl, kept, applied, session, asks⟩
            rw [applied, session, asks]
            unfold failureResponse at kept ⊢
            simp only [asksBack]
            split_ifs at kept ⊢ with rephrase
            · exact ⟨after_display_refl _, (List.prefix_append _ _).trans kept, rfl, rfl,
                by simp [rephrase]⟩
            · refine ⟨after_display_refl _, (List.prefix_append _ _).trans kept, rfl, rfl, ?_⟩
              rw [eq_comm, Bool.and_eq_false_iff]
              by_cases none : active.values = []
              · exact Or.inl (by simp [none])
              · exact Or.inr (by simpa [none] using rephrase)
          · rintro error final ⟨rfl, raised⟩
            exact ⟨after_display_refl _, raised⟩
      | _ => exact ⟨after_display_refl _, Or.inl asked⟩
  | ok result =>
      simp only [respond, ensures_ite, ensures_bind]
      refine ⟨fun empty => ?_, fun found => ?_⟩
      · refine ensures_mono (with_report_frame orch backend query _ start) ?_ ?_
        · rintro response final ⟨rfl, kept, applied, session, asks⟩
          exact ⟨after_display_refl _, kept, applied, session, by simp [asks, asksBack, empty,
            zeroResponse]⟩
        · rintro error final ⟨rfl, raised⟩
          exact ⟨after_display_refl _, raised⟩
      · refine ensures_mono (show_result_frame backend call.showInUi result.jql errors start) ?_ ?_
        · rintro shown middle ⟨displayed, longer⟩
          refine ensures_mono (with_report_frame orch backend query _ middle) ?_ ?_
          · rintro response final ⟨rfl, kept, applied, session, asks⟩
            exact ⟨displayed, longer.trans kept, applied, session, by simp [asks, asksBack, found,
              resultResponse]⟩
          · rintro error final ⟨rfl, raised⟩
            exact ⟨displayed, raised⟩
        · exact fun error final raised => raised

end Dispatch

end AtlasMindNetra.Orchestrator
