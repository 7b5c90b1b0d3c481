import AtlasMindNetra.OrchestratorRuns
import AtlasMindNetra.TwinRules

/-!
# Display in the browser

`FrontendBridgeClient.inject` answers whatever happens, unless the bridge sends
a body that is nested too deeply to be decoded. A caller who asks for the
display is told about it in the response; nothing else of a run depends on who
asks.
-/

namespace AtlasMindNetra.Orchestrator

open AtlasMindNetra.PythonValues AtlasMindNetra.ResponseModels
open AtlasMindNetra.SessionStore AtlasMindNetra.IntentClassifier
open AtlasMindNetra.EffectRules AtlasMindNetra.RunRules AtlasMindNetra.TwinRules

set_option autoImplicit false

/-- What `InjectAck.model_validate(response.json())` ends in: an acknowledgement,
a `ValueError`, or a `RecursionError`. -/
inductive BridgeBody where
  | valid (ack : InjectAck)
  | invalid
  | tooDeep (message : String)

/-- The text of an `HTTPError`, or a status and a body. -/
inductive BridgeReply where
  | unreachable (message : String)
  | answered (status : Nat) (body : BridgeBody)

/-- The statuses whose body `inject` reads. -/
def readStatuses : List Nat := [202, 200, 409, 503]

/-- `FrontendBridgeClient.inject`: its `except ValueError` lets a `RecursionError` pass. -/
def injectAck : BridgeReply → Except PyError InjectAck
  | .unreachable message =>
      .ok { accepted := false, detail := some ("bridge unreachable: " ++ message) }
  | .answered status body =>
      if status ∈ readStatuses then
        match body with
        | .valid ack => .ok ack
        | .invalid => .ok { accepted := decide (status ∈ [200, 202]) }
        | .tooDeep message => .error (.other message)
      else .ok { accepted := false, detail := some ("bridge returned HTTP " ++ toString status) }

def TooDeep (reply : BridgeReply) : Prop :=
  ∃ status message, status ∈ readStatuses ∧ reply = .answered status (.tooDeep message)

theorem inject_returns_iff
    (reply : BridgeReply) : (∃ ack, injectAck reply = .ok ack) ↔ ¬ TooDeep reply := by
  unfold injectAck TooDeep
  cases reply with
  | unreachable message => simp
  | answered status body =>
      by_cases read : status ∈ readStatuses
      · cases body <;> simp [read]
      · simp [read]

/-- The browser is reached over the bridge, and whether a report is written does
not depend on what it says. -/
structure OverBridge (backend : BackendSide) : Prop where
  inject : ∃ reply : String → BridgeReply,
    (∀ text, backend.inject text = injectAck (reply text)) ∧ ∀ text, ¬ TooDeep (reply text)
  builds : ∀ query response, ∃ text, backend.buildQueryReport query response = .ok text
  delivers : ∀ id text other, backend.deliver id text = backend.deliver id other

def undisplayed (call : QueryCall) : QueryCall := { call with showInUi := false }

/-- The response tells of the display, in its flag or in one entry of its errors,
and is otherwise the plain one. -/
inductive Displays (shown plain : QueryResponse) : Prop where
  | told (before notes behind : List String) (injected : Bool) :
      plain.errors = before ++ behind →
      plain.uiInjected = false →
      shown =
        { plain with uiInjected := injected, errors := before ++ notes ++ behind } →
      notes.length ≤ 1 → (injected = true → notes = []) → Displays shown plain

/-- The calls to the browser come last. -/
def AheadOfDisplay (shown plain : CallState) : Prop := AfterDisplay plain shown

theorem ahead_of_display_refl (st : CallState) : AheadOfDisplay st st := after_display_refl st

theorem displays_refl
    (response : QueryResponse)
    (plain : response.uiInjected = false) : Displays response response := by
  apply Displays.told response.errors [] [] false
  · exact (List.append_nil _).symm
  · exact plain
  · rw [List.append_nil, List.append_nil, ← plain]
  · exact Nat.zero_le 1
  · exact fun _ => rfl

section Dispatch

variable (orch : OrchestratorConfig) (backend : BackendSide) (bridged : OverBridge backend)

include bridged

theorem with_report_displays
    (query : String)
    (shown plain : QueryResponse)
    (displays : Displays shown plain)
    (start other : CallState)
    (states : AheadOfDisplay start other) :
    Fits Displays AheadOfDisplay (withReport orch backend query shown start)
      (withReport orch backend query plain other) := by
  rcases displays with ⟨before, notes, behind, injected, errors, hidden, rfl, once, silent⟩
  obtain ⟨shownText, shownBuilt⟩ := bridged.builds query
    { plain with uiInjected := injected, errors := before ++ notes ++ behind }
  obtain ⟨plainText, plainBuilt⟩ := bridged.builds query plain
  have delivered := bridged.delivers (reportId backend plain.sessionId) shownText plainText
  unfold withReport
  by_cases enabled : orch.settings.deliveryEnabled = true
  · simp only [if_pos enabled, shownBuilt, plainBuilt, bind, Except.bind, delivered]
    cases backend.deliver (reportId backend plain.sessionId) plainText with
    | ok location =>
        apply Fits.returned _ _ _ _ _ states
        exact Displays.told before notes behind injected errors hidden rfl once silent
    | error error =>
        simp only
        by_cases caught : error.isOsOrNetra = true
        · rw [if_pos caught, if_pos caught]
          apply Fits.returned _ _ _ _ _ states
          apply Displays.told before notes (behind ++ ["report not written: " ++ error.text])
            injected
          · rw [errors, List.append_assoc]
          · exact hidden
          · rw [← List.append_assoc (before ++ notes) behind]
          · exact once
          · exact silent
        · rw [if_neg caught, if_neg caught]
          exact Fits.raised error start other states
  · rw [if_neg enabled, if_neg enabled]
    apply Fits.returned _ _ _ _ _ states
    exact Displays.told before notes behind injected errors hidden rfl once silent

theorem show_result_told
    (showInUi : Bool)
    (jql : Option String)
    (errors : List String)
    (start : CallState) :
    ∃ injected notes final,
      showResult backend showInUi jql errors start = .ok (injected, errors ++ notes) final ∧
        AfterDisplay start final ∧ notes.length ≤ 1 ∧ (injected = true → notes = []) := by
  unfold showResult
  cases showInUi with
  | false =>
      exact ⟨false, [], start, by rw [List.append_nil]; rfl, after_display_refl start,
        Nat.zero_le 1, fun _ => rfl⟩
  | true =>
      cases truthyText jql with
      | none =>
          exact ⟨false, ["chart not shown in UI: no JQL was generated"], start, rfl,
            after_display_refl start, Nat.le_refl 1,
              fun told => absurd told Bool.false_ne_true⟩
      | some text =>
          obtain ⟨reply, answers, shallow⟩ := bridged.inject
          obtain ⟨ack, returned⟩ :=
            (inject_returns_iff (reply (text ++ " /raw"))).mpr (shallow _)
          have displayed : AfterDisplay start (start.log (.uiInjected (text ++ " /raw"))) :=
            ⟨[text ++ " /raw"], rfl⟩
          simp only [if_true, answers, returned]
          cases accepted : ack.accepted with
          | true =>
              refine ⟨true, [], _, ?_, displayed, Nat.zero_le 1, fun _ => rfl⟩
              simp only [bind, EStateM.bind, emit, run_modify, fromOutcome, pure, EStateM.pure,
                accepted, if_true, List.append_nil]
              rfl
          | false =>
              refine ⟨false, ["chart not shown in UI: " ++
                (truthyText ack.detail).getD "rejected"], _, ?_,
                displayed, Nat.le_refl 1,
              fun told => absurd told Bool.false_ne_true⟩
              simp only [bind, EStateM.bind, emit, run_modify, fromOutcome, pure, EStateM.pure,
                accepted]
              rfl

theorem respond_displays
    (call : QueryCall)
    (query : String)
    (active : ActiveTerms)
    (errors : List String)
    (sessionId : String)
    (outcome : Except PyError LiteQueryResult) :
    Twins Displays AheadOfDisplay
      (respond orch backend call query active errors sessionId outcome)
      (respond orch backend (undisplayed call) query active errors sessionId outcome) := by
  intro start
  cases outcome with
  | error failure =>
      cases failure with
      | liteBackend message =>
          apply with_report_displays orch backend bridged
          · apply displays_refl
            unfold failureResponse
            split_ifs <;> rfl
          · exact ahead_of_display_refl start
      | _ => exact Fits.raised _ start start (ahead_of_display_refl start)
  | ok result =>
      unfold respond
      simp only
      by_cases empty : result.total = 0
      · rw [if_pos empty, if_pos empty]
        apply with_report_displays orch backend bridged
        · exact displays_refl _ rfl
        · exact ahead_of_display_refl start
      · rw [if_neg empty, if_neg empty]
        obtain ⟨injected, notes, final, run, displayed, once, silent⟩ :=
          show_result_told backend bridged call.showInUi result.jql errors start
        have plain : showResult backend (undisplayed call).showInUi result.jql errors start =
            .ok (false, errors) start := rfl
        simp only [bind, EStateM.bind, run, plain]
        apply with_report_displays orch backend bridged
        · apply Displays.told errors notes [] injected
          · exact (List.append_nil _).symm
          · rfl
          · rw [List.append_nil]
            rfl
          · exact once
          · exact silent
        · exact displayed

theorem dispatch_displays
    (call : QueryCall)
    (query : String)
    (active : ActiveTerms)
    (errors : List String) :
    Twins Displays AheadOfDisplay (dispatch orch backend call query active errors)
      (dispatch orch backend (undisplayed call) query active errors) := by
  apply twins_bind ahead_of_display_refl
  intro _
  apply twins_bind ahead_of_display_refl
  intro _
  apply twins_bind ahead_of_display_refl
  intro _
  apply twins_bind ahead_of_display_refl
  intro _
  apply twins_bind ahead_of_display_refl
  intro st
  exact respond_displays orch backend bridged call query active errors _ _

end Dispatch

section HandleQuery

variable (orch : OrchestratorConfig) (env : QueryEnvironment) (bridged : OverBridge env.backend)
variable (call : QueryCall)

include bridged

theorem use_elicited_displays
    (query : String)
    (active : ActiveTerms)
    (unresolved : List String)
    (answer : String) :
    Twins Displays AheadOfDisplay (useElicited orch env call query active unresolved answer)
      (useElicited orch env (undisplayed call) query active unresolved answer) := by
  apply twins_bind ahead_of_display_refl
  intro _
  apply twins_bind ahead_of_display_refl
  intro st
  apply twins_bind ahead_of_display_refl
  intro _
  exact dispatch_displays orch env.backend bridged call query _ []

omit bridged in
theorem return_question_displays
    (query : String)
    (unresolved : List String)
    (question : String) :
    Twins Displays AheadOfDisplay (returnQuestion call query unresolved question)
      (returnQuestion (undisplayed call) query unresolved question) := by
  apply twins_bind ahead_of_display_refl
  intro _
  apply twins_bind ahead_of_display_refl
  intro _
  apply twins_bind ahead_of_display_refl
  intro _ st
  apply Fits.returned
  · exact displays_refl _ rfl
  · exact ahead_of_display_refl st

theorem clarify_displays
    (query : String)
    (active : ActiveTerms)
    (unresolved : List String) :
    Twins Displays AheadOfDisplay (clarify orch env call query active unresolved)
      (clarify orch env (undisplayed call) query active unresolved) := by
  apply twins_bind ahead_of_display_refl
  intro attempt
  cases attempt with
  | error message => exact dispatch_displays orch env.backend bridged call query active _
  | ok needed =>
      apply twins_bind ahead_of_display_refl
      intro _
      apply twins_bind ahead_of_display_refl
      intro reply
      cases reply with
      | some answer => exact use_elicited_displays orch env bridged call query active unresolved answer
      | none => exact return_question_displays call query unresolved needed.question

theorem detect_and_dispatch_displays (query : String) :
    Twins Displays AheadOfDisplay (detectAndDispatch orch env call query)
      (detectAndDispatch orch env (undisplayed call) query) := by
  apply twins_bind ahead_of_display_refl
  intro found
  apply twins_bind ahead_of_display_refl
  intro st
  apply twins_ite
  · exact fun _ => dispatch_displays orch env.backend bridged call query found.1 []
  · intro _
    apply twins_ite
    · exact fun _ => dispatch_displays orch env.backend bridged call query found.1 _
    · exact fun _ => clarify_displays orch env bridged call query found.1 found.2

theorem resume_with_answer_displays
    (session : SessionState)
    (answer : String) :
    Twins Displays AheadOfDisplay (resumeWithAnswer orch env call session answer)
      (resumeWithAnswer orch env (undisplayed call) session answer) := by
  apply twins_bind ahead_of_display_refl
  intro _
  apply twins_bind ahead_of_display_refl
  intro _
  exact detect_and_dispatch_displays orch env bridged call _

theorem handle_query_displays :
    Twins Displays AheadOfDisplay (handleQuery orch env call)
      (handleQuery orch env (undisplayed call)) := by
  apply twins_bind ahead_of_display_refl
  intro _
  apply twins_bind ahead_of_display_refl
  intro st
  apply twins_ite
  · intro _
    have answers : (undisplayed call).clarificationAnswer = call.clarificationAnswer := rfl
    have repeats : repeatsQuestion (undisplayed call) st.session = repeatsQuestion call st.session :=
      rfl
    rw [answers, repeats]
    cases truthyText call.clarificationAnswer with
    | some answer => exact resume_with_answer_displays orch env bridged call st.session answer
    | none =>
        cases repeatsQuestion call st.session with
        | some question =>
            apply twins_bind ahead_of_display_refl
            intro _ final
            apply Fits.returned
            · exact displays_refl _ rfl
            · exact ahead_of_display_refl final
        | none =>
            apply twins_bind ahead_of_display_refl
            intro _
            exact detect_and_dispatch_displays orch env bridged call call.query
  · exact fun _ => detect_and_dispatch_displays orch env bridged call call.query

end HandleQuery

/-- The two calls ended alike but for the display. -/
structure SameButDisplay (shown plain : CallRecord) : Prop where
  outcome : (∃ left right, shown.outcome = .ok left ∧ plain.outcome = .ok right ∧
      Displays left right) ∨
    ∃ error, shown.outcome = .error error ∧ plain.outcome = .error error
  events : ∃ texts : List String,
    shown.events = plain.events ++ texts.map OrchestratorEvent.uiInjected

section Runs

variable (orch : OrchestratorConfig) (store : SessionBackend)

theorem close_ahead_of_display
    (shown plain : CallState)
    (ahead : AheadOfDisplay shown plain) : shown.close store = plain.close store := by
  obtain ⟨texts, rfl⟩ := ahead
  cases store <;> rfl

theorem query_step_displays
    (world : World)
    (call : QueryCall)
    (env : QueryEnvironment)
    (bridged : OverBridge env.backend) :
    (queryStep orch store world call env).1 =
        (queryStep orch store world (undisplayed call) env).1 ∧
      SameButDisplay (queryStep orch store world call env).2
        (queryStep orch store world (undisplayed call) env).2 := by
  have fits := handle_query_displays orch env bridged call (CallState.start world call.sessionId)
  have start : CallState.start world (undisplayed call).sessionId =
      CallState.start world call.sessionId := rfl
  unfold queryStep
  rw [start]
  generalize handleQuery orch env call (CallState.start world call.sessionId) = shown at fits
  generalize handleQuery orch env (undisplayed call) (CallState.start world call.sessionId) = plain
    at fits
  cases fits with
  | returned left right final other displays ahead =>
      refine ⟨close_ahead_of_display store final other ahead,
        Or.inl ⟨left, right, rfl, rfl, displays⟩, ?_⟩
      obtain ⟨texts, rfl⟩ := ahead
      exact ⟨texts, rfl⟩
  | raised error final other ahead =>
      refine ⟨close_ahead_of_display store final other ahead, Or.inr ⟨error, rfl, rfl⟩, ?_⟩
      obtain ⟨texts, rfl⟩ := ahead
      exact ⟨texts, rfl⟩

def OrchestratorInput.undisplayed : OrchestratorInput → OrchestratorInput
  | .call asked env => .call (Orchestrator.undisplayed asked) env
  | .expire sessionId => .expire sessionId

def OrchestratorInput.OverBridge : OrchestratorInput → Prop
  | .call _ env => Orchestrator.OverBridge env.backend
  | .expire _ => True

/-- Asking for the display is seen in the response of the call that asks and
nowhere else: the run without any such request ends in the same stores, and its
calls end alike one by one. -/
theorem display_changes_nothing_else
    (world : World)
    (inputs : List OrchestratorInput)
    (bridged : ∀ input ∈ inputs, input.OverBridge) :
    (run (worldStep orch store) world inputs).1 =
        (run (worldStep orch store) world (inputs.map OrchestratorInput.undisplayed)).1 ∧
      List.Forall₂ (Option.Rel SameButDisplay) (run (worldStep orch store) world inputs).2
        (run (worldStep orch store) world (inputs.map OrchestratorInput.undisplayed)).2 := by
  induction inputs generalizing world with
  | nil => exact ⟨rfl, List.Forall₂.nil⟩
  | cons input rest ih =>
      rw [List.forall_mem_cons] at bridged
      have later := ih (worldStep orch store world input).1 bridged.2
      have stepped :
          (worldStep orch store world input).1 = (worldStep orch store world input.undisplayed).1 ∧
            Option.Rel SameButDisplay (worldStep orch store world input).2
              (worldStep orch store world input.undisplayed).2 := by
        cases input with
        | call call env =>
            have called := query_step_displays orch store world call env bridged.1
            exact ⟨called.1, Option.Rel.some called.2⟩
        | expire sessionId => exact ⟨rfl, Option.Rel.none⟩
      rw [List.map_cons, run_cons, run_cons]
      simp only
      rw [← stepped.1]
      exact ⟨later.1, List.Forall₂.cons stepped.2 later.2⟩

end Runs

def busyEnvironment : QueryEnvironment :=
  { sampleEnvironment with
    backend := { sampleEnvironment.backend with
      inject := fun _ =>
        injectAck (.answered 409 (.valid { accepted := false, detail := some "busy" })) } }

def shownRun : List OrchestratorInput :=
  [.call { query := "open", sessionId := "s", showInUi := true } busyEnvironment,
    .call { answerOpen with showInUi := true } busyEnvironment]

theorem sample_display_run :
    (run (worldStep sampleOrchestrator .inMemory) {} shownRun).1 =
        (run (worldStep sampleOrchestrator .inMemory) {}
          (shownRun.map OrchestratorInput.undisplayed)).1 ∧
      List.Forall₂ (Option.Rel SameButDisplay)
        (run (worldStep sampleOrchestrator .inMemory) {} shownRun).2
        (run (worldStep sampleOrchestrator .inMemory) {}
          (shownRun.map OrchestratorInput.undisplayed)).2 := by
  have bridged : OverBridge busyEnvironment.backend := {
    inject := ⟨fun _ => .answered 409 (.valid { accepted := false, detail := some "busy" }),
      fun _ => rfl, fun _ => (inject_returns_iff _).mp ⟨_, rfl⟩⟩
    builds := fun _ _ => ⟨"", rfl⟩
    delivers := fun _ _ _ => rfl }
  apply display_changes_nothing_else
  intro input member
  simp only [shownRun, List.mem_cons, List.not_mem_nil, or_false] at member
  rcases member with rfl | rfl <;> exact bridged

end AtlasMindNetra.Orchestrator
