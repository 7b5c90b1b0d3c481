import AtlasMindNetra.TransitionSafety

/-!
# Which failures of the clarifier fail the query

The clarifier is called in three places. Formulating a question happens inside
a handler, so its failure is an entry in the response. Resolving an answer
happens outside of any handler, on the round trip as well as within the call,
and there its failure is the failure of the query.
-/

namespace AtlasMindNetra.Orchestrator

open AtlasMindNetra.PythonValues AtlasMindNetra.ResponseModels
open AtlasMindNetra.SessionStore AtlasMindNetra.ConventionsStore
open AtlasMindNetra.IntentClassifier AtlasMindNetra.EffectRules AtlasMindNetra.RunRules

set_option autoImplicit false

/-- The clarifier fails only with `ClarificationError`; the stores, the fields
file and the host do not fail. -/
structure DeclaredClarification (side : ClarificationSide) : Prop where
  lookups : ∀ term, side.conventionsGet term = none
  writes : ∀ path index, side.conventionsSet path index = none
  lists : side.conventionsList = none
  fields : ∃ fields, side.loadFields = .ok fields
  replies : ∀ elicit, side.elicit = some elicit → ∀ question, ∃ reply, elicit question = .ok reply
  formulates : ∀ request error, side.formulateQuestion request = .error error →
    error.clarification? ≠ none
  resolves : ∀ path request error, side.resolveAnswer path request = .error error →
    error.clarification? ≠ none

/-- The backend fails only with `LiteBackendError`; display and delivery do not fail. -/
structure DeclaredBackend (backend : BackendSide) : Prop where
  answers : ∀ text limit error, backend.query text limit = .error error →
    ∃ message, error = .liteBackend message
  shows : ∀ text, ∃ ack, backend.inject text = .ok ack
  builds : ∀ query response, ∃ content, backend.buildQueryReport query response = .ok content
  delivers : ∀ id content, ∃ location, backend.deliver id content = .ok location

section Calls

variable (orch : OrchestratorConfig) (env : QueryEnvironment) (call : QueryCall)

/-- The user answers within the call and the clarifier cannot resolve the answer. -/
def ReplyUnresolvable (query : String) (start : CallState) : Prop :=
  ∃ question answer error, AsksQuestion orch env query start question ∧
    elicitReply env question = .ok (some answer) ∧
    env.clarification.resolveAnswer .elicitation (elicitedRequest orch query start answer) =
      .error error

/-- The three ways in which an answer fails the query. -/
inductive ClarifierEscapes (start : CallState) : Prop
  | roundTrip (answer : String) (error : PyError)
      (pending : (openedSession call start).state = .awaitingClarification)
      (answered : truthyText call.clarificationAnswer = some answer)
      (failed : env.clarification.resolveAnswer .roundTrip
        (resumedRequest orch call start answer) = .error error)
  | elicitation (query : String) (st : CallState)
      (reached : Begins orch env call start (.detects query st))
      (fails : ReplyUnresolvable orch env query st)
  | resolvedTwice (twice : ResolvesTwice orch env call start)

theorem show_result_returns
    (backend : DeclaredBackend env.backend)
    (jql : Option String)
    (errors : List String)
    (start : CallState) :
    Ensures (showResult env.backend call.showInUi jql errors) start
      (fun _ _ => True) (fun _ _ => False) := by
  unfold showResult
  rw [ensures_ite]
  constructor
  · intro _
    cases truthyText jql with
    | none => trivial
    | some text =>
        simp only [ensures_bind, ensures_emit, ensures_fromOutcome, ensures_ite, ensures_pure]
        constructor
        · exact fun ack _ => ⟨fun _ => trivial, fun _ => trivial⟩
        · intro error failed
          rcases backend.shows (text ++ " /raw") with ⟨ack, shown⟩
          rw [shown] at failed
          cases failed
  · intro _
    trivial

theorem dispatch_returns
    (backend : DeclaredBackend env.backend)
    (query : String)
    (active : ActiveTerms)
    (errors : List String)
    (start : CallState) :
    Ensures (dispatch orch env.backend call query active errors) start
      (fun _ _ => True) (fun _ _ => False) := by
  have reports : ∀ response st, Ensures (withReport orch env.backend query response) st
      (fun _ _ => True) (fun _ _ => False) := by
    intro response st
    apply ensures_mono (with_report_returns orch env.backend _ _ query response st)
    · exact fun _ _ _ => trivial
    · exact fun _ _ impossible => impossible
    · intro built answer error failed
      rcases backend.builds built answer with ⟨content, works⟩
      rw [works] at failed
      cases failed
    · intro id content error failed
      rcases backend.delivers id content with ⟨location, works⟩
      rw [works] at failed
      cases failed
  rw [ensures_dispatch]
  cases outcome : env.backend.query (enrichedQuery query active) call.limit with
  | error error =>
      rcases backend.answers _ _ error outcome with ⟨message, rfl⟩
      exact reports _ _
  | ok result =>
      simp only [respond, ensures_ite, ensures_bind]
      constructor
      · intro _
        exact reports _ _
      · intro _
        apply ensures_mono (show_result_returns env call backend result.jql errors _)
        · exact fun shown middle _ => reports _ middle
        · exact fun _ _ impossible => impossible

section Dispatches

variable (clarification : DeclaredClarification env.clarification)
variable {ok : OrchestratorEvent → Prop} (allows : AllowsQuestions ok)
variable (moves : ∀ source target, ok (.transition source target))
variable (raises : CallState → Prop)
variable (sends : ∀ query active errors st, AllEvents ok st →
  Ensures (dispatch orch env.backend call query active errors) st (fun _ _ => True)
    (fun _ final => raises final))

include clarification allows moves sends

/-- Unless an elicited answer escapes, only the dispatch can raise. -/
theorem continues_raises_at_dispatch
    (query : String)
    (start : CallState)
    (before : AllEvents ok start)
    (resolvable : ¬ReplyUnresolvable orch env query start)
    (once : ¬(start.session.state = .resolved ∧ ∃ question answer resolved,
      ResolvesElicited orch env query start question answer resolved ∧
        learnFault env.clarification .elicitation 0 resolved.resolutions = none))
    (ending : Ending)
    (path : Detects orch env query start ending) :
    Continues orch env call query (fun _ _ => True) (fun _ final => raises final) ending := by
  cases path with
  | lookupFailed error fault =>
      rw [firstLookupFault, lookup_fault_none env.clarification clarification.lookups] at fault
      cases fault
  | allKnown lookups closed => exact sends query _ _ _ before
  | exhausted lookups someOpen spent => exact sends query _ _ _ before
  | unavailable error message needs failed caught =>
      exact sends query _ _ _ ((all_events_formulated orch env allows query start).mpr before)
  | clarifierFailed error needs failed passed =>
      obtain ⟨request, raised⟩ := formulated_failure orch env clarification.lists
        clarification.fields query start error failed
      exact absurd passed (clarification.formulates request error raised)
  | elicitFailed question error asks failed =>
      exact absurd failed (elicit_reply_returns env clarification.replies question error)
  | unanswered question asks silent => trivial
  | resolveFailed question answer error asks replied failed =>
      exact absurd ⟨question, answer, error, asks, replied, failed⟩ resolvable
  | learnFailed question answer resolved error resolves fault =>
      rw [learn_fault_none _ _ clarification.writes] at fault
      cases fault
  | resolvedTwice question answer resolved resolves written already =>
      exact absurd ⟨already, question, answer, resolved, resolves, written⟩ once
  | elicited question answer resolved resolves written legal =>
      exact sends query _ _ _ ((all_events_moved _ _).mpr
        ⟨(all_events_elicited_learned orch env allows query start question answer resolved).mpr
          before, moves _ _⟩)

theorem call_raises_at_dispatch
    (start : CallState)
    (before : AllEvents ok start)
    (kept : ¬ClarifierEscapes orch env call start) :
    Ensures (handleQuery orch env call) start (fun _ _ => True) (fun _ final => raises final) := by
  have opens := (all_events_opened start call.sessionId).mpr before
  have resolvable : ∀ query st, Begins orch env call start (.detects query st) →
      ¬ReplyUnresolvable orch env query st :=
    fun query st reached fails => kept (.elicitation query st reached fails)
  rw [ensures_handle_query]
  intro opening path
  cases path with
  | notPending free =>
      intro ending detected
      apply continues_raises_at_dispatch orch env call clarification allows moves raises sends
        _ _ opens
        (resolvable _ _ (.notPending free)) _ ending detected
      intro again
      obtain ⟨left, question, answer, resolved, resolves, stored⟩ := again
      exact kept (.resolvedTwice (.leftResolved left question answer resolved resolves stored))
  | resolveFailed answer error pending given failed =>
      exact absurd (.roundTrip answer error pending given failed) kept
  | learnFailed answer resolved error resolves fault =>
      rw [learn_fault_none _ _ clarification.writes] at fault
      cases fault
  | resumed answer resolved resolves written =>
      intro ending detected
      apply continues_raises_at_dispatch orch env call clarification allows moves raises sends
        _ _ ((all_events_moved _ _).mpr
          ⟨(all_events_answer_learned orch env call allows start answer resolved).mpr before,
            moves _ _⟩)
        (resolvable _ _ (.resumed answer resolved resolves written)) _ ending detected
      intro again
      obtain ⟨_, question, reply, more, resolvesMore, stored⟩ := again
      exact kept (.resolvedTwice
        (.afterAnswer answer resolved resolves written question reply more resolvesMore stored))
  | reissued question pending silent repeats => trivial
  | abandoned pending silent differs =>
      intro ending detected
      apply continues_raises_at_dispatch orch env call clarification allows moves raises sends
        _ (start.replaced call.sessionId) before
        (resolvable _ _ (.abandoned pending silent differs)) _ ending detected
      intro again
      cases again.1

end Dispatches

/-- Without an answer that escapes the call returns. -/
theorem handle_query_returns
    (clarification : DeclaredClarification env.clarification)
    (backend : DeclaredBackend env.backend)
    (start : CallState)
    (kept : ¬ClarifierEscapes orch env call start) :
    Ensures (handleQuery orch env call) start (fun _ _ => True) (fun _ _ => False) := by
  have anything : AllowsQuestions fun _ : OrchestratorEvent => True :=
    ⟨fun _ => trivial, fun _ => trivial, fun _ _ => trivial⟩
  apply call_raises_at_dispatch orch env call clarification anything (fun _ _ => trivial)
    (fun _ => False) _ start (fun _ _ => trivial) kept
  intro query active errors st _
  exact dispatch_returns orch env call backend query active errors st

theorem clarifier_escape_raises
    (start : CallState)
    (escapes : ClarifierEscapes orch env call start) :
    ¬Ensures (handleQuery orch env call) start (fun _ _ => True) (fun _ _ => False) := by
  intro returns
  cases escapes with
  | roundTrip answer error pending answered failed =>
      rw [ensures_handle_query] at returns
      exact returns _ (.resolveFailed answer error pending answered failed)
  | elicitation query st reached fails =>
      rcases fails with ⟨question, answer, error, asks, replied, failed⟩
      rw [ensures_handle_query] at returns
      exact returns _ reached _ (.resolveFailed question answer error asks replied failed)
  | resolvedTwice twice =>
      rcases resolves_twice_raises start twice _ _ returns with ⟨message, final, impossible⟩
      exact impossible

end Calls

/-- With declared outcomes a call returns a response unless an answer escapes. -/
theorem call_returns_iff
    (orch : OrchestratorConfig)
    (store : SessionBackend)
    (world : World)
    (call : QueryCall)
    (env : QueryEnvironment)
    (clarification : DeclaredClarification env.clarification)
    (backend : DeclaredBackend env.backend) :
    (∃ response, (queryStep orch store world call env).2.outcome = .ok response) ↔
      ¬ClarifierEscapes orch env call (CallState.start world call.sessionId) := by
  rw [query_step_iff orch store world call env fun _ record =>
    ∃ response, record.outcome = .ok response]
  constructor
  · intro returned escapes
    apply clarifier_escape_raises orch env call _ escapes
    apply ensures_mono returned
    · exact fun _ _ _ => trivial
    · rintro error final ⟨response, impossible⟩
      cases impossible
  · intro kept
    apply ensures_mono (handle_query_returns orch env call clarification backend _ kept)
    · exact fun response final _ => ⟨response, rfl⟩
    · exact fun _ _ impossible => impossible.elim

/-- `sampleEnvironment` with a clarifier that fails to resolve the answer. -/
def unresolvingEnvironment : QueryEnvironment :=
  { sampleEnvironment with
    clarification := { sampleEnvironment.clarification with
      resolveAnswer := fun _ _ => .error (.clarification "the model is down") } }

/-- The world in which the question about `open` is pending. -/
def openWorld : World :=
  (queryStep sampleOrchestrator .valkey {} { query := "open", sessionId := "s" }
    sampleEnvironment).1

theorem unresolving_declared :
    DeclaredClarification unresolvingEnvironment.clarification ∧
      DeclaredBackend unresolvingEnvironment.backend := by
  constructor
  · constructor
    · exact fun _ => rfl
    · exact fun _ _ => rfl
    · rfl
    · exact ⟨[], rfl⟩
    · intro elicit offered
      cases offered
    · intro request error failed
      cases failed
    · intro path request error failed
      cases failed
      simp [PyError.clarification?]
  · constructor
    · intro text limit error failed
      cases failed
    · exact fun _ => ⟨_, rfl⟩
    · exact fun _ _ => ⟨_, rfl⟩
    · exact fun _ _ => ⟨_, rfl⟩

theorem unresolved_answer_returns_iff :
    (∃ response, (queryStep sampleOrchestrator .valkey openWorld answerOpen
        unresolvingEnvironment).2.outcome = .ok response) ↔
      ¬ClarifierEscapes sampleOrchestrator unresolvingEnvironment answerOpen
        (CallState.start openWorld "s") :=
  call_returns_iff sampleOrchestrator .valkey openWorld answerOpen unresolvingEnvironment
    unresolving_declared.1 unresolving_declared.2

/-- The failure to resolve the answer to a pending question fails the query. -/
theorem unresolved_answer_raises :
    ReachableWorld sampleOrchestrator .valkey openWorld ∧
      DeclaredClarification unresolvingEnvironment.clarification ∧
      DeclaredBackend unresolvingEnvironment.backend ∧
      (queryStep sampleOrchestrator .valkey openWorld answerOpen unresolvingEnvironment).2.outcome =
        .error (.clarification "the model is down") := by
  constructor
  · exact ⟨{}, [.call { query := "open", sessionId := "s" } sampleEnvironment], ⟨trivial, trivial⟩,
      rfl⟩
  · exact ⟨unresolving_declared.1, unresolving_declared.2, by decide +kernel⟩

end AtlasMindNetra.Orchestrator
