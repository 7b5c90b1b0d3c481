import AtlasMindNetra.OrchestratorRuns

/-!
# Backend results in responses

`_dispatch` builds its response field by field in one place for results and in
another for a result without issues. The second takes over the JQL alone, so an
answer that comes without a total is lost there.
-/

namespace AtlasMindNetra.Orchestrator

open AtlasMindNetra.PythonValues AtlasMindNetra.ResponseModels
open AtlasMindNetra.SessionStore AtlasMindNetra.ConventionsStore
open AtlasMindNetra.IntentClassifier AtlasMindNetra.EffectRules

set_option autoImplicit false

def resultOf (response : QueryResponse) : LiteQueryResult where
  answer := response.answer
  jql := response.jql
  total := response.total
  shown := response.shown
  displayFields := response.displayFields
  issues := response.issues
  chartSpec := response.chartSpec

/-- Only a result without issues can have something to lose. -/
def LosesNothing (result : LiteQueryResult) : Prop :=
  result.total ≠ 0 ∨ result = { jql := result.jql }

instance (result : LiteQueryResult) : Decidable (LosesNothing result) :=
  inferInstanceAs (Decidable (_ ∨ _))

section Responses

variable (orch : OrchestratorConfig) (env : QueryEnvironment) (call : QueryCall)

theorem with_report_keeps_result
    (backend : BackendSide)
    (query : String)
    (response : QueryResponse)
    (start : CallState) :
    Ensures (withReport orch backend query response) start
      (fun written final => resultOf written = resultOf response ∧ final = start)
      (fun _ _ => True) := by
  unfold withReport
  rw [ensures_ite]
  constructor
  · intro _
    dsimp only
    cases backend.buildQueryReport query response >>=
        backend.deliver (reportId backend response.sessionId) with
    | ok location => exact ⟨rfl, rfl⟩
    | error error =>
        dsimp only
        rw [ensures_ite]
        exact ⟨fun _ => ⟨rfl, rfl⟩, fun _ => trivial⟩
  · intro _
    exact ⟨rfl, rfl⟩

theorem respond_shows_iff
    (query : String)
    (active : ActiveTerms)
    (errors : List String)
    (sessionId : String)
    (result : LiteQueryResult)
    (start : CallState) :
    Ensures (respond orch env.backend call query active errors sessionId (.ok result)) start
      (fun response final =>
        (resultOf response = result ↔ LosesNothing result) ∧ AfterDisplay start final)
      (fun _ _ => True) := by
  simp only [respond, ensures_ite, ensures_bind]
  constructor
  · intro empty
    apply ensures_mono (with_report_keeps_result orch env.backend query
      (zeroResponse sessionId active errors result) start)
    · rintro response final ⟨kept, rfl⟩
      refine ⟨?_, after_display_refl _⟩
      rw [kept, LosesNothing]
      change { jql := result.jql } = result ↔ _
      constructor
      · intro same
        exact Or.inr same.symm
      · rintro (found | same)
        · exact absurd empty found
        · exact same.symm
    · intro _ _ _
      trivial
  · intro found
    apply ensures_mono (show_result_frame env.backend call.showInUi result.jql errors start)
    · rintro shown middle ⟨displayed, _⟩
      apply ensures_mono (with_report_keeps_result orch env.backend query
        (resultResponse sessionId active shown.2 shown.1 result) middle)
      · rintro response final ⟨kept, rfl⟩
        refine ⟨?_, displayed⟩
        rw [kept]
        exact iff_of_true rfl (Or.inl found)
      · intro _ _ _
        trivial
    · intro _ _ _
      trivial

/-- The backend's result for the query of the call, as far as there was one. -/
def ShowsIff (response : QueryResponse) (final : CallState) : Prop :=
  ∀ query enriched limit result, .backendQueried query enriched limit ∈ final.events →
    env.backend.query enriched limit = .ok result →
      (resultOf response = result ↔ LosesNothing result)

theorem dispatch_shows_iff
    (query : String)
    (active : ActiveTerms)
    (errors : List String)
    (start : CallState)
    (unsent : AllEvents (fun event => event.isBackendQuery = false) start) :
    Ensures (dispatch orch env.backend call query active errors) start
      (ShowsIff env) (fun _ _ => True) := by
  rw [ensures_dispatch]
  -- The one backend query of the call is the one that is responded to.
  have onlyQuery (final : CallState)
      (displayed : AfterDisplay (start.dispatched call query active) final)
      (asked enriched : String) (limit : Option Int)
      (queried : .backendQueried asked enriched limit ∈ final.events) :
      enriched = enrichedQuery query active ∧ limit = call.limit := by
    rcases displayed with ⟨shown, rfl⟩
    rcases List.mem_append.mp queried with before | after
    · rcases List.mem_append.mp before with earlier | last
      · rcases List.mem_append.mp earlier with first | moved
        · cases unsent _ first
        · cases List.mem_singleton.mp moved
      · cases List.mem_singleton.mp last
        exact ⟨rfl, rfl⟩
    · rcases List.mem_map.mp after with ⟨_, _, same⟩
      cases same
  cases outcome : env.backend.query (enrichedQuery query active) call.limit with
  | error error =>
      apply ensures_mono (respond_frame orch env.backend call query active errors _ _
        ⟨_, _, outcome⟩ _)
      · rintro response final ⟨displayed, _⟩ asked enriched limit result queried answered
        rcases onlyQuery final displayed asked enriched limit queried with ⟨rfl, rfl⟩
        cases outcome.symm.trans answered
      · intro _ _ _
        trivial
  | ok found =>
      apply ensures_mono (respond_shows_iff orch env call query active errors _ found _)
      · rintro response final ⟨shows, displayed⟩ asked enriched limit result queried answered
        rcases onlyQuery final displayed asked enriched limit queried with ⟨rfl, rfl⟩
        cases outcome.symm.trans answered
        exact shows
      · intro _ _ _
        trivial

/-- What holds of every question before the backend query and of every
dispatch holds of the whole call; until then there are the events of a question
only. -/
theorem handle_query_ends
    {ok : OrchestratorEvent → Prop}
    (allows : AllowsQuestions ok)
    (moves : ∀ source target, ok (.transition source target))
    (holds : QueryResponse → CallState → Prop)
    (questions : ∀ response final, AllEvents ok final → holds response final)
    (dispatches : ∀ query active errors st, AllEvents ok st →
      Ensures (dispatch orch env.backend call query active errors) st holds (fun _ _ => True))
    (start : CallState)
    (fresh : start.events = []) :
    Ensures (handleQuery orch env call) start holds (fun _ _ => True) := by
  have unsent : AllEvents ok start := by
    intro event member
    rw [fresh] at member
    cases member
  have detected (query : String) (st : CallState)
      (before : AllEvents ok st) (ending : Ending)
      (path : Detects orch env query st ending) :
      Continues orch env call query holds (fun _ _ => True) ending := by
    cases path with
    | allKnown _ _ => exact dispatches _ _ _ _ before
    | exhausted _ _ _ => exact dispatches _ _ _ _ before
    | unavailable _ _ _ _ _ =>
        exact dispatches _ _ _ _
          ((all_events_formulated orch env allows query st).mpr before)
    | unanswered question _ _ =>
        apply questions
        exact (all_events_moved _ _).mpr
          ⟨(all_events_replied orch env allows query st question).mpr before, moves _ _⟩
    | elicited question answer resolved _ _ _ =>
        exact dispatches _ _ _ _ ((all_events_moved _ _).mpr
          ⟨(all_events_elicited_learned orch env allows query st question answer
            resolved).mpr before, moves _ _⟩)
    | _ => trivial
  have opens := (all_events_opened start call.sessionId).mpr unsent
  apply (ensures_handle_query orch env call start _ _).mpr
  intro opening path
  cases path with
  | notPending _ => exact detected _ _ opens
  | resumed answer resolved _ _ =>
      exact detected _ _ ((all_events_moved _ _).mpr
        ⟨(all_events_answer_learned orch env call allows start answer
          resolved).mpr unsent, moves _ _⟩)
  | reissued question _ _ _ => exact questions _ _ opens
  | abandoned _ _ _ => exact detected _ (start.replaced call.sessionId) unsent
  | _ => trivial

end Responses

/-- The response of a call shows the result that the backend gave it exactly if
the result has a total, or nothing in it besides its JQL. -/
theorem backend_result_passed_iff
    (orch : OrchestratorConfig)
    (store : SessionBackend)
    (world : World)
    (call : QueryCall)
    (env : QueryEnvironment)
    (response : QueryResponse)
    (returned : (queryStep orch store world call env).2.outcome = .ok response)
    (query enriched : String)
    (limit : Option Int)
    (queried : .backendQueried query enriched limit ∈
      (queryStep orch store world call env).2.events)
    (result : LiteQueryResult)
    (answered : env.backend.query enriched limit = .ok result) :
    resultOf response = result ↔ LosesNothing result := by
  have shows := (query_step_iff orch store world call env fun _ record =>
    ∀ response, record.outcome = .ok response →
      ∀ query enriched limit result, .backendQueried query enriched limit ∈ record.events →
        env.backend.query enriched limit = .ok result →
          (resultOf response = result ↔ LosesNothing result)).mpr ?_
  · exact shows response returned query enriched limit result queried answered
  · apply ensures_mono (handle_query_ends orch env call unsent_allows_questions
      (fun _ _ => rfl) (ShowsIff env) _
      (fun query active errors st => dispatch_shows_iff orch env call query active errors st) _ rfl)
    · intro response final shows other same
      cases same
      exact shows
    · intro error final _ other same
      cases same
    · intro response final unsent query enriched limit result queried
      cases unsent _ queried

def generalAnswer : LiteQueryResult where
  answer := some "A blocker stops the release."

def generalEnvironment : QueryEnvironment :=
  { sampleEnvironment with backend := { query := fun _ _ => .ok generalAnswer } }

def askGeneral : QueryCall := { query := "what is a blocker", sessionId := "s" }

theorem general_answer_lost :
    ∃ response,
      (queryStep sampleOrchestrator .inMemory {} askGeneral generalEnvironment).2.outcome =
        .ok response ∧
      .backendQueried "what is a blocker" "what is a blocker" none ∈
        (queryStep sampleOrchestrator .inMemory {} askGeneral generalEnvironment).2.events ∧
      resultOf response ≠ generalAnswer := by
  refine ⟨_, rfl, ?_, ?_⟩
  · decide +kernel
  · decide +kernel

/-- The sample backend finds an issue, and its result is passed on. -/
theorem found_issue_passed_iff :
    ∃ response,
      (queryStep sampleOrchestrator .inMemory {} askGeneral sampleEnvironment).2.outcome =
        .ok response ∧
      (resultOf response = { jql := some "project = A", total := 1, shown := 1 } ↔
        LosesNothing { jql := some "project = A", total := 1, shown := 1 }) := by
  refine ⟨_, rfl, ?_⟩
  exact backend_result_passed_iff sampleOrchestrator .inMemory {} askGeneral sampleEnvironment _ rfl
    "what is a blocker" "what is a blocker" none (by decide +kernel) _ rfl

end AtlasMindNetra.Orchestrator
