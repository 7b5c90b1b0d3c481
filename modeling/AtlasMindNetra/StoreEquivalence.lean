import AtlasMindNetra.OrchestratorRuns

/-!
# The two session stores

A call runs the same way on either store; the stores differ in what they show
afterwards, and only when the call raised with changes to a stored session that
were not saved. Runs without such a call have the same records on both.
-/

namespace AtlasMindNetra.Orchestrator

open AtlasMindNetra.PythonValues AtlasMindNetra.ResponseModels
open AtlasMindNetra.SessionStore AtlasMindNetra.ConventionsStore
open AtlasMindNetra.IntentClassifier AtlasMindNetra.EffectRules AtlasMindNetra.RunRules

set_option autoImplicit false

def Saved (st : CallState) : Prop :=
  st.shared = true → st.sessions.get? st.session.sessionId = some st.session

theorem close_saved
    (final : CallState)
    (saved : Saved final) : final.close .inMemory = final.close .valkey := by
  unfold CallState.close
  cases shared : final.shared with
  | false => rfl
  | true => simp [OrderedDict.set_present _ _ _ (saved shared)]

section Losses

variable (orch : OrchestratorConfig) (env : QueryEnvironment) (query : String)
variable (start : CallState)

/-- The question is out and the rest of the round raises. -/
inductive ElicitationFails (question : String) : Prop
  | reply (error : PyError)
      (failed : elicitReply env question = .error error)
  | resolve (answer : String) (error : PyError)
      (replied : elicitReply env question = .ok (some answer))
      (failed : env.clarification.resolveAnswer .elicitation
        (elicitedRequest orch query start answer) = .error error)
  | learn (answer : String) (resolved : ResolvedTerms) (error : PyError)
      (resolves : ResolvesElicited orch env query start question answer resolved)
      (fault : learnFault env.clarification .elicitation 0 resolved.resolutions = some error)
  | twice (answer : String) (resolved : ResolvedTerms)
      (resolves : ResolvesElicited orch env query start question answer resolved)
      (written : learnFault env.clarification .elicitation 0 resolved.resolutions = none)
      (already : start.session.state = .resolved)

/-- Something between the detection of terms and the next save raises. -/
inductive DetectionFails : Prop
  | lookup (error : PyError)
      (fault : firstLookupFault orch env query start = some error)
  | clarifier (error : PyError)
      (needs : NeedsQuestion orch env query start)
      (failed : (formulated orch env query start).1 = .error error)
      (passed : error.clarification? = none)
  | elicitation (question : String)
      (asks : AsksQuestion orch env query start question)
      (fails : ElicitationFails orch env query start question)

end Losses

/-- The call raises between its first change to a stored session and the next
save: while the answer is learned, after it was learned, or in an elicitation
round of a session that was not waiting. -/
inductive LosesChanges (orch : OrchestratorConfig) (env : QueryEnvironment) (call : QueryCall)
    (start : CallState) : Prop
  | learning (answer : String) (resolved : ResolvedTerms) (error : PyError)
      (resolves : ResolvesAnswer orch env call start answer resolved)
      (fault : learnFault env.clarification .roundTrip 0 resolved.resolutions = some error)
      (changes : (answerLearned orch env call start answer resolved).session ≠
        openedSession call start)
  | afterAnswer (answer : String) (resolved : ResolvedTerms)
      (resolves : ResolvesAnswer orch env call start answer resolved)
      (written : learnFault env.clarification .roundTrip 0 resolved.resolutions = none)
      (fails : DetectionFails orch env (resumedQuery call start)
        ((answerLearned orch env call start answer resolved).moved .resolved))
  | afterQuestion (question : String)
      (held : (start.opened call.sessionId).shared = true)
      (free : (openedSession call start).state ≠ .awaitingClarification)
      (asks : AsksQuestion orch env call.query (start.opened call.sessionId) question)
      (fails : ElicitationFails orch env call.query (start.opened call.sessionId) question)

section Saving

variable (orch : OrchestratorConfig) (env : QueryEnvironment) (call : QueryCall)

theorem formulated_frame
    (query : String)
    (start : CallState) :
    (formulated orch env query start).2.shared = start.shared ∧
      (formulated orch env query start).2.sessions = start.sessions := by
  unfold formulated formulation
  cases formulateRequest orch env start.conventions query (unresolvedTerms orch query start) <;>
    exact ⟨rfl, rfl⟩

theorem replied_frame
    (query : String)
    (start : CallState)
    (question : String) :
    (repliedState orch env query start question).shared = start.shared ∧
      (repliedState orch env query start question).sessions = start.sessions := by
  rw [← (formulated_frame orch env query start).1, ← (formulated_frame orch env query start).2]
  unfold repliedState CallState.elicited
  split_ifs <;> exact ⟨rfl, rfl⟩

theorem elicited_learned_frame
    (query : String)
    (start : CallState)
    (question answer : String)
    (resolved : ResolvedTerms) :
    (elicitedLearned orch env query start question answer resolved).shared = start.shared ∧
      (elicitedLearned orch env query start question answer resolved).sessions =
        start.sessions := by
  have replied := replied_frame orch env query start question
  rw [elicitedLearned]
  exact ⟨(learned_frame 0 resolved.resolutions _).1.trans replied.1,
    (learned_frame 0 resolved.resolutions _).2.1.trans replied.2⟩

/-- A raise before the save leaves the table as it was, and the session too
unless the question was out. -/
theorem detects_raise
    (query : String)
    (start : CallState)
    (error : PyError)
    (final : CallState)
    (path : Detects orch env query start (.raises error final)) :
    final.shared = start.shared ∧ final.sessions = start.sessions ∧
      (final.session = start.session ∨ ∃ question, AsksQuestion orch env query start question ∧
        ElicitationFails orch env query start question) := by
  cases path with
  | lookupFailed _ fault => exact ⟨rfl, rfl, Or.inl rfl⟩
  | clarifierFailed _ needs failed passed =>
      have frame := formulated_frame orch env query start
      exact ⟨frame.1, frame.2, Or.inl (formulated_session orch env query start)⟩
  | elicitFailed question _ asks failed =>
      have frame := replied_frame orch env query start question
      exact ⟨frame.1, frame.2, Or.inr ⟨question, asks, .reply error failed⟩⟩
  | resolveFailed question answer _ asks replied failed =>
      have frame := replied_frame orch env query start question
      exact ⟨frame.1, frame.2, Or.inr ⟨question, asks, .resolve answer error replied failed⟩⟩
  | learnFailed question answer resolved _ resolves fault =>
      have frame := elicited_learned_frame orch env query start question answer resolved
      exact ⟨frame.1, frame.2, Or.inr ⟨question, resolves.toAsksQuestion,
        .learn answer resolved error resolves fault⟩⟩
  | resolvedTwice question answer resolved resolves written already =>
      have frame := elicited_learned_frame orch env query start question answer resolved
      exact ⟨frame.1, frame.2, Or.inr ⟨question, resolves.toAsksQuestion,
        .twice answer resolved resolves written already⟩⟩

theorem detects_raise_fails
    (query : String)
    (start : CallState)
    (error : PyError)
    (final : CallState)
    (path : Detects orch env query start (.raises error final)) :
    DetectionFails orch env query start := by
  cases path with
  | lookupFailed _ fault => exact .lookup error fault
  | clarifierFailed _ needs failed passed => exact .clarifier error needs failed passed
  | elicitFailed question _ asks failed => exact .elicitation question asks (.reply error failed)
  | resolveFailed question answer _ asks replied failed =>
      exact .elicitation question asks (.resolve answer error replied failed)
  | learnFailed question answer resolved _ resolves fault =>
      exact .elicitation question resolves.toAsksQuestion
        (.learn answer resolved error resolves fault)
  | resolvedTwice question answer resolved resolves written already =>
      exact .elicitation question resolves.toAsksQuestion
        (.twice answer resolved resolves written already)

theorem continues_saved
    (query : String)
    (start : CallState)
    (ending : Ending)
    (path : Detects orch env query start ending)
    (raising : ∀ error final, ending = .raises error final → Saved final) :
    Continues orch env call query (fun _ _ => True) (fun _ final => Saved final) ending := by
  cases ending with
  | awaits unresolved question st => trivial
  | raises error st => exact raising error st rfl
  | dispatches active errors st =>
      rw [Continues, ensures_dispatch]
      refine ensures_mono (respond_frame orch env.backend call query active errors _ _
        ⟨_, _, rfl⟩ _) (fun _ _ _ => trivial) ?_
      rintro error final ⟨⟨shown, rfl⟩, -⟩
      exact fun _ => OrderedDict.get?_set_self _ _ _

theorem opened_saved
    (start : CallState)
    (keyed : KeyedCall call.sessionId start) : Saved (start.opened call.sessionId) := by
  intro held
  unfold CallState.opened at held ⊢
  cases found : start.sessions.get? call.sessionId with
  | some session =>
      simp only
      rw [(keyed.stored _ session found).ownId, found]
  | none => simp [found] at held

/-- A raise loses nothing unless it comes between a change and its save. -/
theorem handle_query_saved
    (start : CallState)
    (keyed : KeyedCall call.sessionId start)
    (keeps : ¬LosesChanges orch env call start) :
    Ensures (handleQuery orch env call) start (fun _ _ => True) (fun _ final => Saved final) := by
  have opens := opened_saved call start keyed
  rw [ensures_handle_query]
  intro opening path
  cases path with
  | notPending free =>
      intro ending detected
      refine continues_saved orch env call _ _ ending detected ?_
      rintro error final rfl
      obtain ⟨shared, sessions, same | ⟨question, asks, fails⟩⟩ :=
        detects_raise orch env _ _ _ _ detected
      · intro held
        rw [sessions, same]
        exact opens (shared ▸ held)
      · intro held
        exact absurd (.afterQuestion question (shared ▸ held) free asks fails) keeps
  | resolveFailed answer error pending answered failed => exact opens
  | learnFailed answer resolved error resolves fault =>
      have same : (answerLearned orch env call start answer resolved).session =
          openedSession call start := by
        by_contra changes
        exact keeps (.learning answer resolved error resolves fault changes)
      intro held
      rw [same, answerLearned, (learned_frame 0 resolved.resolutions _).2.1]
      rw [answerLearned, (learned_frame 0 resolved.resolutions _).1] at held
      exact opens held
  | resumed answer resolved resolves written =>
      intro ending detected
      refine continues_saved orch env call _ _ ending detected ?_
      rintro error final rfl
      exact absurd (.afterAnswer answer resolved resolves written
        (detects_raise_fails orch env _ _ _ _ detected)) keeps
  | reissued question pending silent repeats => trivial
  | abandoned pending silent differs =>
      intro ending detected
      refine continues_saved orch env call _ _ ending detected ?_
      rintro error final rfl held
      rw [(detects_raise orch env _ _ _ _ detected).1] at held
      cases held

end Saving

/-- The condition on one step, at the world before it. -/
def KeepsChanges (orch : OrchestratorConfig) (world : World) : OrchestratorInput → Prop
  | .call call env => ¬LosesChanges orch env call (CallState.start world call.sessionId)
  | .expire _ => True

theorem world_step_same
    (orch : OrchestratorConfig)
    (world : World)
    (keyed : KeyedTable world.sessions)
    (input : OrchestratorInput)
    (keeps : KeepsChanges orch world input) :
    worldStep orch .valkey world input = worldStep orch .inMemory world input := by
  cases input with
  | expire sessionId => rfl
  | call call env =>
      have start := keyed_start world call.sessionId keyed
      have ends := ensures_and (handle_query_settles orch env call _ rfl)
        (handle_query_saved orch env call _ start keeps)
      have same : (queryStep orch .valkey world call env) = queryStep orch .inMemory world call env := by
        unfold queryStep
        unfold Ensures at ends
        cases ran : handleQuery orch env call (CallState.start world call.sessionId) with
        | ok response final =>
            rw [ran] at ends
            simp only [close_saved final fun _ => ends.1.stored]
        | error error final =>
            rw [ran] at ends
            simp only [close_saved final ends.2]
      simp only [worldStep, same]

/-- A run in which no call loses changes is the same on both stores, record by
record. -/
theorem stores_interchangeable
    (orch : OrchestratorConfig)
    (conventions : JsonFileConventionsStore)
    (inputs : List OrchestratorInput)
    (keeps : EveryStep (worldStep orch .inMemory) (KeepsChanges orch)
      { conventions := conventions } inputs) :
    (run (worldStep orch .valkey) { conventions := conventions } inputs).2 =
      (run (worldStep orch .inMemory) { conventions := conventions } inputs).2 := by
  have both : EveryStep (worldStep orch .inMemory)
      (fun world input => KeyedTable world.sessions ∧ KeepsChanges orch world input)
      { conventions := conventions } inputs :=
    every_step_of_invariant (fun world => KeyedTable world.sessions)
      (fun world input keyed _ => keyed_world_step orch .inMemory world input keyed)
      (fun _ _ keyed kept => ⟨keyed, kept⟩) _ inputs (fun _ _ found => by simp at found) keeps
  rw [lockstep_run (worldStep orch .valkey)
    (fun world input allowed => world_step_same orch world allowed.1 input allowed.2) _ inputs both]

theorem sample_environment_keeps
    (orch : OrchestratorConfig)
    (call : QueryCall)
    (start : CallState) : ¬LosesChanges orch sampleEnvironment call start := by
  have noLookupFault : ∀ resolutions terms,
      lookupFault sampleEnvironment.clarification resolutions terms = none := by
    intro resolutions terms
    induction terms with
    | nil => rfl
    | cons term rest ih =>
        rw [lookupFault]
        cases resolutions.get? term with
        | some resolution => exact ih
        | none => exact ih
  have noLearnFault : ∀ path index items,
      learnFault sampleEnvironment.clarification path index items = none := by
    intro path index items
    induction items generalizing index with
    | nil => rfl
    | cons item rest ih => exact ih (index + 1)
  have elicits : ∀ query st question,
      ¬ElicitationFails orch sampleEnvironment query st question := by
    intro query st question fails
    cases fails with
    | reply error failed => cases failed
    | resolve answer error replied failed => cases replied
    | learn answer resolved error resolves fault => cases resolves.replied
    | twice answer resolved resolves written already => cases resolves.replied
  intro loses
  cases loses with
  | learning answer resolved error resolves fault changes =>
      rw [noLearnFault] at fault
      cases fault
  | afterAnswer answer resolved resolves written fails =>
      cases fails with
      | lookup error fault =>
          rw [firstLookupFault, noLookupFault] at fault
          cases fault
      | clarifier error needs failed passed => cases failed
      | elicitation question asks fails => exact elicits _ _ _ fails
  | afterQuestion question held free asks fails => exact elicits _ _ _ fails

def answeredRun : List OrchestratorInput :=
  [.call { query := "open late", sessionId := "s" } sampleEnvironment,
    .call { query := "open late", sessionId := "s", clarificationAnswer := some "yes" }
      sampleEnvironment]

theorem answered_run_interchangeable :
    (run (worldStep sampleOrchestrator .valkey) {} answeredRun).2 =
      (run (worldStep sampleOrchestrator .inMemory) {} answeredRun).2 :=
  stores_interchangeable sampleOrchestrator {} answeredRun
    ⟨sample_environment_keeps _ _ _, sample_environment_keeps _ _ _, trivial⟩

/-- The answer is learned, then the conventions store fails; the third call
repeats the query. -/
def failedLookupRun : List OrchestratorInput :=
  [.call { query := "open late", sessionId := "s" } sampleEnvironment,
    .call { query := "open late", sessionId := "s", clarificationAnswer := some "yes" }
      { sampleEnvironment with
        clarification := { sampleEnvironment.clarification with
          conventionsGet := fun _ => some (.os "conventions store unavailable") } },
    .call { query := "open late", sessionId := "s" } sampleEnvironment]

/-- The in-memory store asks a new question, Valkey repeats the old one. -/
theorem failed_lookup_tells_stores_apart :
    (run (worldStep sampleOrchestrator .valkey) {} failedLookupRun).2.map
        (Option.map CallRecord.outcome) ≠
      (run (worldStep sampleOrchestrator .inMemory) {} failedLookupRun).2.map
        (Option.map CallRecord.outcome) := by
  intro same
  have questions := congrArg (List.map (Option.map fun outcome : Except PyError QueryResponse =>
    outcome.toOption.map QueryResponse.clarificationQuestion)) same
  exact absurd questions (by decide +kernel)

end AtlasMindNetra.Orchestrator
