import AtlasMindNetra.OrchestratorRules

/-!
# The paths through one call

`Begins` lists the ways from the first line of `handle_query` to the detection
of terms, `Detects` the ways from there to a dispatch, a question or an error.
Every premise is about the state before the step and about what a collaborator
returns. The two theorems at the end say that these are all the ways there are.
-/

namespace AtlasMindNetra.Orchestrator

open AtlasMindNetra.PythonValues AtlasMindNetra.ResponseModels
open AtlasMindNetra.SessionStore AtlasMindNetra.ConventionsStore
open AtlasMindNetra.IntentClassifier AtlasMindNetra.EffectRules

set_option autoImplicit false

/-- How the part of a call before the backend query can end. -/
inductive Ending where
  | dispatches (active : ActiveTerms) (errors : List String) (st : CallState)
  | awaits (unresolved : List String) (question : String) (st : CallState)
  | raises (error : PyError) (st : CallState)

def Ending.state : Ending → CallState
  | .dispatches _ _ st | .awaits _ _ st | .raises _ st => st

def CallState.moved (st : CallState) (newState : ClarificationState) : CallState :=
  (st.log (.transition st.session.state newState)).withSession
    { st.session with state := newState }

def CallState.countRound (st : CallState) : CallState :=
  st.withSession { st.session with clarificationRounds := st.session.clarificationRounds + 1 }

def CallState.awaiting (st : CallState) (query : String) (unresolved : List String)
    (question : String) : CallState :=
  ((st.moved .awaitingClarification).withSession
    (awaitAnswer query unresolved question (st.moved .awaitingClarification).session)).save

section Detection

variable (orch : OrchestratorConfig) (env : QueryEnvironment) (query : String)
variable (start : CallState)

def knownTerms : ActiveTerms :=
  activateKnown orch start.session.resolutions start.conventions ∅
    (detect orch.tables orch.vocab query)

def unresolvedTerms : List String :=
  openTerms orch start.session.resolutions start.conventions
    (detect orch.tables orch.vocab query)

def firstLookupFault : Option PyError :=
  lookupFault env.clarification start.session.resolutions (detect orch.tables orch.vocab query)

structure NeedsQuestion : Prop where
  lookups : firstLookupFault orch env query start = none
  someOpen : unresolvedTerms orch query start ≠ []
  roundsLeft : start.session.clarificationRounds < orch.settings.maxRounds

variable {orch env query start} in
theorem NeedsQuestion.query_text (needs : NeedsQuestion orch env query start) : query ≠ "" := by
  intro blank
  apply needs.someOpen
  rw [unresolvedTerms, blank, detect_empty]
  rfl

def formulated : Except PyError ClarificationNeeded × CallState :=
  formulation orch env query (unresolvedTerms orch query start) start

structure AsksQuestion (question : String) : Prop extends
    NeedsQuestion orch env query start where
  needed : ∃ needed, (formulated orch env query start).1 = .ok needed ∧ needed.question = question

def repliedState (question : String) : CallState :=
  (formulated orch env query start).2.countRound.elicited env question

def elicitedRequest (answer : String) : ResolveRequest :=
  resolveRequest orch query (unresolvedTerms orch query start) answer

def elicitedState (question answer : String) : CallState :=
  (repliedState orch env query start question).log
    (.resolveRequested .elicitation (elicitedRequest orch query start answer))

structure ResolvesElicited (question answer : String) (resolved : ResolvedTerms) : Prop extends
    AsksQuestion orch env query start question where
  replied : elicitReply env question = .ok (some answer)
  resolves : env.clarification.resolveAnswer .elicitation
    (elicitedRequest orch query start answer) = .ok resolved

def elicitedLearned (question answer : String) (resolved : ResolvedTerms) : CallState :=
  learned orch env.clarification .elicitation 0 resolved.resolutions
    (elicitedState orch env query start question answer)

inductive Detects : Ending → Prop
  | lookupFailed (error : PyError)
      (fault : firstLookupFault orch env query start = some error) :
      Detects (.raises error start)
  | allKnown
      (lookups : firstLookupFault orch env query start = none)
      (closed : unresolvedTerms orch query start = []) :
      Detects (.dispatches (knownTerms orch query start) [] start)
  | exhausted
      (lookups : firstLookupFault orch env query start = none)
      (someOpen : unresolvedTerms orch query start ≠ [])
      (spent : orch.settings.maxRounds ≤ start.session.clarificationRounds) :
      Detects (.dispatches (knownTerms orch query start)
        [exhaustedNotice (unresolvedTerms orch query start)] start)
  | unavailable (error : PyError) (message : String)
      (needs : NeedsQuestion orch env query start)
      (failed : (formulated orch env query start).1 = .error error)
      (caught : error.clarification? = some message) :
      Detects (.dispatches (knownTerms orch query start) [unavailableNotice message]
        (formulated orch env query start).2)
  | clarifierFailed (error : PyError)
      (needs : NeedsQuestion orch env query start)
      (failed : (formulated orch env query start).1 = .error error)
      (passed : error.clarification? = none) :
      Detects (.raises error (formulated orch env query start).2)
  | elicitFailed (question : String) (error : PyError)
      (asks : AsksQuestion orch env query start question)
      (failed : elicitReply env question = .error error) :
      Detects (.raises error (repliedState orch env query start question))
  | unanswered (question : String)
      (asks : AsksQuestion orch env query start question)
      (silent : elicitReply env question = .ok none) :
      Detects (.awaits (unresolvedTerms orch query start) question
        (repliedState orch env query start question))
  | resolveFailed (question answer : String) (error : PyError)
      (asks : AsksQuestion orch env query start question)
      (replied : elicitReply env question = .ok (some answer))
      (failed : env.clarification.resolveAnswer .elicitation
        (elicitedRequest orch query start answer) = .error error) :
      Detects (.raises error (elicitedState orch env query start question answer))
  | learnFailed (question answer : String) (resolved : ResolvedTerms) (error : PyError)
      (resolves : ResolvesElicited orch env query start question answer resolved)
      (fault : learnFault env.clarification .elicitation 0 resolved.resolutions = some error) :
      Detects (.raises error (elicitedLearned orch env query start question answer resolved))
  | resolvedTwice (question answer : String) (resolved : ResolvedTerms)
      (resolves : ResolvesElicited orch env query start question answer resolved)
      (written : learnFault env.clarification .elicitation 0 resolved.resolutions = none)
      (already : start.session.state = .resolved) :
      Detects (.raises
        ((elicitedLearned orch env query start question answer resolved).session.illegalTransition
          .resolved)
        ((elicitedLearned orch env query start question answer resolved).log
          (.transition .resolved .resolved)))
  | elicited (question answer : String) (resolved : ResolvedTerms)
      (resolves : ResolvesElicited orch env query start question answer resolved)
      (written : learnFault env.clarification .elicitation 0 resolved.resolutions = none)
      (moves : start.session.state ≠ .resolved) :
      Detects (.dispatches
        (activateResolved
          (elicitedLearned orch env query start question answer resolved).session.resolutions
          (knownTerms orch query start) (unresolvedTerms orch query start))
        []
        ((elicitedLearned orch env query start question answer resolved).moved .resolved))

end Detection

section Continuation

variable (orch : OrchestratorConfig) (env : QueryEnvironment) (call : QueryCall)

/-- What the rest of the call does after `ending`. -/
def Continues
    (query : String)
    (returns : QueryResponse → CallState → Prop)
    (raises : PyError → CallState → Prop) : Ending → Prop
  | .dispatches active errors st =>
      Ensures (dispatch orch env.backend call query active errors) st returns raises
  | .awaits unresolved question st =>
      returns (questionResponse call.sessionId question) (st.awaiting query unresolved question)
  | .raises error st => raises error st

theorem formulated_session
    (query : String)
    (start : CallState) : (formulated orch env query start).2.session = start.session := by
  unfold formulated formulation
  cases formulateRequest orch env start.conventions query (unresolvedTerms orch query start) <;> rfl

/-- With conventions and fields at hand only the clarifier fails to formulate. -/
theorem formulated_failure
    (lists : env.clarification.conventionsList = none)
    (fields : ∃ fields, env.clarification.loadFields = .ok fields)
    (query : String)
    (start : CallState)
    (error : PyError)
    (failed : (formulated orch env query start).1 = .error error) :
    ∃ request, env.clarification.formulateQuestion request = .error error := by
  rcases fields with ⟨fields, loaded⟩
  rw [formulated, formulation, formulateRequest, lists, loaded] at failed
  exact ⟨_, failed⟩

theorem replied_session
    (query : String)
    (start : CallState)
    (question : String) :
    (repliedState orch env query start question).session =
      { start.session with clarificationRounds := start.session.clarificationRounds + 1 } := by
  unfold repliedState CallState.elicited CallState.countRound
  split_ifs <;> simp [formulated_session]

theorem elicited_learned_state
    (query : String)
    (start : CallState)
    (question answer : String)
    (resolved : ResolvedTerms) :
    (elicitedLearned orch env query start question answer resolved).session.state =
      start.session.state := by
  rw [elicitedLearned, learned_session]
  simp [elicitedState, replied_session]

theorem ensures_return_question
    (query : String)
    (unresolved : List String)
    (question : String)
    (start : CallState)
    (returns : QueryResponse → CallState → Prop)
    (raises : PyError → CallState → Prop) :
    Ensures (returnQuestion call query unresolved question) start returns raises ↔
      returns (questionResponse call.sessionId question)
        (start.awaiting query unresolved question) := by
  have allowed := ClarificationState.awaiting_always_allowed start.session.state
  simp only [returnQuestion, ensures_bind, ensures_transition, allowed, true_imp_iff,
    not_true_eq_false, false_imp_iff, and_true, ensures_edit_session, ensures_save_session,
    ensures_pure]
  rfl

theorem ensures_use_elicited
    (query : String)
    (start : CallState)
    (question answer : String)
    (returns : QueryResponse → CallState → Prop)
    (raises : PyError → CallState → Prop) :
    let request := elicitedRequest orch query start answer
    let reach := fun resolved => elicitedLearned orch env query start question answer resolved
    Ensures (useElicited orch env call query (knownTerms orch query start)
        (unresolvedTerms orch query start) answer)
      (repliedState orch env query start question) returns raises ↔
      (∀ error, env.clarification.resolveAnswer .elicitation request = .error error →
        raises error (elicitedState orch env query start question answer)) ∧
      (∀ resolved, env.clarification.resolveAnswer .elicitation request = .ok resolved →
        (∀ error, learnFault env.clarification .elicitation 0 resolved.resolutions = some error →
          raises error (reach resolved)) ∧
        (learnFault env.clarification .elicitation 0 resolved.resolutions = none →
          (start.session.state = .resolved →
            raises ((reach resolved).session.illegalTransition .resolved)
              ((reach resolved).log (.transition .resolved .resolved))) ∧
          (start.session.state ≠ .resolved →
            Ensures (dispatch orch env.backend call query
              (activateResolved (reach resolved).session.resolutions
                (knownTerms orch query start) (unresolvedTerms orch query start)) [])
              ((reach resolved).moved .resolved) returns raises))) := by
  intro request reach
  have same : ∀ resolved, (reach resolved).session.state = start.session.state :=
    elicited_learned_state orch env query start question answer
  simp only [useElicited, ensures_bind, ensures_resolve_and_learn, ensures_get, ensures_transition,
    ClarificationState.resolved_allowed_iff]
  refine and_congr Iff.rfl (forall_congr' fun resolved => imp_congr_right fun _ => ?_)
  rw [and_comm]
  refine and_congr Iff.rfl (imp_congr_right fun _ => ?_)
  change (((reach resolved).session.state ≠ .resolved → _) ∧
    (¬(reach resolved).session.state ≠ .resolved → _)) ↔ _
  rw [same, not_not, and_comm]
  refine and_congr (imp_congr_right fun already => ?_) Iff.rfl
  change raises _ ((reach resolved).log (.transition (reach resolved).session.state .resolved)) ↔ _
  rw [same, already]
  rfl

theorem ensures_clarify
    (query : String)
    (start : CallState)
    (returns : QueryResponse → CallState → Prop)
    (raises : PyError → CallState → Prop) :
    let asked := formulated orch env query start
    let reach := fun question => repliedState orch env query start question
    Ensures (clarify orch env call query (knownTerms orch query start)
        (unresolvedTerms orch query start)) start returns raises ↔
      (∀ needed, asked.1 = .ok needed →
        (∀ error, elicitReply env needed.question = .error error →
          raises error (reach needed.question)) ∧
        (elicitReply env needed.question = .ok none →
          returns (questionResponse call.sessionId needed.question)
            ((reach needed.question).awaiting query (unresolvedTerms orch query start)
              needed.question)) ∧
        (∀ answer, elicitReply env needed.question = .ok (some answer) →
          Ensures (useElicited orch env call query (knownTerms orch query start)
            (unresolvedTerms orch query start) answer) (reach needed.question) returns raises)) ∧
      (∀ error, asked.1 = .error error →
        (∀ message, error.clarification? = some message →
          Ensures (dispatch orch env.backend call query (knownTerms orch query start)
            [unavailableNotice message]) asked.2 returns raises) ∧
        (error.clarification? = none → raises error asked.2)) := by
  intro asked reach
  simp only [clarify, ensures_bind, ensures_attempt_question, ensures_edit_session,
    ensures_elicit_answer]
  refine and_congr (forall_congr' fun needed => imp_congr_right fun _ => ?_) Iff.rfl
  constructor
  · rintro ⟨answered, failed⟩
    refine ⟨failed, fun silent => ?_, fun answer replied => answered (some answer) replied⟩
    exact (ensures_return_question call query _ _ _ returns raises).mp (answered none silent)
  · rintro ⟨failed, silent, answered⟩
    refine ⟨fun answer replied => ?_, failed⟩
    cases answer with
    | none => exact (ensures_return_question call query _ _ _ returns raises).mpr (silent replied)
    | some text => exact answered text replied

theorem ensures_detect_and_dispatch
    (query : String)
    (start : CallState)
    (returns : QueryResponse → CallState → Prop)
    (raises : PyError → CallState → Prop) :
    Ensures (detectAndDispatch orch env call query) start returns raises ↔
      ∀ ending, Detects orch env query start ending →
        Continues orch env call query returns raises ending := by
  simp only [detectAndDispatch, ensures_bind, ensures_split_resolved, ensures_get, ensures_ite]
  change ((firstLookupFault orch env query start = none →
    (unresolvedTerms orch query start = [] → Ensures (dispatch orch env.backend call query
      (knownTerms orch query start) []) start returns raises) ∧
    (unresolvedTerms orch query start ≠ [] →
      (orch.settings.maxRounds ≤ start.session.clarificationRounds →
        Ensures (dispatch orch env.backend call query (knownTerms orch query start)
          [exhaustedNotice (unresolvedTerms orch query start)]) start returns raises) ∧
      (¬orch.settings.maxRounds ≤ start.session.clarificationRounds →
        Ensures (clarify orch env call query (knownTerms orch query start)
          (unresolvedTerms orch query start)) start returns raises))) ∧
    (∀ error, firstLookupFault orch env query start = some error → raises error start)) ↔ _
  simp only [ensures_clarify, ensures_use_elicited, Nat.not_le]
  constructor
  · rintro ⟨found, faulty⟩ ending path
    cases path with
    | lookupFailed error fault => exact faulty error fault
    | allKnown lookups closed => exact (found lookups).1 closed
    | exhausted lookups someOpen spent => exact ((found lookups).2 someOpen).1 spent
    | unavailable error message needs failed caught =>
        have asks := ((found needs.lookups).2 needs.someOpen).2 needs.roundsLeft
        exact (asks.2 error failed).1 message caught
    | clarifierFailed error needs failed passed =>
        have asks := ((found needs.lookups).2 needs.someOpen).2 needs.roundsLeft
        exact (asks.2 error failed).2 passed
    | elicitFailed question error asked failed =>
        have asks := ((found asked.lookups).2 asked.someOpen).2 asked.roundsLeft
        rcases asked.needed with ⟨needed, formed, rfl⟩
        exact (asks.1 needed formed).1 error failed
    | unanswered question asked silent =>
        have asks := ((found asked.lookups).2 asked.someOpen).2 asked.roundsLeft
        rcases asked.needed with ⟨needed, formed, rfl⟩
        exact (asks.1 needed formed).2.1 silent
    | resolveFailed question answer error asked replied failed =>
        have asks := ((found asked.lookups).2 asked.someOpen).2 asked.roundsLeft
        rcases asked.needed with ⟨needed, formed, rfl⟩
        exact ((asks.1 needed formed).2.2 answer replied).1 error failed
    | learnFailed question answer resolved error resolves fault =>
        have asks := ((found resolves.lookups).2 resolves.someOpen).2 resolves.roundsLeft
        rcases resolves.needed with ⟨needed, formed, rfl⟩
        exact (((asks.1 needed formed).2.2 answer resolves.replied).2 resolved
          resolves.resolves).1 error fault
    | resolvedTwice question answer resolved resolves written already =>
        have asks := ((found resolves.lookups).2 resolves.someOpen).2 resolves.roundsLeft
        rcases resolves.needed with ⟨needed, formed, rfl⟩
        exact ((((asks.1 needed formed).2.2 answer resolves.replied).2 resolved
          resolves.resolves).2 written).1 already
    | elicited question answer resolved resolves written moves =>
        have asks := ((found resolves.lookups).2 resolves.someOpen).2 resolves.roundsLeft
        rcases resolves.needed with ⟨needed, formed, rfl⟩
        exact ((((asks.1 needed formed).2.2 answer resolves.replied).2 resolved
          resolves.resolves).2 written).2 moves
  · intro paths
    refine ⟨fun lookups => ⟨fun closed => paths _ (.allKnown lookups closed), fun someOpen =>
      ⟨fun spent => paths _ (.exhausted lookups someOpen spent), fun roundsLeft => ?_⟩⟩,
      fun error fault => paths _ (.lookupFailed error fault)⟩
    have needs : NeedsQuestion orch env query start := ⟨lookups, someOpen, roundsLeft⟩
    refine ⟨fun needed formed => ?_, fun error failed =>
      ⟨fun message caught => paths _ (.unavailable error message needs failed caught),
        fun passed => paths _ (.clarifierFailed error needs failed passed)⟩⟩
    have asks : AsksQuestion orch env query start needed.question :=
      ⟨needs, needed, formed, rfl⟩
    refine ⟨fun error failed => paths _ (.elicitFailed _ error asks failed),
      fun silent => paths _ (.unanswered _ asks silent), fun answer replied =>
      ⟨fun error failed => paths _ (.resolveFailed _ answer error asks replied failed),
        fun resolved resolves => ?_⟩⟩
    have done : ResolvesElicited orch env query start needed.question answer resolved :=
      ⟨asks, replied, resolves⟩
    exact ⟨fun error fault => paths _ (.learnFailed _ answer resolved error done fault),
      fun written => ⟨fun already => paths _ (.resolvedTwice _ answer resolved done written already),
        fun moves => paths _ (.elicited _ answer resolved done written moves)⟩⟩

theorem continues_closed
    (lookups : ∀ term, env.clarification.conventionsGet term = none)
    (query : String)
    (start : CallState)
    (closed : unresolvedTerms orch query start = [])
    (returns : QueryResponse → CallState → Prop)
    (raises : PyError → CallState → Prop)
    (sends : Ensures (dispatch orch env.backend call query (knownTerms orch query start) []) start
      returns raises)
    (ending : Ending)
    (path : Detects orch env query start ending) :
    Continues orch env call query returns raises ending := by
  cases path with
  | lookupFailed error fault =>
      rw [firstLookupFault, lookup_fault_none env.clarification lookups] at fault
      cases fault
  | allKnown lookups closed => exact sends
  | exhausted lookups someOpen spent => exact absurd closed someOpen
  | unavailable error message needs failed caught => exact absurd closed needs.someOpen
  | clarifierFailed error needs failed passed => exact absurd closed needs.someOpen
  | elicitFailed question error asks failed => exact absurd closed asks.someOpen
  | unanswered question asks silent => exact absurd closed asks.someOpen
  | resolveFailed question answer error asks replied failed => exact absurd closed asks.someOpen
  | learnFailed question answer resolved error resolves fault =>
      exact absurd closed resolves.someOpen
  | resolvedTwice question answer resolved resolves written already =>
      exact absurd closed resolves.someOpen
  | elicited question answer resolved resolves written moves => exact absurd closed resolves.someOpen

end Continuation

/-- How the part of a call before the detection of terms can end. -/
inductive Opening where
  | detects (query : String) (st : CallState)
  | reissues (question : String) (st : CallState)
  | raises (error : PyError) (st : CallState)

def CallState.opened (st : CallState) (sessionId : String) : CallState :=
  match st.sessions.get? sessionId with
  | some session => { st with session := session, shared := true }
  | none => { st with session := { sessionId := sessionId }, shared := false }

def CallState.replaced (st : CallState) (sessionId : String) : CallState :=
  { st with session := { sessionId := sessionId }, shared := false }

theorem replaced_opened
    (st : CallState)
    (sessionId : String) : (st.opened sessionId).replaced sessionId = st.replaced sessionId := by
  unfold CallState.opened
  cases st.sessions.get? sessionId <;> rfl

section Beginning

variable (orch : OrchestratorConfig) (env : QueryEnvironment) (call : QueryCall)
variable (start : CallState)

abbrev openedSession : SessionState := (start.opened call.sessionId).session

def resumedQuery : String :=
  (truthyText (openedSession call start).pendingQuery).getD call.query

def resumedRequest (answer : String) : ResolveRequest :=
  resolveRequest orch (resumedQuery call start) (openedSession call start).pendingTerms answer

def answeredState (answer : String) : CallState :=
  (start.opened call.sessionId).log
    (.resolveRequested .roundTrip (resumedRequest orch call start answer))

def answerLearned (answer : String) (resolved : ResolvedTerms) : CallState :=
  learned orch env.clarification .roundTrip 0 resolved.resolutions
    (answeredState orch call start answer)

/-- The answer to a pending question arrives and the clarifier resolves it. -/
structure ResolvesAnswer (answer : String) (resolved : ResolvedTerms) : Prop where
  pending : (openedSession call start).state = .awaitingClarification
  answered : truthyText call.clarificationAnswer = some answer
  resolves : env.clarification.resolveAnswer .roundTrip
    (resumedRequest orch call start answer) = .ok resolved

inductive Begins : Opening → Prop
  | notPending
      (free : (openedSession call start).state ≠ .awaitingClarification) :
      Begins (.detects call.query (start.opened call.sessionId))
  | resolveFailed (answer : String) (error : PyError)
      (pending : (openedSession call start).state = .awaitingClarification)
      (answered : truthyText call.clarificationAnswer = some answer)
      (failed : env.clarification.resolveAnswer .roundTrip
        (resumedRequest orch call start answer) = .error error) :
      Begins (.raises error (answeredState orch call start answer))
  | learnFailed (answer : String) (resolved : ResolvedTerms) (error : PyError)
      (resolves : ResolvesAnswer orch env call start answer resolved)
      (fault : learnFault env.clarification .roundTrip 0 resolved.resolutions = some error) :
      Begins (.raises error (answerLearned orch env call start answer resolved))
  | resumed (answer : String) (resolved : ResolvedTerms)
      (resolves : ResolvesAnswer orch env call start answer resolved)
      (written : learnFault env.clarification .roundTrip 0 resolved.resolutions = none) :
      Begins (.detects (resumedQuery call start)
        ((answerLearned orch env call start answer resolved).moved .resolved))
  | reissued (question : String)
      (pending : (openedSession call start).state = .awaitingClarification)
      (silent : truthyText call.clarificationAnswer = none)
      (repeats : repeatsQuestion call (openedSession call start) = some question) :
      Begins (.reissues question (start.opened call.sessionId).save)
  | abandoned
      (pending : (openedSession call start).state = .awaitingClarification)
      (silent : truthyText call.clarificationAnswer = none)
      (differs : repeatsQuestion call (openedSession call start) = none) :
      Begins (.detects call.query (start.replaced call.sessionId))

/-- What the rest of the call does after `opening`. -/
def Proceeds
    (returns : QueryResponse → CallState → Prop)
    (raises : PyError → CallState → Prop) : Opening → Prop
  | .detects query st =>
      ∀ ending, Detects orch env query st ending →
        Continues orch env call query returns raises ending
  | .reissues question st => returns (questionResponse call.sessionId question) st
  | .raises error st => raises error st

theorem answer_learned_state
    (answer : String)
    (resolved : ResolvedTerms) :
    (answerLearned orch env call start answer resolved).session.state =
      (openedSession call start).state := by
  rw [answerLearned, learned_session]
  rfl

theorem ensures_open_session
    (sessionId : String)
    (returns : Unit → CallState → Prop)
    (raises : PyError → CallState → Prop) :
    Ensures (openSession sessionId) start returns raises ↔
      returns () (start.opened sessionId) := Iff.rfl

theorem ensures_replace_session
    (sessionId : String)
    (returns : Unit → CallState → Prop)
    (raises : PyError → CallState → Prop) :
    Ensures (replaceSession sessionId) start returns raises ↔
      returns () (start.replaced sessionId) := Iff.rfl

theorem ensures_resume_with_answer
    (answer : String)
    (returns : QueryResponse → CallState → Prop)
    (raises : PyError → CallState → Prop)
    (pending : (openedSession call start).state = .awaitingClarification) :
    let request := resumedRequest orch call start answer
    let reach := fun resolved => answerLearned orch env call start answer resolved
    Ensures (resumeWithAnswer orch env call (openedSession call start) answer)
      (start.opened call.sessionId) returns raises ↔
      (∀ error, env.clarification.resolveAnswer .roundTrip request = .error error →
        raises error (answeredState orch call start answer)) ∧
      (∀ resolved, env.clarification.resolveAnswer .roundTrip request = .ok resolved →
        (∀ error, learnFault env.clarification .roundTrip 0 resolved.resolutions = some error →
          raises error (reach resolved)) ∧
        (learnFault env.clarification .roundTrip 0 resolved.resolutions = none →
          Proceeds orch env call returns raises
            (.detects (resumedQuery call start) ((reach resolved).moved .resolved)))) := by
  intro request reach
  have allowed : ∀ resolved, (reach resolved).session.state ≠ .resolved := by
    intro resolved same
    rw [answer_learned_state, pending] at same
    exact absurd same (by decide)
  simp only [resumeWithAnswer, ensures_bind, ensures_resolve_and_learn, ensures_transition,
    ClarificationState.resolved_allowed_iff]
  refine and_congr Iff.rfl (forall_congr' fun resolved => imp_congr_right fun _ => ?_)
  rw [and_comm]
  refine and_congr Iff.rfl (imp_congr_right fun _ => ?_)
  change (((reach resolved).session.state ≠ .resolved → _) ∧
    (¬(reach resolved).session.state ≠ .resolved → _)) ↔ _
  simp only [allowed resolved, ne_eq, not_false_eq_true, true_imp_iff, not_true_eq_false,
    false_imp_iff, and_true]
  exact ensures_detect_and_dispatch orch env call _ _ returns raises

/-- The rule for the whole call. -/
theorem ensures_handle_query
    (returns : QueryResponse → CallState → Prop)
    (raises : PyError → CallState → Prop) :
    Ensures (handleQuery orch env call) start returns raises ↔
      ∀ opening, Begins orch env call start opening →
        Proceeds orch env call returns raises opening := by
  simp only [handleQuery, ensures_bind, ensures_open_session, ensures_get]
  by_cases pending : (openedSession call start).state = .awaitingClarification
  · rw [if_pos pending]
    cases answered : truthyText call.clarificationAnswer with
    | some answer =>
        refine Iff.trans
          (ensures_resume_with_answer orch env call start answer returns raises pending) ?_
        constructor
        · rintro ⟨failing, working⟩ opening path
          cases path with
          | notPending free => exact absurd pending free
          | resolveFailed text error _ given failed =>
              obtain rfl : answer = text := Option.some.inj (answered.symm.trans given)
              exact failing error failed
          | learnFailed text resolved error resolves fault =>
              obtain rfl : answer = text := Option.some.inj (answered.symm.trans resolves.answered)
              exact (working resolved resolves.resolves).1 error fault
          | resumed text resolved resolves written =>
              obtain rfl : answer = text := Option.some.inj (answered.symm.trans resolves.answered)
              exact (working resolved resolves.resolves).2 written
          | reissued question _ silent _ => simp [answered] at silent
          | abandoned _ silent _ => simp [answered] at silent
        · intro paths
          refine ⟨fun error failed => paths _ (.resolveFailed answer error pending answered failed),
            fun resolved resolves => ?_⟩
          have done : ResolvesAnswer orch env call start answer resolved :=
            ⟨pending, answered, resolves⟩
          exact ⟨fun error fault => paths _ (.learnFailed answer resolved error done fault),
            fun written => paths _ (.resumed answer resolved done written)⟩
    | none =>
        simp only
        cases repeats : repeatsQuestion call (openedSession call start) with
        | some question =>
            simp only [ensures_bind, ensures_save_session, ensures_pure]
            constructor
            · intro reissued opening path
              cases path with
              | notPending free => exact absurd pending free
              | resolveFailed text error _ given failed => simp [answered] at given
              | learnFailed text resolved error resolves _ =>
                  exact absurd (answered.symm.trans resolves.answered) (by simp)
              | resumed text resolved resolves _ =>
                  exact absurd (answered.symm.trans resolves.answered) (by simp)
              | reissued other _ _ again =>
                  obtain rfl : question = other := Option.some.inj (repeats.symm.trans again)
                  exact reissued
              | abandoned _ _ differs => simp [repeats] at differs
            · exact fun paths => paths _ (.reissued question pending answered repeats)
        | none =>
            simp only [ensures_bind, ensures_replace_session, replaced_opened,
              ensures_detect_and_dispatch]
            constructor
            · intro abandoned opening path
              cases path with
              | notPending free => exact absurd pending free
              | resolveFailed text error _ given failed => simp [answered] at given
              | learnFailed text resolved error resolves _ =>
                  exact absurd (answered.symm.trans resolves.answered) (by simp)
              | resumed text resolved resolves _ =>
                  exact absurd (answered.symm.trans resolves.answered) (by simp)
              | reissued other _ _ again => simp [repeats] at again
              | abandoned _ _ _ => exact abandoned
            · exact fun paths => paths _ (.abandoned pending answered repeats)
  · rw [if_neg pending, ensures_detect_and_dispatch]
    constructor
    · intro detected opening path
      cases path with
      | notPending _ => exact detected
      | resolveFailed _ _ waits _ _ => exact absurd waits pending
      | learnFailed _ _ _ resolves _ => exact absurd resolves.pending pending
      | resumed _ _ resolves _ => exact absurd resolves.pending pending
      | reissued _ waits _ _ => exact absurd waits pending
      | abandoned waits _ _ => exact absurd waits pending
    · exact fun paths => paths _ (.notPending pending)

end Beginning

end AtlasMindNetra.Orchestrator
