import AtlasMindNetra.BriefingCourse

/-!
# Interrupted and uninterrupted briefings

A briefing that is interrupted by questions files the same results as one that
is not. Its list of errors, however, is rebuilt in every call, so the errors of
topics that were completed before the last question do not reach the report.
-/

namespace AtlasMindNetra.BriefingOrchestrator

open AtlasMindNetra.PythonValues AtlasMindNetra.ResponseModels AtlasMindNetra.EffectRules
open AtlasMindNetra.RunRules AtlasMindNetra.WorkListRules
open AtlasMindNetra.Orchestrator (QueryCall sessionSlug)

set_option autoImplicit false

/-- The report depends on the call by its session and its refresh flag only, and
on the pending state by its agenda and topics. -/
theorem conclude_briefing_same
    (settings : BriefingSettings)
    (env : PipelineSide)
    (call other : BriefingCall)
    (pending resumed : BriefingPendingState)
    (completed : OrderedDict String QueryResponse)
    (errors : List String)
    (session : other.sessionId = call.sessionId)
    (refresh : other.forceRefresh = call.forceRefresh)
    (topics : resumed.topics = pending.topics)
    (agenda : resumed.agendaText = pending.agendaText) :
    concludeBriefing settings env other resumed completed errors =
      concludeBriefing settings env call pending completed errors := by
  simp only [concludeBriefing, session, refresh, topics, agenda]

theorem conclude_briefing_errors
    (settings : BriefingSettings)
    (env : PipelineSide)
    (call : BriefingCall)
    (pending : BriefingPendingState)
    (completed : OrderedDict String QueryResponse)
    (errors : List String)
    (response : BriefingResponse)
    (concluded : concludeBriefing settings env call pending completed errors = .ok response) :
    ∃ reported, response.errors = errors ++ reported ∧
      ∀ others, concludeBriefing settings env call pending completed others =
        .ok { response with errors := others ++ reported } := by
  obtain ⟨sections, added, content, path, failures, built, reported, delivered, rfl⟩ :=
    conclude_briefing_ok_iff.mp concluded
  refine ⟨added ++ failures, List.append_assoc _ _ _, ?_⟩
  intro others
  rw [← List.append_assoc]
  exact conclude_briefing_ok_iff.mpr
    ⟨sections, added, content, path, failures, built, reported, delivered, rfl⟩

def finalEntries (finals : AgendaTopic → QueryResponse) (topics : List AgendaTopic) :
    List (AgendaTopic × QueryResponse) :=
  topics.map fun topic => (topic, finals topic)

def ReturnsFinals (finals : AgendaTopic → QueryResponse) (queries : List TopicQuery) : Prop :=
  ∀ query ∈ queries, ∀ result, query.completed? = some result → result = finals query.topic

theorem completions_finals
    (finals : AgendaTopic → QueryResponse)
    (queries : List TopicQuery)
    (returns : ReturnsFinals finals queries)
    (topics : List AgendaTopic)
    (completed : (topicCompletions queries).map Prod.fst = topics) :
    topicCompletions queries = finalEntries finals topics := by
  rw [← completed, finalEntries, List.map_map]
  calc
    topicCompletions queries = (topicCompletions queries).map id := (List.map_id _).symm
    _ = _ := by
      apply List.map_congr_left
      intro entry member
      rcases (mem_completions _ _ queries entry).mp member with ⟨query, asked, about, done⟩
      have final := returns query asked entry.2 done
      rw [about] at final
      exact Prod.ext rfl final

theorem query_errors_completions
    (queries : List TopicQuery) :
    queries.flatMap queryErrors =
      (topicCompletions queries).flatMap fun entry => topicErrors entry.1 entry.2 := by
  induction queries with
  | nil => rfl
  | cons query rest ih =>
      rw [List.flatMap_cons, ih, queryErrors]
      cases done : query.completed? with
      | none => simp [topicCompletions, completions, done]
      | some result => simp [topicCompletions, completions, done]

def finalTable (finals : AgendaTopic → QueryResponse) (topics : List AgendaTopic) :
    OrderedDict String QueryResponse :=
  (finalEntries finals topics).foldl (fun table entry => table.set entry.1.topicId entry.2) ∅

def finalErrors (finals : AgendaTopic → QueryResponse) (topics : List AgendaTopic) :
    List String :=
  topics.flatMap fun topic => topicErrors topic (finals topic)

theorem final_errors_nil_iff
    (finals : AgendaTopic → QueryResponse)
    (topics : List AgendaTopic) :
    finalErrors finals topics = [] ↔ ∀ topic ∈ topics, (finals topic).errors = [] := by
  simp only [finalErrors, topicErrors, List.flatMap_eq_nil_iff, List.map_eq_nil_iff]

theorem final_errors_drop_iff
    (finals : AgendaTopic → QueryResponse)
    (topics : List AgendaTopic)
    (index : Nat)
    (reported : List String) :
    finalErrors finals topics ++ reported = finalErrors finals (topics.drop index) ++ reported ↔
      ∀ topic ∈ topics.take index, (finals topic).errors = [] := by
  have parts : finalErrors finals topics =
      finalErrors finals (topics.take index) ++ finalErrors finals (topics.drop index) := by
    rw [finalErrors, finalErrors, finalErrors, ← List.flatMap_append, List.take_append_drop]
  rw [List.append_left_inj, parts, List.append_left_eq_self, final_errors_nil_iff]

section Interruption

variable {Handler Env Plain PlainEnv : Type}
variable (handle : Handler → QueryCall → Option ElicitFn → Env →
  Handler × Except PyError QueryResponse)
variable (plainHandle : Plain → QueryCall → Option ElicitFn → PlainEnv →
  Plain × Except PyError QueryResponse)
variable (settings : BriefingSettings)
variable (sessionId agenda : String) (topics : List AgendaTopic)
variable (finals : AgendaTopic → QueryResponse)

def finalOutcome (call : BriefingCall) (pipeline : PipelineSide) (errors : List String) :
    Except PyError BriefingResponse :=
  if topics = [] then .ok (emptyResponse call)
  else concludeBriefing settings pipeline call (pendingAt sessionId agenda topics 0 ∅)
    (finalTable finals topics) errors

def resumesAt (world : BriefingWorld Handler) : Nat :=
  ((world.pendings.get? sessionId).map BriefingPendingState.currentTopicIdx).getD 0

theorem resumes_at_stands
    (world : BriefingWorld Handler)
    (index : Nat)
    (completed : OrderedDict String QueryResponse)
    (stands : StandsAt sessionId agenda topics world index completed) :
    resumesAt sessionId world = index := by
  cases stands with
  | fresh none => rw [resumesAt, none, Option.map_none, Option.getD_none]
  | stored _ _ found inside =>
      rw [resumesAt, found, Option.map_some, Option.getD_some]
      rfl

/-- Once all topics are complete, the results and errors are those of the finals. -/
theorem final_results
    (world : BriefingWorld Handler)
    (past : List BriefingRecord)
    (index : Nat)
    (soFar : CourseSoFar sessionId agenda topics world past index)
    (queried : List TopicQuery)
    (segment : Segment sessionId topics index queried topics.length)
    (returns : ReturnsFinals finals (queriesOf past ++ queried)) :
    recordResults (recordResults ∅ (queriesOf past)) queried = finalTable finals topics ∧
      queried.flatMap queryErrors = finalErrors finals (topics.drop index) := by
  have all := progress_completions (segment.advances _ soFar.progress)
  rw [List.take_length] at all
  constructor
  · rw [← record_results_append, record_results_completions,
      completions_finals finals _ returns topics all]
    rfl
  · have before := progress_completions soFar.progress
    have now : (topicCompletions queried).map Prod.fst = topics.drop index := by
      rw [completions_append, List.map_append, before] at all
      have split := List.take_append_drop index topics
      exact List.append_cancel_left (all.trans split.symm)
    have mine : ReturnsFinals finals queried := by
      intro query member
      exact returns query (List.mem_append_right _ member)
    rw [query_errors_completions, completions_finals finals queried mine _ now, finalErrors,
      finalEntries, List.flatMap_map]

theorem course_outcome
    (world : BriefingWorld Handler)
    (past : List BriefingRecord)
    (index : Nat)
    (soFar : CourseSoFar sessionId agenda topics world past index)
    (last : BriefingCall × BriefingEnvironment Env)
    (one : OneBriefing sessionId agenda topics world last)
    (returns : ReturnsFinals finals
      (queriesOf past ++ (courseStep handle settings world last).2.queried)) :
    (courseStep handle settings world last).2.outcome =
        finalOutcome settings sessionId agenda topics finals last.1 last.2.pipeline
          (finalErrors finals (topics.drop index)) ∨
      AsksUser (courseStep handle settings world last).2 ∧
        (∃ query ∈ (courseStep handle settings world last).2.queried, query.completed? = none) ∨
      ∃ query ∈ (courseStep handle settings world last).2.queried, ∃ error,
        query.outcome = .error error ∧
          (courseStep handle settings world last).2.outcome = .error error := by
  have course := call_course handle settings sessionId agenda topics world index _ soFar.stands
    last one
  generalize (courseStep handle settings world last).1 = next at course
  generalize (courseStep handle settings world last).2 = record at course returns ⊢
  cases course with
  | raised error queried failed =>
      rcases failed with ⟨query, member, failed⟩
      right
      right
      exact ⟨query, member, error, failed, rfl⟩
  | asked queried reached topic question segment current stands asks =>
      rcases asks with ⟨query, member, result, answered, asks⟩
      right
      left
      constructor
      · exact ⟨_, rfl, rfl⟩
      · exact ⟨query, member, unfinished_of_question query result answered asks⟩
  | noTopics empty =>
      left
      exact (if_pos empty).symm
  | concluded queried some segment =>
      left
      obtain ⟨table, errors⟩ := final_results sessionId agenda topics finals world past index soFar
        queried segment returns
      rw [finalOutcome, if_neg some, table, errors]
      apply conclude_briefing_same
      · rfl
      · rfl
      · rfl
      · rfl

/-- A call that makes the whole briefing: it starts without a pending state and
every topic returns its final result at once. -/
structure Uninterrupted (world : BriefingWorld Plain)
    (input : BriefingCall × BriefingEnvironment PlainEnv) : Prop where
  fresh : world.pendings.get? sessionId = none
  one : OneBriefing sessionId agenda topics world input
  answered : ∀ query ∈ (courseStep plainHandle settings world input).2.queried,
    query.outcome = .ok (finals query.topic)

theorem uninterrupted_outcome
    (silent : ∀ topic, (finals topic).requiresUserInput = false)
    (world : BriefingWorld Plain)
    (input : BriefingCall × BriefingEnvironment PlainEnv)
    (plain : Uninterrupted plainHandle settings sessionId agenda topics finals world input) :
    (courseStep plainHandle settings world input).2.outcome =
      finalOutcome settings sessionId agenda topics finals input.1 input.2.pipeline
        (finalErrors finals topics) := by
  have finished : ∀ query ∈ (courseStep plainHandle settings world input).2.queried,
      query.completed? = some (finals query.topic) := by
    intro query member
    exact completed_of_outcome query _ (plain.answered query member) (silent query.topic)
  have start := course_start sessionId agenda topics world plain.fresh
  have returns : ReturnsFinals finals
      (queriesOf [] ++ (courseStep plainHandle settings world input).2.queried) := by
    intro query member result done
    rw [finished query member] at done
    exact (Option.some.inj done).symm
  rcases course_outcome plainHandle settings sessionId agenda topics finals world [] 0 start input
    plain.one returns with
    concluded | ⟨_, query, member, unfinished⟩ | ⟨query, member, error, failed, _⟩
  · exact concluded
  · rw [finished query member] at unfinished
    cases unfinished
  · rw [plain.answered query member] at failed
    cases failed

/-- The two reports agree in their sections and top-level errors. -/
def EndsAlike (first second : BriefingResponse) : Prop :=
  first.sections = second.sections ∧ first.errors = second.errors

/-- One report of the same results follows from the other; the errors that the
topics have added are all they can differ in. -/
theorem final_outcomes_alike_iff
    (call other : BriefingCall)
    (session : other.sessionId = call.sessionId)
    (refresh : other.forceRefresh = call.forceRefresh)
    (pipeline : PipelineSide)
    (index : Nat)
    (response : BriefingResponse)
    (concluded : finalOutcome settings sessionId agenda topics finals call pipeline
      (finalErrors finals (topics.drop index)) = .ok response) :
    ∃ uninterrupted,
      finalOutcome settings sessionId agenda topics finals other pipeline
        (finalErrors finals topics) = .ok uninterrupted ∧
      uninterrupted.sections = response.sections ∧
      (EndsAlike uninterrupted response ↔
        ∀ topic ∈ topics.take index, (finals topic).errors = []) := by
  by_cases empty : topics = []
  · rw [finalOutcome, if_pos empty] at concluded
    rw [finalOutcome, if_pos empty, empty]
    cases concluded
    refine ⟨emptyResponse other, rfl, rfl, iff_of_true ⟨rfl, rfl⟩ ?_⟩
    rw [List.take_nil]
    intro topic member
    cases member
  · rw [finalOutcome, if_neg empty] at concluded
    rw [finalOutcome, if_neg empty, conclude_briefing_same settings pipeline call other
      (pendingAt sessionId agenda topics 0 ∅) _ _ _ session refresh rfl rfl]
    obtain ⟨reported, listed, others⟩ := conclude_briefing_errors settings pipeline call _ _ _
      response concluded
    refine ⟨_, others (finalErrors finals topics), rfl, ?_⟩
    rw [← final_errors_drop_iff finals topics index reported, ← listed]
    constructor
    · intro alike
      exact alike.2
    · intro same
      exact ⟨rfl, same⟩

/-- No topic that was completed before the last question has errors. -/
def NoErrorsBefore (world : BriefingWorld Handler) : Prop :=
  ∀ topic ∈ topics.take (resumesAt sessionId world), (finals topic).errors = []

/-- An interrupted briefing has the sections of the uninterrupted one, and its
errors exactly if the topics before the last question have none. -/
theorem interrupted_ends_alike_iff
    (silent : ∀ topic, (finals topic).requiresUserInput = false)
    (world : BriefingWorld Handler)
    (fresh : world.pendings.get? sessionId = none)
    (earlier : List (BriefingCall × BriefingEnvironment Env))
    (last : BriefingCall × BriefingEnvironment Env)
    (one : EveryStep (courseStep handle settings) (OneBriefing sessionId agenda topics) world
      (earlier ++ [last]))
    (asked : ∀ record ∈ (run (courseStep handle settings) world earlier).2, AsksUser record)
    (response : BriefingResponse)
    (returned : (courseStep handle settings
      (run (courseStep handle settings) world earlier).1 last).2.outcome = .ok response)
    (final : response.requiresUserInput = false)
    (returns : ReturnsFinals finals
      (queriesOf (run (courseStep handle settings) world (earlier ++ [last])).2))
    (plainWorld : BriefingWorld Plain)
    (plainInput : BriefingCall × BriefingEnvironment PlainEnv)
    (plain : Uninterrupted plainHandle settings sessionId agenda topics finals plainWorld
      plainInput)
    (pipeline : plainInput.2.pipeline = last.2.pipeline)
    (refresh : plainInput.1.forceRefresh = last.1.forceRefresh) :
    ∃ uninterrupted,
      (courseStep plainHandle settings plainWorld plainInput).2.outcome = .ok uninterrupted ∧
      uninterrupted.sections = response.sections ∧
      (EndsAlike uninterrupted response ↔
        NoErrorsBefore sessionId topics finals
          (run (courseStep handle settings) world earlier).1) := by
  rcases every_step_append world earlier last one with ⟨front, back⟩
  obtain ⟨index, soFar⟩ := course_run handle settings sessionId agenda topics world fresh earlier
    front asked
  rw [run_snoc, queries_of_snoc] at returns
  rw [uninterrupted_outcome plainHandle settings sessionId agenda topics finals silent plainWorld
    plainInput plain, NoErrorsBefore, resumes_at_stands sessionId agenda topics _ index _
    soFar.stands, pipeline]
  rcases course_outcome handle settings sessionId agenda topics finals _ _ index soFar last back
    returns with concluded | ⟨⟨question, again, asks⟩, _⟩ | ⟨_, _, error, _, raised⟩
  · have session := plain.one.session.trans back.session.symm
    rw [returned] at concluded
    exact final_outcomes_alike_iff settings sessionId agenda topics finals last.1 plainInput.1
      session refresh last.2.pipeline index response concluded.symm
  · rw [returned] at again
    cases again
    rw [final] at asks
    cases asks
  · rw [returned] at raised
    cases raised

end Interruption

def partialResults (topic : AgendaTopic) : QueryResponse :=
  partialFinals (topicCall {} sampleBriefing topic none)

def plainCall : BriefingCall × BriefingEnvironment (QueryCall → Except PyError QueryResponse) :=
  (sampleBriefing, scriptedEnvironment fun call => .ok (partialFinals call))

theorem partial_results_silent (topic : AgendaTopic) :
    (partialResults topic).requiresUserInput = false := by
  unfold partialResults partialFinals
  split_ifs <;> rfl

theorem answered_course_returns_finals :
    ReturnsFinals partialResults (queriesOf (run (courseStep scriptedHandle {}) { handler := () }
      ([questionCall] ++ [answerCall])).2) := by
  have results : ∀ query ∈ queriesOf (run (courseStep scriptedHandle {}) { handler := () }
      ([questionCall] ++ [answerCall])).2,
      query.completed? = none ∨ query.completed? = some (partialResults query.topic) := by
    decide +kernel
  intro query member result done
  rcases results query member with unfinished | finished
  · rw [unfinished] at done
    cases done
  · exact Option.some.inj (done.symm.trans finished)

theorem plain_call_uninterrupted :
    Uninterrupted scriptedHandle {} "s" "daily" [firstTopic, secondTopic] partialResults
      { handler := () } plainCall := by
  constructor
  · rfl
  · exact ⟨rfl, fun _ => ⟨rfl, rfl⟩⟩
  · decide +kernel

theorem answered_course_ends_alike_iff :
    ∃ response uninterrupted,
      (courseStep scriptedHandle {} { handler := () } plainCall).2.outcome = .ok uninterrupted ∧
      uninterrupted.sections = response.sections ∧
      (EndsAlike uninterrupted response ↔
        NoErrorsBefore "s" [firstTopic, secondTopic] partialResults
          (run (courseStep scriptedHandle {}) { handler := () } [questionCall]).1) :=
  ⟨_, interrupted_ends_alike_iff scriptedHandle scriptedHandle {} "s" "daily"
    [firstTopic, secondTopic] partialResults partial_results_silent { handler := () } rfl
    [questionCall] answerCall answered_course_one_briefing question_call_asks _ rfl rfl
    answered_course_returns_finals { handler := () } plainCall plain_call_uninterrupted rfl rfl⟩

/-- The first topic's error is in the uninterrupted report and not in the interrupted one. -/
theorem first_topic_error_lost :
    EveryStep (courseStep scriptedHandle {}) (OneBriefing "s" "daily" [firstTopic, secondTopic])
      { handler := () } ([questionCall] ++ [answerCall]) ∧
    (∀ record ∈ (run (courseStep scriptedHandle {}) { handler := () } [questionCall]).2,
      AsksUser record) ∧
    ReturnsFinals partialResults (queriesOf (run (courseStep scriptedHandle {}) { handler := () }
      ([questionCall] ++ [answerCall])).2) ∧
    Uninterrupted scriptedHandle {} "s" "daily" [firstTopic, secondTopic] partialResults
      { handler := () } plainCall ∧
    ∃ response uninterrupted,
      (courseStep scriptedHandle {} (run (courseStep scriptedHandle {}) { handler := () }
        [questionCall]).1 answerCall).2.outcome = .ok response ∧
      (courseStep scriptedHandle {} { handler := () } plainCall).2.outcome = .ok uninterrupted ∧
      response.errors = [] ∧
      uninterrupted.errors = ["[topic_1] only the first page was read"] ∧
      ¬EndsAlike uninterrupted response := by
  refine ⟨answered_course_one_briefing, question_call_asks, answered_course_returns_finals,
    plain_call_uninterrupted, _, _, rfl, rfl, rfl, rfl, ?_⟩
  intro alike
  cases alike.2

end AtlasMindNetra.BriefingOrchestrator
