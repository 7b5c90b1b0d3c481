import AtlasMindNetra.BriefingOrchestrator

/-!
# What one call of the briefing can do

The topic loop asks about a run of topics in agenda order. All of them but the
last complete; the last one completes too, or asks, or raises. `LoopTrace`
records that run together with what the loop has stored by then, and the
theorems below lift it to a whole call.
-/

namespace AtlasMindNetra.BriefingOrchestrator

open AtlasMindNetra.PythonValues AtlasMindNetra.ResponseModels AtlasMindNetra.EffectRules
open AtlasMindNetra.Orchestrator (QueryCall sessionSlug)

set_option autoImplicit false

def TopicQuery.completed? (query : TopicQuery) : Option QueryResponse :=
  match query.outcome with
  | .ok result => if result.requiresUserInput then none else some result
  | .error _ => none

def recordResults (completed : OrderedDict String QueryResponse) (queries : List TopicQuery) :
    OrderedDict String QueryResponse :=
  queries.foldl (fun completed query =>
    match query.completed? with
    | some result => completed.set query.topic.topicId result
    | none => completed) completed

def queryErrors (query : TopicQuery) : List String :=
  match query.completed? with
  | some result => topicErrors query.topic result
  | none => []

theorem record_results_cons
    (completed : OrderedDict String QueryResponse)
    (query : TopicQuery)
    (result : QueryResponse)
    (rest : List TopicQuery)
    (done : query.completed? = some result) :
    recordResults completed (query :: rest) =
      recordResults (completed.set query.topic.topicId result) rest := by
  rw [recordResults, List.foldl_cons, done]
  rfl

theorem completed_of_outcome
    (query : TopicQuery)
    (result : QueryResponse)
    (answered : query.outcome = .ok result)
    (silent : result.requiresUserInput = false) : query.completed? = some result := by
  rw [TopicQuery.completed?, answered]
  simp [silent]

/-- Sections are built of the details and the analyses of the keys that the cap keeps. -/
theorem build_sections_ok_iff
    {settings : BriefingSettings}
    {env : PipelineSide}
    {topics : List AgendaTopic}
    {completed : OrderedDict String QueryResponse}
    {refs : ConfluenceRefs}
    {forceRefresh : Bool}
    {sections : List BriefingSection}
    {errors : List String} :
    buildSections settings env topics completed refs forceRefresh = .ok (sections, errors) ↔
      ∃ details analyses,
        fetchDetails settings env
            ((distinctKeys completed topics).take settings.maxAnalysedIssues) = .ok details ∧
        analyseIssues env
            { details := details.1
              keys := (distinctKeys completed topics).take settings.maxAnalysedIssues
              summaries := nonEmptyDict (issueSummaries completed topics)
              confluenceRefs := nonEmptyDict refs
              forceRefresh := forceRefresh } = .ok analyses ∧
        topics.mapM (buildSection settings env completed (keysByTopic completed topics)
            (droppedPerTopic settings.maxAnalysedIssues (distinctKeys completed topics)
              (keysByTopic completed topics)) (analysisMap analyses.1)) = .ok sections ∧
        skippedTopicErrors settings.maxAnalysedIssues (distinctKeys completed topics)
            (keysByTopic completed topics) ++ details.2 ++ analyses.2 = errors := by
  constructor
  · intro built
    rw [buildSections, bind_eq_ok] at built
    obtain ⟨details, fetched, built⟩ := built
    rw [bind_eq_ok] at built
    obtain ⟨analyses, analysed, built⟩ := built
    rw [bind_eq_ok] at built
    obtain ⟨briefed, looped, same⟩ := built
    cases same
    exact ⟨details, analyses, fetched, analysed, looped, rfl⟩
  · intro parts
    obtain ⟨details, analyses, fetched, analysed, looped, rfl⟩ := parts
    rw [buildSections, bind_eq_ok]
    refine ⟨details, fetched, ?_⟩
    rw [bind_eq_ok]
    refine ⟨analyses, analysed, ?_⟩
    rw [bind_eq_ok]
    exact ⟨sections, looped, rfl⟩

/-- A briefing comes to its report through the sections, their text and the delivery. -/
theorem conclude_briefing_ok_iff
    {settings : BriefingSettings}
    {env : PipelineSide}
    {call : BriefingCall}
    {pending : BriefingPendingState}
    {completed : OrderedDict String QueryResponse}
    {errors : List String}
    {response : BriefingResponse} :
    concludeBriefing settings env call pending completed errors = .ok response ↔
      ∃ sections added content path failures,
        buildSections settings env pending.topics completed
            (confluenceRefs env pending.topics completed call.forceRefresh) call.forceRefresh =
          .ok (sections, added) ∧
        env.buildBriefingReport pending.agendaText sections call.sessionId = .ok content ∧
        deliverBriefing settings env (makeReportId env call.sessionId) content sections =
          .ok (path, failures) ∧
        { reportId := makeReportId env call.sessionId
          sessionId := call.sessionId
          sections := sections
          reportPath := path
          viewUrl := briefingViewUrl settings (makeReportId env call.sessionId)
          errors := errors ++ added ++ failures } = response := by
  constructor
  · intro concluded
    rw [concludeBriefing, bind_eq_ok] at concluded
    obtain ⟨⟨sections, added⟩, built, concluded⟩ := concluded
    rw [bind_eq_ok] at concluded
    obtain ⟨content, reported, concluded⟩ := concluded
    rw [bind_eq_ok] at concluded
    obtain ⟨⟨path, failures⟩, delivered, same⟩ := concluded
    exact ⟨sections, added, content, path, failures, built, reported, delivered,
      Except.ok.inj same⟩
  · intro parts
    obtain ⟨sections, added, content, path, failures, built, reported, delivered, same⟩ := parts
    rw [concludeBriefing, bind_eq_ok]
    refine ⟨(sections, added), built, ?_⟩
    rw [bind_eq_ok]
    refine ⟨content, reported, ?_⟩
    rw [bind_eq_ok]
    exact ⟨(path, failures), delivered, congrArg Except.ok same⟩

section Rules

variable {Handler Env : Type}
variable (handle : Handler → QueryCall → Option ElicitFn → Env →
  Handler × Except PyError QueryResponse)
variable (settings : BriefingSettings) (env : BriefingEnvironment Env) (call : BriefingCall)

/-- The query that the loop makes about `topic`. -/
def topicQuery (st : BriefingState Handler) (index : Nat) (topic : AgendaTopic)
    (answer : Option String) : TopicQuery where
  index := index
  topic := topic
  call := topicCall settings call topic answer
  outcome := (handle st.handler (topicCall settings call topic answer) call.elicit
    (env.handlerSide index)).2

def BriefingState.asked (st : BriefingState Handler) (index : Nat) (topic : AgendaTopic)
    (answer : Option String) : BriefingState Handler :=
  { st with
    handler := (handle st.handler (topicCall settings call topic answer) call.elicit
      (env.handlerSide index)).1
    queried := st.queried ++ [topicQuery handle settings env call st index topic answer] }

def BriefingState.complete (st : BriefingState Handler) (topic : AgendaTopic)
    (result : QueryResponse) : BriefingState Handler :=
  { st with
    completed := st.completed.set topic.topicId result
    errors := st.errors ++ topicErrors topic result }

/-- The answer is for the topic whose question is pending. -/
def forwardedAnswer (pending : BriefingPendingState) (index : Nat) : Option String :=
  if index = pending.currentTopicIdx then call.clarificationAnswer else none

/-- The state stored with a question of topic number `index`. -/
def BriefingPendingState.stoppedAt (pending : BriefingPendingState) (index : Nat)
    (completed : OrderedDict String QueryResponse) : BriefingPendingState :=
  { pending with currentTopicIdx := index, completedResults := completed }

theorem ensures_ask_handler
    (index : Nat)
    (topic : AgendaTopic)
    (answer : Option String)
    (start : BriefingState Handler)
    (returns : QueryResponse → BriefingState Handler → Prop)
    (raises : PyError → BriefingState Handler → Prop) :
    Ensures (askHandler handle settings env call index topic answer) start returns raises ↔
      (∀ result, (topicQuery handle settings env call start index topic answer).outcome =
        .ok result → returns result (start.asked handle settings env call index topic answer)) ∧
      (∀ error, (topicQuery handle settings env call start index topic answer).outcome =
        .error error → raises error (start.asked handle settings env call index topic answer)) := by
  simp only [askHandler, ensures_bind, ensures_get, ensures_modify, ensures_fromOutcome]
  exact Iff.rfl

/-- One step of the loop: the topic is asked about; then the loop raises,
stops at the question, or completes the topic and goes on. -/
theorem ensures_query_topics_cons
    (pending : BriefingPendingState)
    (index : Nat)
    (topic : AgendaTopic)
    (rest : List AgendaTopic)
    (start : BriefingState Handler)
    (returns : Option BriefingResponse → BriefingState Handler → Prop)
    (raises : PyError → BriefingState Handler → Prop) :
    let query := topicQuery handle settings env call start index topic
      (forwardedAnswer call pending index)
    let asked := start.asked handle settings env call index topic
      (forwardedAnswer call pending index)
    Ensures (queryTopics handle settings env call pending index (topic :: rest)) start
        returns raises ↔
      (∀ error, query.outcome = .error error → raises error asked) ∧
      (∀ result, query.outcome = .ok result →
        (result.requiresUserInput = true →
          returns (some (pendingResponse call topic result.clarificationQuestion))
            { asked with
              pendings := asked.pendings.set pending.sessionId
                (pending.stoppedAt index asked.completed) }) ∧
        (result.requiresUserInput = false →
          Ensures (queryTopics handle settings env call pending (index + 1) rest)
            (asked.complete topic result) returns raises)) := by
  intro query asked
  rw [queryTopics, ensures_bind, ensures_ask_handler, and_comm]
  refine and_congr Iff.rfl (forall_congr' fun result => imp_congr_right fun _ => ?_)
  rw [ensures_ite]
  refine and_congr Iff.rfl ?_
  rw [Bool.not_eq_true]
  exact Iff.rfl

/-- The handler answers the queries one after another, from state to state. -/
inductive Threads : Handler → List TopicQuery → Handler → Prop
  | nil (state : Handler) : Threads state [] state
  | cons (state next last : Handler) (query : TopicQuery) (rest : List TopicQuery)
      (answered : handle state query.call call.elicit (env.handlerSide query.index) =
        (next, query.outcome))
      (later : Threads next rest last) :
      Threads state (query :: rest) last

/-- The completed queries of a run of the loop from topic number `index` on,
and what the loop has gathered from them. -/
structure LoopTrace (pending : BriefingPendingState) (index : Nat) (topics : List AgendaTopic)
    (start final : BriefingState Handler) (queries : List TopicQuery) (reached : Handler) :
    Prop where
  indices : queries.map TopicQuery.index = List.range' index queries.length
  inOrder : queries.map TopicQuery.topic = topics.take queries.length
  complete : ∀ query ∈ queries, ∃ result, query.completed? = some result
  forwards : ∀ query ∈ queries,
    query.call = topicCall settings call query.topic (forwardedAnswer call pending query.index)
  threads : Threads handle env call start.handler queries reached
  completed : final.completed = recordResults start.completed queries
  errors : final.errors = start.errors ++ queries.flatMap queryErrors

/-- The query after the completed ones, about the next topic. -/
structure NextQuery (pending : BriefingPendingState) (index : Nat) (topics : List AgendaTopic)
    (final : BriefingState Handler) (queries : List TopicQuery) (reached : Handler)
    (last : TopicQuery) : Prop where
  position : last.index = index + queries.length
  next : topics[queries.length]? = some last.topic
  forwards : last.call =
    topicCall settings call last.topic (forwardedAnswer call pending last.index)
  answered : handle reached last.call call.elicit (env.handlerSide last.index) =
    (final.handler, last.outcome)

theorem loop_trace_cons
    (pending : BriefingPendingState)
    (index : Nat)
    (topic : AgendaTopic)
    (rest : List AgendaTopic)
    (start final : BriefingState Handler)
    (result : QueryResponse)
    (answered : (topicQuery handle settings env call start index topic
      (forwardedAnswer call pending index)).outcome = .ok result)
    (silent : result.requiresUserInput = false)
    (queries : List TopicQuery)
    (reached : Handler)
    (trace : LoopTrace handle settings env call pending (index + 1) rest
      ((start.asked handle settings env call index topic
        (forwardedAnswer call pending index)).complete topic result) final queries reached) :
    LoopTrace handle settings env call pending index (topic :: rest) start final
      (topicQuery handle settings env call start index topic
        (forwardedAnswer call pending index) :: queries) reached := by
  have done := completed_of_outcome _ result answered silent
  constructor
  · rw [List.map_cons, trace.indices, List.length_cons, List.range'_succ]
    rfl
  · rw [List.map_cons, trace.inOrder, List.length_cons, List.take_succ_cons]
    rfl
  · intro query member
    rcases List.mem_cons.mp member with rfl | later
    · exact ⟨result, done⟩
    · exact trace.complete query later
  · intro query member
    rcases List.mem_cons.mp member with rfl | later
    · rfl
    · exact trace.forwards query later
  · exact Threads.cons start.handler _ reached _ queries rfl trace.threads
  · rw [trace.completed, record_results_cons _ _ _ _ done]
    rfl
  · rw [trace.errors, List.flatMap_cons, ← List.append_assoc, queryErrors, done]
    rfl

theorem next_query_cons
    (pending : BriefingPendingState)
    (index : Nat)
    (topic : AgendaTopic)
    (rest : List AgendaTopic)
    (final : BriefingState Handler)
    (first : TopicQuery)
    (queries : List TopicQuery)
    (reached : Handler)
    (last : TopicQuery)
    (next : NextQuery handle settings env call pending (index + 1) rest final queries reached
      last) :
    NextQuery handle settings env call pending index (topic :: rest) final (first :: queries)
      reached last := by
  constructor
  · rw [next.position, List.length_cons]
    omega
  · rw [List.length_cons, List.getElem?_cons_succ]
    exact next.next
  · exact next.forwards
  · exact next.answered

/-- How the loop can end. -/
inductive LoopEnd (pending : BriefingPendingState) (index : Nat) (topics : List AgendaTopic)
    (start : BriefingState Handler) :
    Except PyError (Option BriefingResponse) → BriefingState Handler → Prop
  | finished (final : BriefingState Handler) (queries : List TopicQuery)
      (trace : LoopTrace handle settings env call pending index topics start final queries
        final.handler)
      (all : queries.length = topics.length)
      (queried : final.queried = start.queried ++ queries)
      (kept : final.pendings = start.pendings) :
      LoopEnd pending index topics start (.ok none) final
  | asks (final : BriefingState Handler) (queries : List TopicQuery) (reached : Handler)
      (last : TopicQuery) (result : QueryResponse)
      (trace : LoopTrace handle settings env call pending index topics start final queries reached)
      (next : NextQuery handle settings env call pending index topics final queries reached last)
      (answered : last.outcome = .ok result)
      (asks : result.requiresUserInput = true)
      (queried : final.queried = start.queried ++ (queries ++ [last]))
      (stored : final.pendings = start.pendings.set pending.sessionId
        (pending.stoppedAt last.index final.completed)) :
      LoopEnd pending index topics start
        (.ok (some (pendingResponse call last.topic result.clarificationQuestion))) final
  | raises (final : BriefingState Handler) (queries : List TopicQuery) (reached : Handler)
      (last : TopicQuery) (error : PyError)
      (trace : LoopTrace handle settings env call pending index topics start final queries reached)
      (next : NextQuery handle settings env call pending index topics final queries reached last)
      (failed : last.outcome = .error error)
      (queried : final.queried = start.queried ++ (queries ++ [last]))
      (kept : final.pendings = start.pendings) :
      LoopEnd pending index topics start (.error error) final

theorem loop_trace_nil
    (pending : BriefingPendingState)
    (index : Nat)
    (topics : List AgendaTopic)
    (start final : BriefingState Handler)
    (completed : final.completed = start.completed)
    (errors : final.errors = start.errors) :
    LoopTrace handle settings env call pending index topics start final [] start.handler := by
  constructor
  · rfl
  · rfl
  · intro query member
    cases member
  · intro query member
    cases member
  · exact Threads.nil start.handler
  · exact completed
  · rw [errors, List.flatMap_nil, List.append_nil]

theorem loop_end_cons
    (pending : BriefingPendingState)
    (index : Nat)
    (topic : AgendaTopic)
    (rest : List AgendaTopic)
    (start : BriefingState Handler)
    (result : QueryResponse)
    (answered : (topicQuery handle settings env call start index topic
      (forwardedAnswer call pending index)).outcome = .ok result)
    (silent : result.requiresUserInput = false)
    (outcome : Except PyError (Option BriefingResponse))
    (final : BriefingState Handler)
    (ended : LoopEnd handle settings env call pending (index + 1) rest
      ((start.asked handle settings env call index topic
        (forwardedAnswer call pending index)).complete topic result) outcome final) :
    LoopEnd handle settings env call pending index (topic :: rest) start outcome final := by
  have longer := fun queries reached trace => loop_trace_cons handle settings env call
    pending index topic rest start final result answered silent queries reached trace
  have later := fun queries reached last next => next_query_cons handle settings env call pending
    index topic rest final (topicQuery handle settings env call start index topic
      (forwardedAnswer call pending index)) queries reached last next
  cases ended with
  | finished _ queries trace all queried kept =>
      apply LoopEnd.finished final _ (longer queries final.handler trace)
      · rw [List.length_cons, List.length_cons, all]
      · rw [queried]
        exact List.append_assoc _ _ _
      · exact kept
  | asks _ queries reached last answer trace next replied asks queried stored =>
      apply LoopEnd.asks final _ reached last answer (longer queries reached trace)
      · exact later queries reached last next
      · exact replied
      · exact asks
      · rw [queried]
        exact List.append_assoc _ _ _
      · exact stored
  | raises _ queries reached last error trace next failed queried kept =>
      apply LoopEnd.raises final _ reached last error (longer queries reached trace)
      · exact later queries reached last next
      · exact failed
      · rw [queried]
        exact List.append_assoc _ _ _
      · exact kept

/-- The loop ends in one of these ways; the induction is on the topics left. -/
theorem query_topics_end
    (pending : BriefingPendingState)
    (index : Nat)
    (topics : List AgendaTopic)
    (start : BriefingState Handler) :
    Ensures (queryTopics handle settings env call pending index topics) start
      (fun answer final => LoopEnd handle settings env call pending index topics start
        (.ok answer) final)
      (fun error final => LoopEnd handle settings env call pending index topics start
        (.error error) final) := by
  induction topics generalizing index start with
  | nil =>
      exact .finished start [] (loop_trace_nil handle settings env call pending index [] start start
        rfl rfl) rfl (List.append_nil _).symm rfl
  | cons topic rest ih =>
      have first : ∀ pendings, NextQuery handle settings env call pending index (topic :: rest)
          { start.asked handle settings env call index topic (forwardedAnswer call pending index)
            with pendings := pendings } [] start.handler
          (topicQuery handle settings env call start index topic
            (forwardedAnswer call pending index)) :=
        fun _ => ⟨rfl, rfl, rfl, rfl⟩
      apply (ensures_query_topics_cons handle settings env call pending index topic rest start
        _ _).mpr
      constructor
      · intro error failed
        apply LoopEnd.raises _ [] start.handler _ error
        · exact loop_trace_nil handle settings env call pending index _ start _ rfl rfl
        · exact first start.pendings
        · exact failed
        · rfl
        · rfl
      · intro result answered
        constructor
        · intro asks
          apply LoopEnd.asks _ [] start.handler (topicQuery handle settings env call start index
            topic (forwardedAnswer call pending index)) result
          · exact loop_trace_nil handle settings env call pending index _ start _ rfl rfl
          · exact first _
          · exact answered
          · exact asks
          · rfl
          · rfl
        · intro silent
          apply ensures_mono (ih (index + 1) ((start.asked handle settings env call index topic
            (forwardedAnswer call pending index)).complete topic result))
          · intro answer final ended
            exact loop_end_cons handle settings env call pending index topic rest start result
              answered silent _ final ended
          · intro error final ended
            exact loop_end_cons handle settings env call pending index topic rest start result
              answered silent _ final ended

/-- The pending state a call works on: the stored one, or a new one for the
topics of the agenda. -/
inductive WorksOn (world : BriefingWorld Handler) : BriefingPendingState → Prop
  | stored (pending : BriefingPendingState)
      (found : world.pendings.get? call.sessionId = some pending) :
      WorksOn world pending
  | opened (topics : List AgendaTopic)
      (fresh : world.pendings.get? call.sessionId = none)
      (decomposed : env.decompose call.agendaText call.projects = .ok topics)
      (some : topics ≠ []) :
      WorksOn world
        { sessionId := call.sessionId, agendaText := call.agendaText, topics := topics }

def loopStart (world : BriefingWorld Handler) (pending : BriefingPendingState) :
    BriefingState Handler :=
  { BriefingState.start world with completed := pending.completedResults }

/-- How a call can end: the next world and the record. -/
inductive BriefingEnd (world : BriefingWorld Handler) :
    BriefingWorld Handler → BriefingRecord → Prop
  | undecomposed (message : String)
      (fresh : world.pendings.get? call.sessionId = none)
      (failed : env.decompose call.agendaText call.projects = .error (.decomposition message)) :
      BriefingEnd world world ⟨.ok (failedResponse call message), []⟩
  | decomposerRaised (error : PyError)
      (fresh : world.pendings.get? call.sessionId = none)
      (failed : env.decompose call.agendaText call.projects = .error error) :
      BriefingEnd world world ⟨.error error, []⟩
  | noTopics
      (fresh : world.pendings.get? call.sessionId = none)
      (decomposed : env.decompose call.agendaText call.projects = .ok []) :
      BriefingEnd world world ⟨.ok (emptyResponse call), []⟩
  | asked (pending : BriefingPendingState) (question : BriefingResponse)
      (final : BriefingState Handler)
      (works : WorksOn env call world pending)
      (ended : LoopEnd handle settings env call pending pending.currentTopicIdx
        (pending.topics.drop pending.currentTopicIdx) (loopStart world pending)
        (.ok (some question)) final) :
      BriefingEnd world final.close ⟨.ok question, final.queried⟩
  | handlerRaised (pending : BriefingPendingState) (error : PyError)
      (final : BriefingState Handler)
      (works : WorksOn env call world pending)
      (ended : LoopEnd handle settings env call pending pending.currentTopicIdx
        (pending.topics.drop pending.currentTopicIdx) (loopStart world pending)
        (.error error) final) :
      BriefingEnd world final.close ⟨.error error, final.queried⟩
  | concluded (pending : BriefingPendingState) (final : BriefingState Handler)
      (works : WorksOn env call world pending)
      (ended : LoopEnd handle settings env call pending pending.currentTopicIdx
        (pending.topics.drop pending.currentTopicIdx) (loopStart world pending)
        (.ok none) final) :
      BriefingEnd world
        { final.close with pendings := final.pendings.erase call.sessionId }
        ⟨concludeBriefing settings env.pipeline call pending final.completed final.errors,
          final.queried⟩

theorem briefing_step_iff
    (world : BriefingWorld Handler)
    (holds : BriefingWorld Handler → BriefingRecord → Prop) :
    holds (briefingStep handle settings world call env).1
        (briefingStep handle settings world call env).2 ↔
      Ensures (generateBriefing handle settings env call) (BriefingState.start world)
        (fun response final => holds final.close ⟨.ok response, final.queried⟩)
        (fun error final => holds final.close ⟨.error error, final.queried⟩) := by
  unfold briefingStep Ensures
  cases generateBriefing handle settings env call (BriefingState.start world) <;> rfl

theorem continue_briefing_end
    (world : BriefingWorld Handler)
    (pending : BriefingPendingState)
    (works : WorksOn env call world pending) :
    Ensures (continueBriefing handle settings env call pending) (BriefingState.start world)
      (fun response final => BriefingEnd handle settings env call world final.close
        ⟨.ok response, final.queried⟩)
      (fun error final => BriefingEnd handle settings env call world final.close
        ⟨.error error, final.queried⟩) := by
  unfold continueBriefing
  rw [ensures_bind, ensures_modify, ensures_bind]
  apply ensures_mono (query_topics_end handle settings env call pending pending.currentTopicIdx
    (pending.topics.drop pending.currentTopicIdx) (loopStart world pending))
  · intro answer final ended
    cases answer with
    | some question => exact .asked pending question final works ended
    | none =>
        have concluded := BriefingEnd.concluded pending final works ended
        rw [ensures_bind, ensures_modify, ensures_bind, ensures_get, ensures_fromOutcome]
        constructor
        · intro response returned
          rw [returned] at concluded
          exact concluded
        · intro error raised
          rw [raised] at concluded
          exact concluded
  · intro error final ended
    exact .handlerRaised pending error final works ended

/-- Every call ends in one of these ways. -/
theorem briefing_step_end
    (world : BriefingWorld Handler) :
    BriefingEnd handle settings env call world (briefingStep handle settings world call env).1
      (briefingStep handle settings world call env).2 := by
  apply (briefing_step_iff handle settings env call world
    (BriefingEnd handle settings env call world)).mpr
  unfold generateBriefing
  rw [ensures_bind, ensures_get]
  have pendings : (BriefingState.start world).pendings = world.pendings := rfl
  simp only [pendings]
  cases found : world.pendings.get? call.sessionId with
  | some pending =>
      exact continue_briefing_end handle settings env call world pending (.stored pending found)
  | none =>
      simp only
      cases decomposed : env.decompose call.agendaText call.projects with
      | ok topics =>
          cases topics with
          | nil => exact .noTopics found decomposed
          | cons topic rest =>
              exact continue_briefing_end handle settings env call world _
                (.opened (topic :: rest) found decomposed (List.cons_ne_nil topic rest))
      | error error =>
          cases error with
          | decomposition message => exact .undecomposed message found decomposed
          | _ => exact .decomposerRaised _ found decomposed

end Rules

end AtlasMindNetra.BriefingOrchestrator
