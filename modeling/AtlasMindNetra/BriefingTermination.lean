import AtlasMindNetra.BriefingCourse
import AtlasMindNetra.ClarificationProgress

/-!
# Answered briefings finish

The briefing with the orchestrator as its query handler. When the clarifier
resolves what it is asked about and no query comes back without results, a
topic asks at most once, and the answer to its question settles it. A topic
without results asks in every call.
-/

namespace AtlasMindNetra.BriefingOrchestrator

open AtlasMindNetra.PythonValues AtlasMindNetra.ResponseModels AtlasMindNetra.EffectRules
open AtlasMindNetra.RunRules AtlasMindNetra.WorkListRules AtlasMindNetra.SessionStore
open AtlasMindNetra.Orchestrator

set_option autoImplicit false

def withElicit (env : QueryEnvironment) (elicit : Option ElicitFn) : QueryEnvironment :=
  { env with clarification := { env.clarification with elicit := elicit } }

/-- `Orchestrator.handle_query` as the query handler. -/
def orchestratorHandle (orch : OrchestratorConfig) (store : SessionBackend) (world : World)
    (call : QueryCall) (elicit : Option ElicitFn) (env : QueryEnvironment) :
    World × Except PyError QueryResponse :=
  let (next, record) := queryStep orch store world call (withElicit env elicit)
  (next, record.outcome)

/-- The collaborators of the report raise nothing that the briefing does not catch. -/
structure PipelineCooperates (env : PipelineSide) : Prop where
  details : ∀ keys limit error, env.getIssueDetails keys limit = .error error →
    (∃ message, error = .liteBackend message) ∨ ∃ message, error = .os message
  analyses : ∀ request error, env.analyse request = .error error →
    ∃ message, error = .analysis message
  ranks : ∀ analyses topN, ∃ ranked, env.rank analyses topN = .ok ranked
  builds : ∀ agenda sections sessionId, ∃ content,
    env.buildBriefingReport agenda sections sessionId = .ok content
  delivers : ∀ reportId content error, env.deliver reportId content = .error error →
    error.isOsOrNetra = true
  stores : ∀ reportId sections error, env.storeBriefingJson reportId sections = .error error →
    ∃ message, error = .os message

section Pipeline

variable (settings : BriefingSettings) (env : PipelineSide)

theorem fetch_details_returns
    (pipeline : PipelineCooperates env)
    (keys : List String) : ∃ fetched, fetchDetails settings env keys = .ok fetched := by
  unfold fetchDetails
  split_ifs
  · exact ⟨_, rfl⟩
  · cases got : env.getIssueDetails keys settings.commentsLimitDefault with
    | ok details =>
        simp only
        cases truthyText details.error with
        | none => exact ⟨_, rfl⟩
        | some message => exact ⟨_, rfl⟩
    | error error =>
        rcases pipeline.details keys _ error got with ⟨message, rfl⟩ | ⟨message, rfl⟩
        · exact ⟨_, rfl⟩
        · exact ⟨_, rfl⟩

theorem analyse_issues_returns
    (pipeline : PipelineCooperates env)
    (request : AnalyseRequest) : ∃ analysed, analyseIssues env request = .ok analysed := by
  unfold analyseIssues
  split_ifs
  · exact ⟨_, rfl⟩
  · cases got : env.analyse request with
    | ok analyses => exact ⟨_, rfl⟩
    | error error =>
        rcases pipeline.analyses request error got with ⟨message, rfl⟩
        exact ⟨_, rfl⟩

theorem build_section_returns
    (pipeline : PipelineCooperates env)
    (completed : OrderedDict String QueryResponse)
    (table : OrderedDict String (List String))
    (dropped : OrderedDict String Nat)
    (analyses : OrderedDict String BlockerAnalysis)
    (topic : AgendaTopic) :
    ∃ briefed, buildSection settings env completed table dropped analyses topic = .ok briefed := by
  unfold buildSection
  apply bind_returns
  · exact pipeline.ranks _ settings.topN
  · intro ranked
    exact ⟨_, rfl⟩

theorem build_sections_returns
    (pipeline : PipelineCooperates env)
    (topics : List AgendaTopic)
    (completed : OrderedDict String QueryResponse)
    (refs : ConfluenceRefs)
    (forceRefresh : Bool) :
    ∃ built, buildSections settings env topics completed refs forceRefresh = .ok built := by
  unfold buildSections
  apply bind_returns
  · exact fetch_details_returns settings env pipeline _
  intro fetched
  apply bind_returns
  · exact analyse_issues_returns env pipeline _
  intro analysed
  apply bind_returns
  · apply mapM_returns
    exact build_section_returns settings env pipeline completed _ _ _
  · intro sections
    exact ⟨_, rfl⟩

theorem deliver_briefing_returns
    (pipeline : PipelineCooperates env)
    (reportId content : String)
    (sections : List BriefingSection) :
    ∃ delivered, deliverBriefing settings env reportId content sections = .ok delivered := by
  unfold deliverBriefing
  split_ifs
  · cases sent : env.deliver reportId content with
    | error error =>
        simp only [if_pos (pipeline.delivers reportId content error sent)]
        exact ⟨_, rfl⟩
    | ok location =>
        cases stored : env.storeBriefingJson reportId sections with
        | ok _ => exact ⟨_, rfl⟩
        | error error =>
            rcases pipeline.stores reportId sections error stored with ⟨message, rfl⟩
            exact ⟨_, rfl⟩
  · exact ⟨_, rfl⟩

theorem conclude_briefing_returns
    (pipeline : PipelineCooperates env)
    (call : BriefingCall)
    (pending : BriefingPendingState)
    (completed : OrderedDict String QueryResponse)
    (errors : List String) :
    ∃ response, concludeBriefing settings env call pending completed errors = .ok response := by
  unfold concludeBriefing
  apply bind_returns
  · exact build_sections_returns settings env pipeline pending.topics completed _ _
  intro built
  apply bind_returns
  · exact pipeline.builds pending.agendaText built.1 call.sessionId
  intro content
  apply bind_returns
  · exact deliver_briefing_returns settings env pipeline _ content built.1
  · intro delivered
    exact ⟨_, rfl⟩

end Pipeline

section Handling

variable (orch : OrchestratorConfig) (store : SessionBackend)

theorem handle_reachable
    (world : World)
    (reached : ReachableWorld orch store world)
    (call : QueryCall)
    (elicit : Option ElicitFn)
    (env : QueryEnvironment) :
    ReachableWorld orch store (orchestratorHandle orch store world call elicit env).1 := by
  rcases reached with ⟨conventions, reached⟩
  have next := reachable_next (OrchestratorInput.call call (withElicit env elicit)) reached trivial
  exact ⟨conventions, next⟩

/-- The queries of one call leave all other sessions alone. -/
theorem threads_untouched
    (call : BriefingCall)
    (env : BriefingEnvironment QueryEnvironment)
    (first last : World)
    (queries : List TopicQuery)
    (threads : Threads (orchestratorHandle orch store) env call first queries last)
    (reached : ReachableWorld orch store first) :
    ReachableWorld orch store last ∧
      ∀ other, (∀ query ∈ queries, other ≠ query.call.sessionId) → SameSession other first last := by
  induction threads with
  | nil state => exact ⟨reached, fun _ _ => rfl⟩
  | cons state next last query rest answered later ih =>
      have follows := congrArg Prod.fst answered
      change (orchestratorHandle orch store state query.call call.elicit
        (env.handlerSide query.index)).1 = next at follows
      have reachedNext := handle_reachable orch store state reached query.call call.elicit
        (env.handlerSide query.index)
      rw [follows] at reachedNext
      rcases ih reachedNext with ⟨reachedLast, untouched⟩
      constructor
      · exact reachedLast
      · intro other apart
        have now : SameSession other state next := by
          rw [← follows]
          exact other_session_untouched orch store state reached query.call _ other
            (apart query List.mem_cons_self)
        have then' := untouched other fun query member =>
          apart query (List.mem_cons_of_mem _ member)
        exact Eq.trans then' now

theorem same_session_not_stuck
    (sessionId : String)
    (before after : World)
    (same : SameSession sessionId before after)
    (calm : NotStuck before sessionId) : NotStuck after sessionId := by
  intro session found
  rw [same] at found
  exact calm session found

theorem same_session_awaits
    (sessionId : String)
    (before after : World)
    (same : SameSession sessionId before after)
    (awaits : Awaits before sessionId) : Awaits after sessionId := by
  rcases awaits with ⟨session, found, waiting⟩
  exact ⟨session, same.trans found, waiting⟩

theorem awaits_not_stuck
    (sessionId : String)
    (world : World)
    (awaits : Awaits world sessionId) : NotStuck world sessionId := by
  rcases awaits with ⟨session, found, waiting⟩
  intro other again same
  rw [found] at again
  rw [← Option.some.inj again, waiting] at same
  cases same

end Handling

section Termination

variable (orch : OrchestratorConfig) (store : SessionBackend) (settings : BriefingSettings)
variable (sessionId agenda : String) (topics : List AgendaTopic)

/-- A call of the briefing in which nobody fails; a question that is pending
gets an answer. -/
structure AnsweredCall (world : BriefingWorld World)
    (input : BriefingCall × BriefingEnvironment QueryEnvironment) : Prop where
  one : OneBriefing sessionId agenda topics world input
  answers : world.pendings.get? sessionId ≠ none → truthyText input.1.clarificationAnswer ≠ none
  clarifier : ∀ index, ClarifierCooperates orch
    (withElicit (input.2.handlerSide index) input.1.elicit).clarification
  backend : ∀ index, BackendCooperates (input.2.handlerSide index).backend
  pipeline : PipelineCooperates input.2.pipeline

def FindsAlways (input : BriefingCall × BriefingEnvironment QueryEnvironment) : Prop :=
  ∀ index, FindsResults (input.2.handlerSide index).backend

/-- Where the briefing stands after `count` questions: its topics from number
`index` on can be asked about, and if a question is pending, the topic's session
waits for the answer. -/
structure AnsweringSoFar (world : BriefingWorld World) (count index : Nat)
    (completed : OrderedDict String QueryResponse) : Prop where
  stands : StandsAt sessionId agenda topics world index completed
  reached : ReachableWorld orch store world.handler
  calm : ∀ position topic, index ≤ position → topics[position]? = some topic →
    NotStuck world.handler (topicSessionId sessionId topic.topicId)
  waits : world.pendings.get? sessionId ≠ none → ∀ topic, topics[index]? = some topic →
    Awaits world.handler (topicSessionId sessionId topic.topicId)
  asked : 0 < count → world.pendings.get? sessionId ≠ none
  counted : 0 < count → count ≤ index + 1
  rounds : 0 < count → 0 < orch.settings.maxRounds ∧ index < topics.length

structure BeforeNext (world : BriefingWorld World) (index length : Nat) (reached : World) :
    Prop where
  reachable : ReachableWorld orch store reached
  same : ∀ position topic, index + length ≤ position → topics[position]? = some topic →
    SameSession (topicSessionId sessionId topic.topicId) world.handler reached

variable (input : BriefingCall × BriefingEnvironment QueryEnvironment)

theorem trace_before_next
    (distinct : (topics.map AgendaTopic.topicId).Nodup)
    (world : BriefingWorld World)
    (reachable : ReachableWorld orch store world.handler)
    (own : input.1.sessionId = sessionId)
    (index : Nat)
    (completed : OrderedDict String QueryResponse)
    (final : BriefingState World)
    (queries : List TopicQuery)
    (reached : World)
    (trace : LoopTrace (orchestratorHandle orch store) settings input.2 input.1
      (pendingAt sessionId agenda topics index completed) index (topics.drop index)
      (loopStart world (pendingAt sessionId agenda topics index completed)) final queries reached) :
    BeforeNext orch store sessionId topics world index queries.length reached := by
  obtain ⟨reachableNext, untouched⟩ := threads_untouched orch store input.1 input.2 _ reached queries
    trace.threads reachable
  constructor
  · exact reachableNext
  · intro position topic beyond found
    apply untouched
    intro query member same
    rw [trace.forwards query member] at same
    have ids : topic.topicId = query.topic.topicId := by
      apply topic_session_id_inj sessionId
      rw [same, ← own]
      rfl
    have here := trace_position (orchestratorHandle orch store) settings topics input.1 input.2 _
      index _ final queries reached trace query member
    have before : query.index < index + queries.length := by
      have listed : query.index ∈ queries.map TopicQuery.index := List.mem_map_of_mem member
      rw [trace.indices] at listed
      exact (List.mem_range'_1.mp listed).2
    have equal := ListRules.position_of_name AgendaTopic.topicId topics distinct query.index
      position _ _ here found ids.symm
    omega

section NextQuery

variable (world : BriefingWorld World)
variable (answered : AnsweredCall orch sessionId agenda topics world input)
variable (finds : FindsAlways input)
variable (pending : BriefingPendingState) (final : BriefingState World)
variable (queries : List TopicQuery) (reached : World)
variable (reachable : ReachableWorld orch store reached)
variable (last : TopicQuery)
variable (next : NextQuery (orchestratorHandle orch store) settings input.2 input.1 pending
  pending.currentTopicIdx (topics.drop pending.currentTopicIdx) final queries reached last)

include answered next in
theorem next_query_session :
    last.call.sessionId = topicSessionId sessionId last.topic.topicId := by
  rw [next.forwards, ← answered.one.session]
  rfl

include answered finds reachable next in
theorem next_query_returns
    (calm : NotStuck reached (topicSessionId sessionId last.topic.topicId)) :
    ∃ result, last.outcome = .ok result ∧ (result.requiresUserInput = true →
      Awaits final.handler (topicSessionId sessionId last.topic.topicId)) := by
  have session := next_query_session orch store settings sessionId agenda topics input world answered
    pending final queries reached last next
  rw [← session] at calm ⊢
  have hidden : last.call.showInUi = false := by
    rw [next.forwards]
    rfl
  have returns := cooperating_call_returns orch store reached reachable last.call
    (withElicit (input.2.handlerSide last.index) input.1.elicit) (answered.clarifier last.index)
    (answered.backend last.index) (finds last.index) hidden calm
  have state := congrArg Prod.fst next.answered
  have outcome := congrArg Prod.snd next.answered
  change (queryStep orch store reached last.call _).1 = final.handler at state
  change (queryStep orch store reached last.call _).2.outcome = last.outcome at outcome
  rw [state, outcome] at returns
  exact returns

include answered finds reachable next in
theorem next_query_completes
    (awaits : Awaits reached (topicSessionId sessionId last.topic.topicId))
    (current : last.index = pending.currentTopicIdx)
    (given : truthyText input.1.clarificationAnswer ≠ none) :
    ∃ result, last.outcome = .ok result ∧ result.requiresUserInput = false := by
  have session := next_query_session orch store settings sessionId agenda topics input world answered
    pending final queries reached last next
  rw [← session] at awaits
  have hidden : last.call.showInUi = false := by
    rw [next.forwards]
    rfl
  rcases Option.ne_none_iff_exists'.mp given with ⟨answer, given⟩
  have forwarded : truthyText last.call.clarificationAnswer = some answer := by
    rw [next.forwards]
    change truthyText (forwardedAnswer input.1 pending last.index) = some answer
    rw [forwardedAnswer, if_pos current]
    exact given
  have completes := answered_call_completes orch store reached reachable last.call
    (withElicit (input.2.handlerSide last.index) input.1.elicit) (answered.clarifier last.index)
    (answered.backend last.index) (finds last.index) hidden awaits answer forwarded
  have outcome := congrArg Prod.snd next.answered
  change (queryStep orch store reached last.call _).2.outcome = last.outcome at outcome
  rw [outcome] at completes
  exact completes

end NextQuery

theorem next_query_calm
    (world : BriefingWorld World)
    (count index : Nat)
    (completed : OrderedDict String QueryResponse)
    (soFar : AnsweringSoFar orch store sessionId agenda topics world count index completed)
    (length : Nat)
    (reached : World)
    (before : BeforeNext orch store sessionId topics world index length reached)
    (last : TopicQuery)
    (position : last.index = index + length)
    (current : topics[last.index]? = some last.topic) :
    NotStuck reached (topicSessionId sessionId last.topic.topicId) := by
  apply same_session_not_stuck _ world.handler reached
  · exact before.same last.index last.topic (by omega) current
  · exact soFar.calm last.index last.topic (by omega) current

/-- The state of affairs after one more question, which is about a later topic
than the question before it. -/
theorem asked_so_far
    (distinct : (topics.map AgendaTopic.topicId).Nodup)
    (world : BriefingWorld World)
    (count index : Nat)
    (completed : OrderedDict String QueryResponse)
    (soFar : AnsweringSoFar orch store sessionId agenda topics world count index completed)
    (answered : AnsweredCall orch sessionId agenda topics world input)
    (finds : FindsAlways input)
    (final : BriefingState World)
    (queries : List TopicQuery)
    (reached : World)
    (last : TopicQuery)
    (result : QueryResponse)
    (before : BeforeNext orch store sessionId topics world index queries.length reached)
    (next : NextQuery (orchestratorHandle orch store) settings input.2 input.1
      (pendingAt sessionId agenda topics index completed) index (topics.drop index) final queries
      reached last)
    (replied : last.outcome = .ok result)
    (asks : result.requiresUserInput = true)
    (stored : final.pendings = world.pendings.set sessionId
      ((pendingAt sessionId agenda topics index completed).stoppedAt last.index final.completed)) :
    AnsweringSoFar orch store sessionId agenda topics final.close (count + 1) last.index
      final.completed := by
  have current : topics[last.index]? = some last.topic :=
    next_query_inside _ settings input.2 input.1 _ final queries reached last next
  have position : last.index = index + queries.length := next.position
  have calm := next_query_calm orch store sessionId agenda topics world count index completed soFar
    queries.length reached before last position current
  have awaits : Awaits final.handler (topicSessionId sessionId last.topic.topicId) := by
    obtain ⟨other, returned, waits⟩ := next_query_returns orch store settings sessionId agenda
      topics input world answered finds _ final queries reached before.reachable last next calm
    have same : result = other := Except.ok.inj (replied.symm.trans returned)
    exact waits (same ▸ asks)
  have advances : 0 < count → index < last.index := by
    intro some
    by_contra behind
    have here : last.index = index := by omega
    have waiting := same_session_awaits _ world.handler reached
      (before.same last.index last.topic (by omega) current)
      (soFar.waits (soFar.asked some) last.topic (here ▸ current))
    obtain ⟨other, returned, silent⟩ := next_query_completes orch store settings sessionId agenda
      topics input world answered finds _ final queries reached before.reachable last next waiting
      here (answered.answers (soFar.asked some))
    rw [replied] at returned
    rw [Except.ok.inj returned, silent] at asks
    cases asks
  have state : (orchestratorHandle orch store reached last.call input.1.elicit
      (input.2.handlerSide last.index)).1 = final.handler := congrArg Prod.fst next.answered
  have reachable := handle_reachable orch store reached before.reachable last.call
    input.1.elicit (input.2.handlerSide last.index)
  rw [state] at reachable
  constructor
  · exact stopped_stands sessionId agenda topics world.pendings final index last.index completed
      last.topic stored current
  · exact reachable
  · intro later topic beyond found
    by_cases here : later = last.index
    · rw [here, current] at found
      rw [← Option.some.inj found]
      exact awaits_not_stuck _ _ awaits
    · have apart : topicSessionId sessionId topic.topicId ≠ last.call.sessionId := by
        rw [next_query_session orch store settings sessionId agenda topics input world answered _
          final queries reached last next]
        intro same
        have ids := topic_session_id_inj sessionId _ _ same
        exact here (ListRules.position_of_name AgendaTopic.topicId topics distinct later last.index
          _ _ found current ids)
      have untouched := other_session_untouched orch store reached before.reachable last.call
        (withElicit (input.2.handlerSide last.index) input.1.elicit) _ apart
      change SameSession _ reached (orchestratorHandle orch store reached last.call input.1.elicit
        (input.2.handlerSide last.index)).1 at untouched
      rw [state] at untouched
      apply same_session_not_stuck _ reached final.handler untouched
      apply same_session_not_stuck _ world.handler reached
      · exact before.same later topic (by omega) found
      · exact soFar.calm later topic (by omega) found
  · intro _ topic found
    rw [current] at found
    rw [← Option.some.inj found]
    exact awaits
  · intro _
    change final.pendings.get? sessionId ≠ none
    rw [stored, OrderedDict.get?_set_self]
    simp
  · intro _
    rcases Nat.eq_zero_or_pos count with none | some
    · omega
    · have counted := soFar.counted some
      have beyond := advances some
      omega
  · intro _
    constructor
    · exact awaiting_allows_rounds orch store final.handler reachable _ awaits
    · exact (List.getElem?_eq_some_iff.mp current).1

theorem answered_call_advances
    (distinct : (topics.map AgendaTopic.topicId).Nodup)
    (world : BriefingWorld World)
    (count index : Nat)
    (completed : OrderedDict String QueryResponse)
    (soFar : AnsweringSoFar orch store sessionId agenda topics world count index completed)
    (answered : AnsweredCall orch sessionId agenda topics world input)
    (finds : FindsAlways input) :
    ∃ response,
      (courseStep (orchestratorHandle orch store) settings world input).2.outcome = .ok response ∧
      (response.requiresUserInput = true → ∃ next gathered,
        AnsweringSoFar orch store sessionId agenda topics
          (courseStep (orchestratorHandle orch store) settings world input).1 (count + 1) next
          gathered) := by
  have ended := briefing_step_end (orchestratorHandle orch store) settings input.2 input.1 world
  have works := course_works_on sessionId agenda topics world index completed soFar.stands input
    answered.one
  have decomposes := course_decomposes sessionId agenda topics world input answered.one
  rw [courseStep]
  generalize (briefingStep (orchestratorHandle orch store) settings world input.1 input.2).1 = after
    at ended ⊢
  generalize (briefingStep (orchestratorHandle orch store) settings world input.1 input.2).2 = record
    at ended ⊢
  cases ended with
  | undecomposed message fresh failed =>
      exact absurd (failed.symm.trans (decomposes fresh)) (by simp)
  | decomposerRaised error fresh failed =>
      exact absurd (failed.symm.trans (decomposes fresh)) (by simp)
  | noTopics fresh decomposed =>
      refine ⟨_, rfl, ?_⟩
      intro asks
      cases asks
  | concluded pending final opened ended =>
      obtain ⟨response, returned⟩ := conclude_briefing_returns settings input.2.pipeline
        answered.pipeline input.1 pending final.completed final.errors
      refine ⟨response, returned, ?_⟩
      intro asks
      rw [(conclude_briefing_reports settings _ _ _ _ _ response returned).1] at asks
      cases asks
  | handlerRaised pending error final opened ended =>
      rcases works pending opened with ⟨rfl, inside⟩
      cases ended with
      | raises _ queries reached last _ trace next failed queried kept =>
          have before := trace_before_next orch store settings sessionId agenda topics input distinct
            world soFar.reached answered.one.session index completed final queries reached trace
          have current : topics[last.index]? = some last.topic :=
            next_query_inside _ settings input.2 input.1 _ final queries reached last next
          have calm := next_query_calm orch store sessionId agenda topics world count index completed
            soFar queries.length reached before last next.position current
          obtain ⟨result, returned, _⟩ := next_query_returns orch store settings sessionId agenda
            topics input world answered finds _ final queries reached before.reachable last next calm
          rw [returned] at failed
          cases failed
  | asked pending question final opened ended =>
      rcases works pending opened with ⟨rfl, inside⟩
      cases ended with
      | asks _ queries reached last result trace next replied asks queried stored =>
          have before := trace_before_next orch store settings sessionId agenda topics input distinct
            world soFar.reached answered.one.session index completed final queries reached trace
          refine ⟨_, rfl, ?_⟩
          intro _
          exact ⟨last.index, final.completed, asked_so_far orch store settings sessionId agenda topics
            input distinct world count index completed soFar answered finds final queries reached last
            result before next replied asks stored⟩

theorem answering_run
    (distinct : (topics.map AgendaTopic.topicId).Nodup)
    (world : BriefingWorld World)
    (reached : ReachableWorld orch store world.handler)
    (fresh : world.pendings.get? sessionId = none)
    (calm : ∀ topic ∈ topics, NotStuck world.handler (topicSessionId sessionId topic.topicId))
    (inputs : List (BriefingCall × BriefingEnvironment QueryEnvironment))
    (answered : EveryStep (courseStep (orchestratorHandle orch store) settings)
      (AnsweredCall orch sessionId agenda topics) world inputs)
    (finds : EveryStep (courseStep (orchestratorHandle orch store) settings)
      (fun _ input => FindsAlways input) world inputs)
    (asked : ∀ record ∈ (run (courseStep (orchestratorHandle orch store) settings) world inputs).2,
      AsksUser record) :
    ∃ index completed, AnsweringSoFar orch store sessionId agenda topics
      (run (courseStep (orchestratorHandle orch store) settings) world inputs).1 inputs.length
      index completed := by
  have asking := (outputs_iff_every_step AsksUser
    (fun world input => AsksUser (courseStep (orchestratorHandle orch store) settings world
      input).2) world inputs fun _ _ _ => Iff.rfl).mp asked
  have start : AnsweringSoFar orch store sessionId agenda topics world 0 0 ∅ := by
    constructor
    · exact StandsAt.fresh fresh
    · exact reached
    · intro position topic _ found
      exact calm topic (List.mem_of_getElem? found)
    · intro pending
      exact absurd fresh pending
    · omega
    · omega
    · omega
  have ended := run_history_invariant
    (fun world past => ∃ index completed, AnsweringSoFar orch store sessionId agenda topics world
      past.length index completed)
    (by
      intro world past input soFar allowed
      rcases soFar with ⟨index, completed, soFar⟩
      rcases allowed with ⟨⟨answered, finds⟩, asking⟩
      obtain ⟨response, returned, further⟩ := answered_call_advances orch store settings sessionId
        agenda topics input distinct world past.length index completed soFar answered finds
      rcases asking with ⟨question, again, asks⟩
      rw [returned] at again
      rw [List.length_append]
      exact further (Except.ok.inj again ▸ asks))
    world [] inputs ⟨0, ∅, start⟩ (every_step_and world inputs
      (every_step_and world inputs answered finds) asking)
  rw [List.nil_append, run_outputs_length] at ended
  exact ended

/-- A briefing whose questions are answered asks at most `maxRounds` times a topic, and every
call of it returns. -/
theorem answered_briefing_finishes
    (distinct : (topics.map AgendaTopic.topicId).Nodup)
    (world : BriefingWorld World)
    (reached : ReachableWorld orch store world.handler)
    (fresh : world.pendings.get? sessionId = none)
    (calm : ∀ topic ∈ topics, NotStuck world.handler (topicSessionId sessionId topic.topicId))
    (earlier : List (BriefingCall × BriefingEnvironment QueryEnvironment))
    (last : BriefingCall × BriefingEnvironment QueryEnvironment)
    (answered : EveryStep (courseStep (orchestratorHandle orch store) settings)
      (AnsweredCall orch sessionId agenda topics) world (earlier ++ [last]))
    (finds : EveryStep (courseStep (orchestratorHandle orch store) settings)
      (fun _ input => FindsAlways input) world (earlier ++ [last]))
    (asked : ∀ record ∈ (run (courseStep (orchestratorHandle orch store) settings) world earlier).2,
      AsksUser record) :
    earlier.length ≤ topics.length * orch.settings.maxRounds ∧
      ∃ response, (courseStep (orchestratorHandle orch store) settings
        (run (courseStep (orchestratorHandle orch store) settings) world earlier).1
          last).2.outcome = .ok response ∧
        (earlier.length = topics.length * orch.settings.maxRounds →
          response.requiresUserInput = false) := by
  rcases every_step_append world earlier last answered with ⟨answeredFront, answeredLast⟩
  rcases every_step_append world earlier last finds with ⟨findsFront, findsLast⟩
  obtain ⟨index, completed, soFar⟩ := answering_run orch store settings sessionId agenda topics
    distinct world reached fresh calm earlier answeredFront findsFront asked
  have bound : ∀ world' count index completed,
      AnsweringSoFar orch store sessionId agenda topics world' count index completed →
      count ≤ topics.length * orch.settings.maxRounds := by
    intro world' count index completed soFar
    rcases Nat.eq_zero_or_pos count with none | some
    · omega
    · rcases soFar.rounds some with ⟨rounds, inside⟩
      have counted := soFar.counted some
      calc
        count ≤ topics.length := by omega
        _ ≤ topics.length * orch.settings.maxRounds := Nat.le_mul_of_pos_right _ rounds
  constructor
  · exact bound _ _ index completed soFar
  · obtain ⟨response, returned, further⟩ := answered_call_advances orch store settings sessionId
      agenda topics last distinct _ earlier.length index completed soFar answeredLast findsLast
    refine ⟨response, returned, ?_⟩
    intro spent
    by_contra asks
    rcases further (Bool.not_eq_false _ ▸ asks) with ⟨next, gathered, more⟩
    have exceeded := bound _ _ next gathered more
    omega

end Termination

def resolveAll (request : ResolveRequest) : ResolvedTerms where
  resolutions := request.terms.map fun term =>
    { term := term, resolutionKey := term, jqlHint := "hint" }

def findingSide (total : Int) : QueryEnvironment where
  clarification :=
    { formulateQuestion := fun request =>
        .ok { question := String.intercalate ", " request.terms ++ "?", terms := request.terms }
      resolveAnswer := fun _ request => .ok (resolveAll request) }
  backend := { query := fun _ _ => .ok { jql := some "project = A", total := total } }

def findingEnvironment (topics : List AgendaTopic) (total : Int) :
    BriefingEnvironment QueryEnvironment where
  decompose _ _ := .ok topics
  handlerSide _ := findingSide total
  pipeline := quietPipeline

theorem quiet_pipeline_cooperates : PipelineCooperates quietPipeline := by
  constructor
  · intro _ _ _ failed
    cases failed
  · intro _ _ failed
    cases failed
  · intro analyses topN
    exact ⟨_, rfl⟩
  · intro _ _ _
    exact ⟨_, rfl⟩
  · intro _ _ _ failed
    cases failed
  · intro _ _ _ failed
    cases failed

theorem sample_terms_lower :
    ∀ term ∈ sampleOrchestrator.vocab.terms, sampleOrchestrator.tables.lower term = term := by
  decide +kernel

theorem finding_clarifier_cooperates (total : Int) :
    ClarifierCooperates sampleOrchestrator (withElicit (findingSide total) none).clarification := by
  constructor
  · intro _
    rfl
  · intro _ _
    rfl
  · rfl
  · exact ⟨[], rfl⟩
  · intro _ _ failed
    cases failed
  · intro _ offered
    cases offered
  · intro path request listed
    refine ⟨resolveAll request, rfl, ?_⟩
    intro term asked
    rw [resolveAll, List.map_map]
    exact List.mem_map.mpr ⟨term, asked, sample_terms_lower term (listed term asked)⟩

theorem finding_backend_cooperates (total : Int) :
    BackendCooperates (findingSide total).backend := by
  constructor
  · intro _ _
    exact ⟨_, rfl⟩
  · intro _ _ _ failed
    cases failed
  · intro _ _ _ failed
    cases failed

def sampleInput (topics : List AgendaTopic) (total : Int) (answer : Option String) :
    BriefingCall × BriefingEnvironment QueryEnvironment :=
  ({ sampleBriefing with clarificationAnswer := answer }, findingEnvironment topics total)

theorem sample_input_answered
    (topics : List AgendaTopic)
    (total : Int)
    (answer : Option String)
    (world : BriefingWorld World)
    (answers : world.pendings.get? "s" ≠ none → truthyText answer ≠ none) :
    AnsweredCall sampleOrchestrator "s" "daily" topics world (sampleInput topics total answer) := by
  constructor
  · exact ⟨rfl, fun _ => ⟨rfl, rfl⟩⟩
  · exact answers
  · intro _
    exact finding_clarifier_cooperates total
  · intro _
    exact finding_backend_cooperates total
  · exact quiet_pipeline_cooperates

theorem finding_side_finds
    (topics : List AgendaTopic)
    (total : Int)
    (some : total ≠ 0)
    (answer : Option String) : FindsAlways (sampleInput topics total answer) := by
  intro _ _ _ result answered
  cases answered
  exact some

theorem late_question_asks :
    ∀ record ∈ (run (courseStep (orchestratorHandle sampleOrchestrator .inMemory) {})
      { handler := {} } [sampleInput [firstTopic, secondTopic] 1 none]).2, AsksUser record := by
  intro record member
  cases List.mem_singleton.mp member
  exact ⟨_, rfl, rfl⟩

theorem late_question_finishes :
    1 ≤ 2 * 3 ∧ ∃ response,
      (courseStep (orchestratorHandle sampleOrchestrator .inMemory) {}
        (run (courseStep (orchestratorHandle sampleOrchestrator .inMemory) {}) { handler := {} }
          [sampleInput [firstTopic, secondTopic] 1 none]).1
        (sampleInput [firstTopic, secondTopic] 1 (some "overdue"))).2.outcome = .ok response ∧
      (1 = 2 * 3 → response.requiresUserInput = false) :=
  answered_briefing_finishes sampleOrchestrator .inMemory {} "s" "daily" [firstTopic, secondTopic]
    (by decide) { handler := {} } ⟨{}, [], trivial, rfl⟩ rfl
    (by intro topic _ session found; cases found)
    [sampleInput [firstTopic, secondTopic] 1 none]
    (sampleInput [firstTopic, secondTopic] 1 (some "overdue"))
    ⟨sample_input_answered _ _ _ _ (fun pending => absurd rfl pending),
      sample_input_answered _ _ _ _ (by intro _; decide), trivial⟩
    ⟨finding_side_finds _ 1 (by decide) _, finding_side_finds _ 1 (by decide) _, trivial⟩
    late_question_asks

def zeroResultsWorld : BriefingWorld World where
  handler :=
    { sessions := (∅ : SessionTable).set "s__topic_topic_1"
        { sessionId := "s__topic_topic_1", state := .dispatched } }
  pendings := (∅ : BriefingTable).set "s"
    { sessionId := "s", agendaText := "daily", topics := [firstTopic] }

def zeroStep (world : BriefingWorld World)
    (input : BriefingCall × BriefingEnvironment QueryEnvironment) :
    BriefingWorld World × BriefingRecord :=
  courseStep (orchestratorHandle sampleOrchestrator .inMemory) {} world input

def zeroOpening : BriefingCall × BriefingEnvironment QueryEnvironment :=
  sampleInput [firstTopic] 0 none

def zeroAnswer : BriefingCall × BriefingEnvironment QueryEnvironment :=
  sampleInput [firstTopic] 0 (some "status is Done")

theorem zero_opening_next : (zeroStep { handler := {} } zeroOpening).1 = zeroResultsWorld := rfl

theorem zero_opening_asks : AsksUser (zeroStep { handler := {} } zeroOpening).2 := ⟨_, rfl, rfl⟩

theorem zero_answer_next : (zeroStep zeroResultsWorld zeroAnswer).1 = zeroResultsWorld := rfl

theorem zero_answer_asks : AsksUser (zeroStep zeroResultsWorld zeroAnswer).2 := ⟨_, rfl, rfl⟩

theorem zero_answers_ask (count : Nat) :
    ∀ record ∈ (run zeroStep zeroResultsWorld (List.replicate count zeroAnswer)).2,
      AsksUser record := by
  induction count with
  | zero =>
      intro record member
      cases member
  | succ count ih =>
      rw [List.replicate_succ, run_cons, zero_answer_next]
      exact List.forall_mem_cons.mpr ⟨zero_answer_asks, ih⟩

theorem zero_calls_answered (count : Nat) :
    EveryStep zeroStep (AnsweredCall sampleOrchestrator "s" "daily" [firstTopic]) { handler := {} }
      (zeroOpening :: List.replicate count zeroAnswer) := by
  constructor
  · apply sample_input_answered
    intro pending
    exact absurd rfl pending
  · rw [zero_opening_next]
    induction count with
    | zero => trivial
    | succ count ih =>
        rw [List.replicate_succ, EveryStep, zero_answer_next]
        constructor
        · apply sample_input_answered
          intro _
          decide
        · exact ih

/-- All calls are answered, and the last of the allowed ones asks again. -/
theorem zero_results_ask_again :
    ∃ inputs, inputs.length = [firstTopic].length * sampleOrchestrator.settings.maxRounds + 1 ∧
      EveryStep (courseStep (orchestratorHandle sampleOrchestrator .inMemory) {})
        (AnsweredCall sampleOrchestrator "s" "daily" [firstTopic]) { handler := {} } inputs ∧
      ∀ record ∈ (run (courseStep (orchestratorHandle sampleOrchestrator .inMemory) {})
        { handler := {} } inputs).2, AsksUser record := by
  refine ⟨zeroOpening :: List.replicate 3 zeroAnswer, rfl, zero_calls_answered 3, ?_⟩
  change ∀ record ∈ (run zeroStep _ _).2, AsksUser record
  rw [run_cons, zero_opening_next]
  exact List.forall_mem_cons.mpr ⟨zero_opening_asks, zero_answers_ask 3⟩

end AtlasMindNetra.BriefingOrchestrator
