import AtlasMindNetra.BriefingRuns
import AtlasMindNetra.ListRules
import AtlasMindNetra.WorkListRules
import Mathlib.Data.List.Chain

/-!
# The course of one briefing

The calls of one session, from the one that decomposes the agenda to the one
that returns the report, work through the topics like one uninterrupted loop:
their queries, taken together, are attempts at the topics in agenda order.
-/

namespace AtlasMindNetra.BriefingOrchestrator

open AtlasMindNetra.PythonValues AtlasMindNetra.ResponseModels AtlasMindNetra.EffectRules
open AtlasMindNetra.RunRules AtlasMindNetra.WorkListRules
open AtlasMindNetra.Orchestrator (QueryCall sessionSlug)

set_option autoImplicit false

/-- The attempts `queries` have brought the briefing to topic number `index`. -/
def TopicProgress (topics : List AgendaTopic) (queries : List TopicQuery) (index : Nat) : Prop :=
  Progress TopicQuery.topic TopicQuery.completed? topics queries index

def topicCompletions (queries : List TopicQuery) : List (AgendaTopic × QueryResponse) :=
  completions TopicQuery.topic TopicQuery.completed? queries

def queriesOf (records : List BriefingRecord) : List TopicQuery :=
  records.flatMap BriefingRecord.queried

def AsksUser (record : BriefingRecord) : Prop :=
  ∃ response, record.outcome = .ok response ∧ response.requiresUserInput = true

def NamesTopic (record : BriefingRecord) (topicId : String) : Prop :=
  ∃ response, record.outcome = .ok response ∧ response.pendingTopicId = some topicId

/-- The later call forwards its answer only to the topic that the earlier one named. -/
def AnswersNamed (earlier later : BriefingRecord) : Prop :=
  ∀ query ∈ later.queried, ∀ answer, query.call.clarificationAnswer = some answer →
    NamesTopic earlier query.topic.topicId

def AsksAbout (sessionId : String) (query : TopicQuery) : Prop :=
  query.call.query = query.topic.suggestedQuery ∧
    query.call.sessionId = topicSessionId sessionId query.topic.topicId

theorem record_results_append
    (completed : OrderedDict String QueryResponse)
    (queries more : List TopicQuery) :
    recordResults completed (queries ++ more) =
      recordResults (recordResults completed queries) more :=
  List.foldl_append

theorem record_results_unfinished
    (completed : OrderedDict String QueryResponse)
    (query : TopicQuery)
    (unfinished : query.completed? = none) :
    recordResults completed [query] = completed := by
  rw [recordResults, List.foldl_cons, unfinished]
  rfl

theorem record_results_completions
    (completed : OrderedDict String QueryResponse)
    (queries : List TopicQuery) :
    recordResults completed queries =
      (topicCompletions queries).foldl (fun table entry => table.set entry.1.topicId entry.2)
        completed := by
  induction queries generalizing completed with
  | nil => rfl
  | cons query rest ih =>
      cases done : query.completed? with
      | none =>
          have skipped : topicCompletions (query :: rest) = topicCompletions rest := by
            simp [topicCompletions, completions, done]
          rw [skipped, ← ih, recordResults, List.foldl_cons, done]
          rfl
      | some result =>
          have kept : topicCompletions (query :: rest) =
              (query.topic, result) :: topicCompletions rest := by
            simp [topicCompletions, completions, done]
          rw [kept, List.foldl_cons, ← ih, record_results_cons _ _ _ _ done]

theorem get_assigned
    (entries : List (AgendaTopic × QueryResponse))
    (distinct : (entries.map fun entry => entry.1.topicId).Nodup)
    (table : OrderedDict String QueryResponse)
    (topicId : String) :
    (entries.foldl (fun table entry => table.set entry.1.topicId entry.2) table).get? topicId =
      ((entries.map fun entry => (entry.1.topicId, entry.2)).lookup topicId).or
        (table.get? topicId) := by
  induction entries generalizing table with
  | nil => rfl
  | cons entry rest ih =>
      rw [List.map_cons, List.nodup_cons] at distinct
      rw [List.foldl_cons, ih distinct.2, OrderedDict.get?_set, List.map_cons,
        OrderedDict.lookup_entry]
      by_cases here : topicId = entry.1.topicId
      · have absent : (rest.map fun entry => (entry.1.topicId, entry.2)).lookup topicId = none := by
          apply List.lookup_eq_none_iff.mpr
          intro other member
          rcases List.mem_map.mp member with ⟨origin, listed, rfl⟩
          rw [bne_iff_ne]
          intro same
          apply distinct.1
          rw [← here, same]
          exact List.mem_map_of_mem listed
        rw [if_pos here, if_pos here, absent]
        rfl
      · rw [if_neg here, if_neg here]

theorem get_record_results
    (queries : List TopicQuery)
    (distinct : ((topicCompletions queries).map fun entry => entry.1.topicId).Nodup)
    (topic : AgendaTopic)
    (result : QueryResponse)
    (member : (topic, result) ∈ topicCompletions queries) :
    (recordResults ∅ queries).get? topic.topicId = some result := by
  rw [record_results_completions, get_assigned _ distinct]
  have found : ((topicCompletions queries).map fun entry =>
      (entry.1.topicId, entry.2)).lookup topic.topicId = some result := by
    apply OrderedDict.lookup_of_entry
    · rw [List.map_map]
      exact distinct
    · exact List.mem_map.mpr ⟨(topic, result), member, rfl⟩
  rw [found, Option.some_or]

def ReportsResult (completed : OrderedDict String QueryResponse) (topic : AgendaTopic)
    (briefed : BriefingSection) : Prop :=
  briefed.topicId = topic.topicId ∧
    briefed.jql = (completed.get? topic.topicId).bind QueryResponse.jql ∧
    briefed.totalFound = ((completed.get? topic.topicId).map QueryResponse.total).getD 0

theorem build_section_reports
    (settings : BriefingSettings)
    (env : PipelineSide)
    (completed : OrderedDict String QueryResponse)
    (table : OrderedDict String (List String))
    (dropped : OrderedDict String Nat)
    (analyses : OrderedDict String BlockerAnalysis)
    (topic : AgendaTopic)
    (briefed : BriefingSection)
    (built : buildSection settings env completed table dropped analyses topic = .ok briefed) :
    ReportsResult completed topic briefed := by
  rw [buildSection, bind_eq_ok] at built
  rcases built with ⟨ranked, _, same⟩
  cases same
  exact ⟨rfl, rfl, rfl⟩

theorem build_sections_report
    (settings : BriefingSettings)
    (env : PipelineSide)
    (topics : List AgendaTopic)
    (completed : OrderedDict String QueryResponse)
    (refs : ConfluenceRefs)
    (forceRefresh : Bool)
    (sections : List BriefingSection)
    (errors : List String)
    (built : buildSections settings env topics completed refs forceRefresh =
      .ok (sections, errors)) :
    List.Forall₂ (ReportsResult completed) topics sections := by
  obtain ⟨_, _, _, _, looped, _⟩ := build_sections_ok_iff.mp built
  apply (mapM_ok_forall₂ _ topics sections looped).imp
  intro topic section' built
  exact build_section_reports settings env completed _ _ _ topic section' built

/-- What every report has in common. -/
theorem conclude_briefing_reports
    (settings : BriefingSettings)
    (env : PipelineSide)
    (call : BriefingCall)
    (pending : BriefingPendingState)
    (completed : OrderedDict String QueryResponse)
    (errors : List String)
    (response : BriefingResponse)
    (concluded : concludeBriefing settings env call pending completed errors = .ok response) :
    response.requiresUserInput = false ∧
      List.Forall₂ (ReportsResult completed) pending.topics response.sections := by
  obtain ⟨sections, added, _, _, _, built, _, _, rfl⟩ := conclude_briefing_ok_iff.mp concluded
  constructor
  · rfl
  · exact build_sections_report settings env pending.topics completed _ _ sections added built

section Course

variable {Handler Env : Type}
variable (handle : Handler → QueryCall → Option ElicitFn → Env →
  Handler × Except PyError QueryResponse)
variable (settings : BriefingSettings)
variable (sessionId agenda : String) (topics : List AgendaTopic)

def courseStep (world : BriefingWorld Handler) (input : BriefingCall × BriefingEnvironment Env) :
    BriefingWorld Handler × BriefingRecord :=
  briefingStep handle settings world input.1 input.2

/-- The input is a call of the session; one that finds no pending briefing is
made for the agenda, which has these topics. -/
structure OneBriefing (world : BriefingWorld Handler)
    (input : BriefingCall × BriefingEnvironment Env) : Prop where
  session : input.1.sessionId = sessionId
  opens : world.pendings.get? sessionId = none →
    input.1.agendaText = agenda ∧ input.2.decompose agenda input.1.projects = .ok topics

def pendingAt (index : Nat) (completed : OrderedDict String QueryResponse) :
    BriefingPendingState where
  sessionId := sessionId
  agendaText := agenda
  topics := topics
  currentTopicIdx := index
  completedResults := completed

/-- The next call starts at topic number `index` with these results. -/
inductive StandsAt (world : BriefingWorld Handler) : Nat → OrderedDict String QueryResponse → Prop
  | fresh (none : world.pendings.get? sessionId = none) : StandsAt world 0 ∅
  | stored (index : Nat) (completed : OrderedDict String QueryResponse)
      (found : world.pendings.get? sessionId =
        some (pendingAt sessionId agenda topics index completed))
      (inside : index < topics.length) :
      StandsAt world index completed

/-- The queries of one call that starts at topic number `index` and reaches
topic number `reached`. -/
structure Segment (index : Nat) (queried : List TopicQuery) (reached : Nat) : Prop where
  advances : ∀ attempts, TopicProgress topics attempts index →
    TopicProgress topics (attempts ++ queried) reached
  about : ∀ query ∈ queried, AsksAbout sessionId query
  answers : ∀ query ∈ queried, ∀ answer, query.call.clarificationAnswer = some answer →
    topics[index]? = some query.topic

/-- How a call of the course can end. -/
inductive CallCourse (index : Nat) (completed : OrderedDict String QueryResponse)
    (input : BriefingCall × BriefingEnvironment Env) :
    BriefingWorld Handler → BriefingRecord → Prop
  | noTopics (next : BriefingWorld Handler) (empty : topics = []) :
      CallCourse index completed input next ⟨.ok (emptyResponse input.1), []⟩
  | asked (next : BriefingWorld Handler) (queried : List TopicQuery) (reached : Nat)
      (topic : AgendaTopic) (question : Option String)
      (segment : Segment sessionId topics index queried reached)
      (current : topics[reached]? = some topic)
      (stands : StandsAt sessionId agenda topics next reached (recordResults completed queried))
      (asks : ∃ query ∈ queried, ∃ result, query.outcome = .ok result ∧
        result.requiresUserInput = true) :
      CallCourse index completed input next ⟨.ok (pendingResponse input.1 topic question), queried⟩
  | concluded (next : BriefingWorld Handler) (queried : List TopicQuery)
      (some : topics ≠ [])
      (segment : Segment sessionId topics index queried topics.length) :
      CallCourse index completed input next
        ⟨concludeBriefing settings input.2.pipeline input.1
          (pendingAt sessionId agenda topics index completed) (recordResults completed queried)
          (queried.flatMap queryErrors), queried⟩
  | raised (next : BriefingWorld Handler) (error : PyError) (queried : List TopicQuery)
      (failed : ∃ query ∈ queried, query.outcome = .error error) :
      CallCourse index completed input next ⟨.error error, queried⟩

theorem course_works_on
    (world : BriefingWorld Handler)
    (index : Nat)
    (completed : OrderedDict String QueryResponse)
    (stands : StandsAt sessionId agenda topics world index completed)
    (input : BriefingCall × BriefingEnvironment Env)
    (one : OneBriefing sessionId agenda topics world input)
    (pending : BriefingPendingState)
    (works : WorksOn input.2 input.1 world pending) :
    pending = pendingAt sessionId agenda topics index completed ∧ index < topics.length := by
  rcases one with ⟨own, opens⟩
  subst own
  cases stands with
  | fresh none =>
      rcases opens none with ⟨text, decomposed⟩
      subst text
      cases works with
      | stored _ found => exact absurd (none.symm.trans found) (by simp)
      | opened others _ again some =>
          have same : topics = others := Except.ok.inj (decomposed.symm.trans again)
          rw [← same] at some ⊢
          exact ⟨rfl, List.length_pos_iff.mpr some⟩
  | stored _ _ stored inside =>
      cases works with
      | stored _ found => exact ⟨Option.some.inj (found.symm.trans stored), inside⟩
      | opened _ fresh _ _ => exact absurd (fresh.symm.trans stored) (by simp)

variable (call : BriefingCall) (env : BriefingEnvironment Env)

theorem trace_position
    (pending : BriefingPendingState)
    (index : Nat)
    (start final : BriefingState Handler)
    (queries : List TopicQuery)
    (reached : Handler)
    (trace : LoopTrace handle settings env call pending index (topics.drop index) start final
      queries reached)
    (query : TopicQuery)
    (member : query ∈ queries) :
    topics[query.index]? = some query.topic := by
  rcases List.mem_iff_getElem?.mp member with ⟨offset, found⟩
  have within := (List.getElem?_eq_some_iff.mp found).1
  have position := congrArg (fun listed => listed[offset]?) trace.indices
  have listed := congrArg (fun listed => listed[offset]?) trace.inOrder
  simp only [List.getElem?_map, found, Option.map_some, List.getElem?_take, if_pos within,
    List.getElem?_drop, List.getElem?_range' within, Option.some.injEq] at position listed
  rw [position, Nat.one_mul]
  exact listed.symm

theorem forwarded_to_current
    (pending : BriefingPendingState)
    (query : TopicQuery)
    (forwards : query.call = topicCall settings call query.topic
      (forwardedAnswer call pending query.index))
    (answer : String)
    (given : query.call.clarificationAnswer = some answer) :
    query.index = pending.currentTopicIdx := by
  rw [forwards] at given
  change forwardedAnswer call pending query.index = some answer at given
  unfold forwardedAnswer at given
  split_ifs at given with current
  exact current

theorem loop_segment
    (own : call.sessionId = sessionId)
    (pending : BriefingPendingState)
    (start final : BriefingState Handler)
    (queries : List TopicQuery)
    (reached : Handler)
    (trace : LoopTrace handle settings env call pending pending.currentTopicIdx
      (topics.drop pending.currentTopicIdx) start final queries reached) :
    Segment sessionId topics pending.currentTopicIdx queries
      (pending.currentTopicIdx + queries.length) := by
  constructor
  · intro attempts progress
    exact progress_extend progress queries trace.inOrder trace.complete
  · intro query member
    rw [AsksAbout, trace.forwards query member, ← own]
    exact ⟨rfl, rfl⟩
  · intro query member answer given
    have current := forwarded_to_current settings call pending query
      (trace.forwards query member) answer given
    rw [← current]
    exact trace_position handle settings topics call env pending _ start final queries reached
      trace query member

theorem loop_segment_asked
    (own : call.sessionId = sessionId)
    (pending : BriefingPendingState)
    (start final : BriefingState Handler)
    (queries : List TopicQuery)
    (reached : Handler)
    (trace : LoopTrace handle settings env call pending pending.currentTopicIdx
      (topics.drop pending.currentTopicIdx) start final queries reached)
    (last : TopicQuery)
    (next : NextQuery handle settings env call pending pending.currentTopicIdx
      (topics.drop pending.currentTopicIdx) final queries reached last)
    (unfinished : last.completed? = none) :
    Segment sessionId topics pending.currentTopicIdx (queries ++ [last]) last.index := by
  have before := loop_segment handle settings sessionId topics call env own pending start final
    queries reached trace
  have current : topics[last.index]? = some last.topic := by
    have found := next.next
    rw [List.getElem?_drop] at found
    rw [next.position]
    exact found
  constructor
  · intro attempts progress
    rw [← List.append_assoc]
    apply Progress.retry _ last.index last
    · rw [next.position]
      exact before.advances attempts progress
    · exact current
    · exact unfinished
  · intro query member
    rcases List.mem_append.mp member with earlier | now
    · exact before.about query earlier
    · rw [List.mem_singleton.mp now, AsksAbout, next.forwards, ← own]
      exact ⟨rfl, rfl⟩
  · intro query member answer given
    rcases List.mem_append.mp member with earlier | now
    · exact before.answers query earlier answer given
    · rw [List.mem_singleton.mp now] at given ⊢
      rw [← forwarded_to_current settings call pending last next.forwards answer given]
      exact current

theorem unfinished_of_question
    (query : TopicQuery)
    (result : QueryResponse)
    (answered : query.outcome = .ok result)
    (asks : result.requiresUserInput = true) : query.completed? = none := by
  rw [TopicQuery.completed?, answered]
  exact if_pos asks

theorem course_decomposes
    (world : BriefingWorld Handler)
    (input : BriefingCall × BriefingEnvironment Env)
    (one : OneBriefing sessionId agenda topics world input)
    (fresh : world.pendings.get? input.1.sessionId = none) :
    input.2.decompose input.1.agendaText input.1.projects = .ok topics := by
  rw [one.session] at fresh
  rcases one.opens fresh with ⟨text, decomposed⟩
  rw [text]
  exact decomposed

theorem stopped_stands
    (before : BriefingTable)
    (final : BriefingState Handler)
    (index reached : Nat)
    (completed : OrderedDict String QueryResponse)
    (topic : AgendaTopic)
    (stored : final.pendings = before.set sessionId
      ((pendingAt sessionId agenda topics index completed).stoppedAt reached final.completed))
    (current : topics[reached]? = some topic) :
    StandsAt sessionId agenda topics final.close reached final.completed := by
  apply StandsAt.stored
  · change final.pendings.get? sessionId = _
    rw [stored]
    exact OrderedDict.get?_set_self _ _ _
  · exact (List.getElem?_eq_some_iff.mp current).1

/-- Every call of the course ends as `CallCourse` has it. -/
theorem call_course
    (world : BriefingWorld Handler)
    (index : Nat)
    (completed : OrderedDict String QueryResponse)
    (stands : StandsAt sessionId agenda topics world index completed)
    (input : BriefingCall × BriefingEnvironment Env)
    (one : OneBriefing sessionId agenda topics world input) :
    CallCourse settings sessionId agenda topics index completed input
      (courseStep handle settings world input).1 (courseStep handle settings world input).2 := by
  have ended := briefing_step_end handle settings input.2 input.1 world
  have works := course_works_on sessionId agenda topics world index completed stands input one
  have decomposes := course_decomposes sessionId agenda topics world input one
  rw [courseStep]
  generalize (briefingStep handle settings world input.1 input.2).1 = next at ended ⊢
  generalize (briefingStep handle settings world input.1 input.2).2 = record at ended ⊢
  cases ended with
  | undecomposed message fresh failed =>
      exact absurd (failed.symm.trans (decomposes fresh)) (by simp)
  | decomposerRaised error fresh failed =>
      exact absurd (failed.symm.trans (decomposes fresh)) (by simp)
  | noTopics fresh decomposed =>
      have empty : [] = topics := Except.ok.inj (decomposed.symm.trans (decomposes fresh))
      exact .noTopics world empty.symm
  | handlerRaised pending error final opened ended =>
      cases ended with
      | raises _ queries reached last _ trace next failed queried kept =>
          have listed : final.queried = queries ++ [last] := queried
          apply CallCourse.raised
          rw [listed]
          exact ⟨last, List.mem_append_right _ (List.mem_singleton_self last), failed⟩
  | asked pending question final opened ended =>
      rcases works pending opened with ⟨rfl, _⟩
      cases ended with
      | asks _ queries reached last result trace next answered asks queried stored =>
          have listed : final.queried = queries ++ [last] := queried
          have unfinished := unfinished_of_question last result answered asks
          have gathered : final.completed = recordResults completed (queries ++ [last]) := by
            rw [record_results_append, record_results_unfinished _ last unfinished]
            exact trace.completed
          have current : topics[last.index]? = some last.topic :=
            next_query_inside handle settings input.2 input.1 _ final queries reached last next
          have segment := loop_segment_asked handle settings sessionId topics input.1 input.2
            one.session _ _ final queries reached trace last next unfinished
          rw [← listed] at segment gathered
          have stands := stopped_stands sessionId agenda topics world.pendings final index last.index
            completed last.topic stored current
          rw [gathered] at stands
          apply CallCourse.asked final.close final.queried last.index last.topic _ segment current
            stands
          rw [listed]
          exact ⟨last, List.mem_append_right _ (List.mem_singleton_self last), result, answered,
            asks⟩
  | concluded pending final opened ended =>
      rcases works pending opened with ⟨rfl, inside⟩
      cases ended with
      | finished _ queries trace all queried kept =>
          have listed : final.queried = queries := queried
          have segment := loop_segment handle settings sessionId topics input.1 input.2
            one.session _ _ final queries _ trace
          have reached : index + queries.length = topics.length := by
            have left : queries.length = topics.length - index := by
              rw [all]
              exact List.length_drop
            omega
          change Segment sessionId topics index queries (index + queries.length) at segment
          rw [reached] at segment
          rw [trace.completed, trace.errors, listed]
          exact .concluded _ queries (List.length_pos_iff.mp (by omega)) segment

/-- What the calls of a briefing have achieved while they all returned questions. -/
structure CourseSoFar (world : BriefingWorld Handler) (past : List BriefingRecord)
    (index : Nat) : Prop where
  progress : TopicProgress topics (queriesOf past) index
  stands : StandsAt sessionId agenda topics world index (recordResults ∅ (queriesOf past))
  about : ∀ query ∈ queriesOf past, AsksAbout sessionId query
  answers : past.IsChain AnswersNamed
  named : ∀ record ∈ past.getLast?, ∀ topic, topics[index]? = some topic →
    NamesTopic record topic.topicId

theorem queries_of_snoc
    (past : List BriefingRecord)
    (record : BriefingRecord) :
    queriesOf (past ++ [record]) = queriesOf past ++ record.queried := by
  simp [queriesOf]

/-- One more call of the course keeps the order, the addressees and the answers. -/
theorem course_extend
    (world : BriefingWorld Handler)
    (past : List BriefingRecord)
    (index : Nat)
    (soFar : CourseSoFar sessionId agenda topics world past index)
    (outcome : Except PyError BriefingResponse)
    (queried : List TopicQuery)
    (reached : Nat)
    (segment : Segment sessionId topics index queried reached) :
    TopicProgress topics (queriesOf (past ++ [⟨outcome, queried⟩])) reached ∧
      (∀ query ∈ queriesOf (past ++ [⟨outcome, queried⟩]), AsksAbout sessionId query) ∧
      List.IsChain AnswersNamed (past ++ [⟨outcome, queried⟩]) := by
  rw [queries_of_snoc]
  constructor
  · exact segment.advances _ soFar.progress
  constructor
  · intro query member
    rcases List.mem_append.mp member with earlier | now
    · exact soFar.about query earlier
    · exact segment.about query now
  · apply List.isChain_append.mpr
    refine ⟨soFar.answers, List.IsChain.singleton _, ?_⟩
    intro earlier last later head query member answer given
    rw [List.head?_cons, Option.mem_some_iff] at head
    subst head
    exact soFar.named earlier last query.topic (segment.answers query member answer given)

theorem course_step
    (world : BriefingWorld Handler)
    (past : List BriefingRecord)
    (index : Nat)
    (soFar : CourseSoFar sessionId agenda topics world past index)
    (input : BriefingCall × BriefingEnvironment Env)
    (one : OneBriefing sessionId agenda topics world input)
    (asks : AsksUser (courseStep handle settings world input).2) :
    ∃ reached, CourseSoFar sessionId agenda topics (courseStep handle settings world input).1
      (past ++ [(courseStep handle settings world input).2]) reached := by
  have course := call_course handle settings sessionId agenda topics world index _ soFar.stands
    input one
  generalize (courseStep handle settings world input).1 = next at course ⊢
  generalize (courseStep handle settings world input).2 = record at course asks ⊢
  rcases asks with ⟨response, returned, asks⟩
  cases course with
  | noTopics empty =>
      cases returned
      cases asks
  | raised error queried failed => cases returned
  | concluded queried some segment =>
      have reports := conclude_briefing_reports settings _ _ _ _ _ response returned
      rw [reports.1] at asks
      cases asks
  | asked queried reached topic question segment current stands asks =>
      obtain ⟨progress, about, answers⟩ := course_extend sessionId agenda topics world past index
        soFar (.ok (pendingResponse input.1 topic question)) queried reached segment
      refine ⟨reached, progress, ?_, about, answers, ?_⟩
      · rw [queries_of_snoc, record_results_append]
        exact stands
      · intro record last other here
        rw [List.getLast?_concat, Option.mem_some_iff] at last
        subst last
        rw [current] at here
        cases here
        exact ⟨_, rfl, rfl⟩

theorem course_start
    (world : BriefingWorld Handler)
    (fresh : world.pendings.get? sessionId = none) :
    CourseSoFar sessionId agenda topics world [] 0 := by
  constructor
  · exact Progress.start
  · exact StandsAt.fresh fresh
  · intro query member
    cases member
  · exact List.IsChain.nil
  · intro record last
    cases last

theorem course_run
    (world : BriefingWorld Handler)
    (fresh : world.pendings.get? sessionId = none)
    (inputs : List (BriefingCall × BriefingEnvironment Env))
    (one : EveryStep (courseStep handle settings) (OneBriefing sessionId agenda topics) world
      inputs)
    (asks : ∀ record ∈ (run (courseStep handle settings) world inputs).2, AsksUser record) :
    ∃ index, CourseSoFar sessionId agenda topics (run (courseStep handle settings) world inputs).1
      (run (courseStep handle settings) world inputs).2 index := by
  have steps := (outputs_iff_every_step AsksUser
    (fun world input => AsksUser (courseStep handle settings world input).2) world inputs
    fun _ _ _ => Iff.rfl).mp asks
  apply run_history_invariant
    (fun world past => ∃ index, CourseSoFar sessionId agenda topics world past index)
    _ world [] inputs _ (every_step_and world inputs one steps)
  · intro world past input soFar allowed
    rcases soFar with ⟨index, soFar⟩
    exact course_step handle settings sessionId agenda topics world past index soFar input
      allowed.1 allowed.2
  · exact ⟨0, course_start sessionId agenda topics world fresh⟩

def InAgendaOrder (earlier later : TopicQuery) : Prop :=
  ∃ first second : Nat, topics[first]? = some earlier.topic ∧
    topics[second]? = some later.topic ∧ first ≤ second

def NotAgain (earlier later : TopicQuery) : Prop :=
  ∀ result, earlier.completed? = some result → later.topic.topicId ≠ earlier.topic.topicId

/-- The section is the topic's, with the data of a result that the topic itself returned. -/
def FromOwnResult (queries : List TopicQuery) (topic : AgendaTopic)
    (briefed : BriefingSection) : Prop :=
  briefed.topicId = topic.topicId ∧ ∃ query ∈ queries, ∃ result,
    query.topic = topic ∧ query.completed? = some result ∧
      briefed.jql = result.jql ∧ briefed.totalFound = result.total

/-- What the calls of a briefing up to `response` did with its topics. -/
structure CompletesInOrder (records : List BriefingRecord) (response : BriefingResponse) :
    Prop where
  onAgenda : ∀ query ∈ queriesOf records, query.topic ∈ topics
  about : ∀ query ∈ queriesOf records, AsksAbout sessionId query
  agendaOrder : (queriesOf records).Pairwise (InAgendaOrder topics)
  notAgain : (queriesOf records).Pairwise NotAgain
  answers : records.IsChain AnswersNamed
  once : response.requiresUserInput = false →
    (topicCompletions (queriesOf records)).map Prod.fst = topics
  sections : response.requiresUserInput = false →
    List.Forall₂ (FromOwnResult (queriesOf records)) topics response.sections

theorem in_turn_agenda_order
    (earlier later : TopicQuery)
    (turn : InTurn TopicQuery.topic TopicQuery.completed? topics earlier later) :
    InAgendaOrder topics earlier later := by
  rcases turn with ⟨first, second, here, there, ordered, _⟩
  exact ⟨first, second, here, there, ordered⟩

theorem in_turn_not_again
    (distinct : (topics.map AgendaTopic.topicId).Nodup)
    (earlier later : TopicQuery)
    (turn : InTurn TopicQuery.topic TopicQuery.completed? topics earlier later) :
    NotAgain earlier later := by
  rcases turn with ⟨first, second, here, there, _, apart⟩
  intro result done same
  have before := apart result done
  have equal := ListRules.position_of_name AgendaTopic.topicId topics distinct first second _ _
    here there same.symm
  omega

/-- In a finished briefing every topic has a completed query, whose result is
the one filed under its id. -/
theorem finished_topic_result
    (distinct : (topics.map AgendaTopic.topicId).Nodup)
    (queries : List TopicQuery)
    (finished : (topicCompletions queries).map Prod.fst = topics)
    (topic : AgendaTopic)
    (member : topic ∈ topics) :
    ∃ query ∈ queries, ∃ result, query.topic = topic ∧ query.completed? = some result ∧
      (recordResults ∅ queries).get? topic.topicId = some result := by
  have ids : ((topicCompletions queries).map fun entry => entry.1.topicId).Nodup := by
    rw [← finished, List.map_map] at distinct
    exact distinct
  rw [← finished] at member
  rcases List.mem_map.mp member with ⟨⟨done, result⟩, listed, same⟩
  cases same
  rcases (mem_completions _ _ queries _).mp listed with ⟨query, asked, about, completed⟩
  exact ⟨query, asked, result, about, completed, get_record_results queries ids done result listed⟩

theorem sections_from_results
    (distinct : (topics.map AgendaTopic.topicId).Nodup)
    (queries : List TopicQuery)
    (finished : (topicCompletions queries).map Prod.fst = topics)
    (sections : List BriefingSection)
    (reports : List.Forall₂ (ReportsResult (recordResults ∅ queries)) topics sections) :
    List.Forall₂ (FromOwnResult queries) topics sections := by
  have results := finished_topic_result topics distinct queries finished
  apply ((List.forall₂_and_left topics sections).mpr ⟨results, reports⟩).imp
  intro topic briefed both
  rcases both with ⟨⟨query, asked, result, about, completed, filed⟩, named, jql, total⟩
  rw [filed] at jql total
  exact ⟨named, query, asked, result, about, completed, jql, total⟩

/-- The calls so far followed by one that returns `response`. -/
theorem course_completes
    (distinct : (topics.map AgendaTopic.topicId).Nodup)
    (world : BriefingWorld Handler)
    (past : List BriefingRecord)
    (index : Nat)
    (soFar : CourseSoFar sessionId agenda topics world past index)
    (outcome : Except PyError BriefingResponse)
    (queried : List TopicQuery)
    (reached : Nat)
    (segment : Segment sessionId topics index queried reached)
    (response : BriefingResponse)
    (final : response.requiresUserInput = false → topics.take reached = topics ∧
      List.Forall₂ (ReportsResult (recordResults (recordResults ∅ (queriesOf past)) queried))
        topics response.sections) :
    CompletesInOrder sessionId topics (past ++ [⟨outcome, queried⟩]) response := by
  obtain ⟨progress, about, answers⟩ := course_extend sessionId agenda topics world past index
    soFar outcome queried reached segment
  have turns := progress_in_turn progress
  have finished : response.requiresUserInput = false →
      (topicCompletions (queriesOf (past ++ [⟨outcome, queried⟩]))).map Prod.fst = topics := by
    intro silent
    exact (progress_completions progress).trans (final silent).1
  constructor
  · intro query member
    rcases progress_position progress query member with ⟨position, found, _⟩
    exact List.mem_of_getElem? found
  · exact about
  · apply turns.imp
    intro earlier later turn
    exact in_turn_agenda_order topics earlier later turn
  · apply turns.imp
    intro earlier later turn
    exact in_turn_not_again topics distinct earlier later turn
  · exact answers
  · exact finished
  · intro silent
    have reports := (final silent).2
    rw [← record_results_append, ← queries_of_snoc past ⟨outcome, queried⟩] at reports
    exact sections_from_results topics distinct _ (finished silent) _ reports

theorem no_queries_segment
    (index : Nat) : Segment sessionId topics index [] index := by
  constructor
  · intro attempts progress
    rw [List.append_nil]
    exact progress
  · intro query member
    cases member
  · intro query member
    cases member

/-- Up to the final response the topics are asked about in agenda order, none
again after it was completed, answers go to the topic that asked, and the final
response has one section a topic, made from the topic's own result. -/
theorem topics_completed_in_order
    (distinct : (topics.map AgendaTopic.topicId).Nodup)
    (world : BriefingWorld Handler)
    (fresh : world.pendings.get? sessionId = none)
    (earlier : List (BriefingCall × BriefingEnvironment Env))
    (last : BriefingCall × BriefingEnvironment Env)
    (one : EveryStep (courseStep handle settings) (OneBriefing sessionId agenda topics) world
      (earlier ++ [last]))
    (asked : ∀ record ∈ (run (courseStep handle settings) world earlier).2, AsksUser record)
    (response : BriefingResponse)
    (returned : (courseStep handle settings
      (run (courseStep handle settings) world earlier).1 last).2.outcome = .ok response) :
    CompletesInOrder sessionId topics
      (run (courseStep handle settings) world (earlier ++ [last])).2 response := by
  rcases every_step_append world earlier last one with ⟨front, back⟩
  obtain ⟨index, soFar⟩ := course_run handle settings sessionId agenda topics world fresh earlier
    front asked
  rw [run_snoc]
  generalize (run (courseStep handle settings) world earlier).2 = past at soFar ⊢
  generalize (run (courseStep handle settings) world earlier).1 = middle at soFar back returned ⊢
  have course := call_course handle settings sessionId agenda topics middle index _ soFar.stands
    last back
  generalize (courseStep handle settings middle last).1 = next at course
  generalize (courseStep handle settings middle last).2 = record at course returned ⊢
  have completes := course_completes sessionId agenda topics distinct middle past index soFar
  cases course with
  | raised error queried failed => cases returned
  | noTopics empty =>
      cases returned
      apply completes _ [] index (no_queries_segment sessionId topics index)
      intro _
      subst empty
      exact ⟨List.take_nil, List.Forall₂.nil⟩
  | asked queried reached topic question segment current stands asks =>
      cases returned
      apply completes _ queried reached segment
      intro silent
      cases silent
  | concluded queried some segment =>
      rcases conclude_briefing_reports settings _ _ _ _ _ response returned with ⟨_, reports⟩
      apply completes _ queried topics.length segment
      intro _
      exact ⟨List.take_length, reports⟩

end Course

def partialFinals (call : QueryCall) : QueryResponse :=
  if call.query = firstTopic.suggestedQuery then
    { foundOne call with errors := ["only the first page was read"] }
  else foundOne call

def askingScript (call : QueryCall) : Except PyError QueryResponse :=
  if call.query = secondTopic.suggestedQuery then
    .ok { sessionId := call.sessionId
          requiresUserInput := true
          clarificationQuestion := some "Which week?" }
  else .ok (partialFinals call)

def questionCall : BriefingCall × BriefingEnvironment (QueryCall → Except PyError QueryResponse) :=
  (sampleBriefing, scriptedEnvironment askingScript)

def answerCall : BriefingCall × BriefingEnvironment (QueryCall → Except PyError QueryResponse) :=
  ({ sampleBriefing with clarificationAnswer := some "this week" },
    scriptedEnvironment fun call => .ok (partialFinals call))

theorem answered_course_one_briefing :
    EveryStep (courseStep scriptedHandle {}) (OneBriefing "s" "daily" [firstTopic, secondTopic])
      { handler := () } ([questionCall] ++ [answerCall]) := by
  refine ⟨⟨rfl, fun _ => ⟨rfl, rfl⟩⟩, ⟨rfl, ?_⟩, trivial⟩
  intro fresh
  cases fresh

theorem question_call_asks :
    ∀ record ∈ (run (courseStep scriptedHandle {}) { handler := () } [questionCall]).2,
      AsksUser record := by
  intro record member
  cases List.mem_singleton.mp member
  exact ⟨_, rfl, rfl⟩

theorem answered_course_in_order :
    ∃ response, response.requiresUserInput = false ∧
      CompletesInOrder "s" [firstTopic, secondTopic]
        (run (courseStep scriptedHandle {}) { handler := () } ([questionCall] ++ [answerCall])).2
        response :=
  ⟨_, rfl, topics_completed_in_order scriptedHandle {} "s" "daily" [firstTopic, secondTopic]
    (by decide) { handler := () } rfl [questionCall] answerCall answered_course_one_briefing
    question_call_asks _ rfl⟩

end AtlasMindNetra.BriefingOrchestrator
