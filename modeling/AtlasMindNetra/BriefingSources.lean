import AtlasMindNetra.AnalysisIsolation
import AtlasMindNetra.BriefingCourse
import AtlasMindNetra.RankingOrder
import AtlasMindNetra.SectionCap

/-!
# Where the issues of a briefing come from

A briefing ranks what the analyser says about the issues that the backend found
for each topic. Over a whole run of the server, with one analyser and its cache
for all briefings, an issue shown for a topic is an issue that a query about
this topic found, and its facts are those of details that the backend gave for
its key, or it is a placeholder that says why it has none.
-/

namespace AtlasMindNetra.BriefingSources

open AtlasMindNetra.PythonValues AtlasMindNetra.ResponseModels AtlasMindNetra.EffectRules
open AtlasMindNetra.RunRules AtlasMindNetra.CacheRules AtlasMindNetra.IssueAnalyser
open AtlasMindNetra.RankingEngine AtlasMindNetra.BriefingOrchestrator
open AtlasMindNetra.Orchestrator (QueryCall)

set_option autoImplicit false

section Analyser

variable (tables : AnalyserTables) (config : AnalyserConfig) (limit : Nat)

/-- The facts of details that one of the calls brought for the key. References
may have been attached later. -/
def FromDetails (calls : List AnalyseCall) (key : String) (result : BlockerAnalysis) : Prop :=
  ∃ call ∈ calls, ∃ issue today, (issueMap call.issueDetails).get? key = some issue ∧
    factsOf result =
      { freshFacts tables config (workFor call key today issue) with
        confluenceRefs := result.confluenceRefs }

/-- An analysis of this issue with such facts, or a placeholder with the reason. -/
def Sourced (calls : List AnalyseCall) (key : String) (result : BlockerAnalysis) : Prop :=
  (result.issueKey = key ∧ FromDetails tables config calls key result) ∨
    ∃ reason, result = degraded key reason

def SourcedSlot (calls : List AnalyseCall) (slot : Slot) : Prop :=
  match slot.phase with
  | .waiting => True
  | .asking work =>
      ∃ call ∈ calls, ∃ issue today, (issueMap call.issueDetails).get? slot.key = some issue ∧
        work = workFor call slot.key today issue
  | .returned result | .failed result => Sourced tables config calls slot.key result

def SharedAnalyser.asked (state : SharedAnalyser) : List AnalyseCall :=
  state.calls.map ActiveCall.call

def SourcedCache (calls : List AnalyseCall) (cache : AnalysisCache) : Prop :=
  Sound (fun key cached => cached.issueKey = key.1 ∧ FromDetails tables config calls key.1 cached)
    cache

/-- Whatever is cached or returned has the facts of details of some call so far. -/
structure SourcedState (state : SharedAnalyser) : Prop where
  cache : SourcedCache tables config (SharedAnalyser.asked state) state.cache
  slots : ∀ active ∈ state.calls, ∀ slot ∈ active.slots,
    SourcedSlot tables config (SharedAnalyser.asked state) slot

variable {tables config}

theorem from_details_later
    (calls more : List AnalyseCall)
    (key : String)
    (result : BlockerAnalysis)
    (backed : FromDetails tables config calls key result) :
    FromDetails tables config (calls ++ more) key result := by
  obtain ⟨call, member, issue, today, found, facts⟩ := backed
  exact ⟨call, List.mem_append_left more member, issue, today, found, facts⟩

theorem sourced_slot_later
    (calls more : List AnalyseCall)
    (slot : Slot)
    (sourced : SourcedSlot tables config calls slot) :
    SourcedSlot tables config (calls ++ more) slot := by
  rcases slot with ⟨key, phase⟩
  have result (result : BlockerAnalysis) (given : Sourced tables config calls key result) :
      Sourced tables config (calls ++ more) key result := by
    rcases given with ⟨named, backed⟩ | placeholder
    · exact Or.inl ⟨named, from_details_later calls more key result backed⟩
    · exact Or.inr placeholder
  cases phase with
  | waiting => trivial
  | asking work =>
      obtain ⟨call, member, issue, today, found, same⟩ := sourced
      exact ⟨call, List.mem_append_left more member, issue, today, found, same⟩
  | returned given => exact result given sourced
  | failed given => exact result given sourced

theorem reattached_from_details
    (calls : List AnalyseCall)
    (key : String)
    (refs : List ConfluenceReference)
    (cached : BlockerAnalysis)
    (backed : FromDetails tables config calls key cached) :
    FromDetails tables config calls key (reattached refs cached) := by
  obtain ⟨call, member, issue, today, found, facts⟩ := backed
  refine ⟨call, member, issue, today, found, ?_⟩
  rw [reattached_facts, facts]

theorem slot_step_sourced
    (calls : List AnalyseCall)
    (call : AnalyseCall)
    (known : call ∈ calls)
    (today : Int)
    (cache : AnalysisCache)
    (slot : Slot)
    (part : BatchInput)
    (sound : SourcedCache tables config calls cache)
    (here : SourcedSlot tables config calls slot) :
    SourcedCache tables config calls (slotStep tables config call today cache slot part).1.cache ∧
      SourcedSlot tables config calls
        { slot with
          phase := slot.phase.after (slotStep tables config call today cache slot part).2 } := by
  rcases slot with ⟨key, phase⟩
  cases part with
  | start position =>
      cases phase with
      | waiting =>
          simp only [slotStep, startKey]
          cases found : (issueMap call.issueDetails).get? key with
          | none => exact ⟨sound, Or.inr ⟨_, rfl⟩⟩
          | some issue =>
              dsimp only
              cases hit : cachedFor { cache, running := [] } call (workFor call key today issue) with
              | none => exact ⟨sound, call, known, issue, today, found, rfl⟩
              | some cached =>
                  have stored := sound _ cached (cached_for_some _ call _ cached hit)
                  refine ⟨sound, Or.inl ⟨(reattached_key _ cached).trans stored.1, ?_⟩⟩
                  exact reattached_from_details calls key _ cached stored.2
      | asking work => exact ⟨sound, here⟩
      | returned result => exact ⟨sound, here⟩
      | failed result => exact ⟨sound, here⟩
  | answer position reply =>
      cases phase with
      | waiting => exact ⟨sound, here⟩
      | asking work =>
          obtain ⟨source, member, issue, day, found, same⟩ := here
          dsimp only at found same
          subst same
          simp only [slotStep, answerKey, List.getElem?_cons_zero]
          cases outcome : analyseOne tables config (fun _ => reply)
              (workFor source key day issue) with
          | error error => exact ⟨sound, Or.inr ⟨_, rfl⟩⟩
          | ok result =>
              have named : result.issueKey = key :=
                (analyse_one_key tables config _ _ result outcome).trans
                  (issue_map_key source.issueDetails key issue found)
              have facts := analyse_one_facts tables config _ _ result outcome
              have refs : result.confluenceRefs = (workFor source key day issue).refs :=
                congrArg Facts.confluenceRefs facts
              have backed : FromDetails tables config calls key result := by
                refine ⟨source, member, issue, day, found, ?_⟩
                rw [facts, refs]
                rfl
              constructor
              · apply write_back_sound config cache _ result sound (fun _ => sound)
                · exact fun _ => ⟨named, backed⟩
                · exact fun _ _ _ _ kept => kept
              · exact Or.inl ⟨named, backed⟩
      | returned result => exact ⟨sound, here⟩
      | failed result => exact ⟨sound, here⟩

theorem shared_step_sourced
    (state : SharedAnalyser)
    (input : SharedInput)
    (sourced : SourcedState tables config state) :
    SourcedState tables config (sharedStep tables config limit state input).1 := by
  rcases shared_step_cases tables config limit state input with
    ⟨call, keys, rfl⟩ | idle | ⟨caller, active, today, part, slot, -, there, here, step⟩
  · have more : SharedAnalyser.asked (sharedStep tables config limit state (.analyse call keys)).1 =
        SharedAnalyser.asked state ++ [call] := List.map_append
    constructor
    · rw [more]
      exact sound_weaken sourced.cache fun key cached stored =>
        ⟨stored.1, from_details_later _ [call] key.1 cached stored.2⟩
    · rw [more]
      intro active member slot inSlots
      rcases List.mem_append.mp member with old | new
      · exact sourced_slot_later _ [call] slot (sourced.slots active old slot inSlots)
      · rw [List.mem_singleton.mp new] at inSlots
        obtain ⟨key, _, rfl⟩ := List.mem_map.mp inSlots
        trivial
  · rw [idle]
    exact sourced
  · have inCalls := List.mem_of_getElem? there
    have known : active.call ∈ SharedAnalyser.asked state := List.mem_map_of_mem inCalls
    have kept := slot_step_sourced (SharedAnalyser.asked state) active.call known today state.cache
      slot part sourced.cache (sourced.slots active inCalls slot (List.mem_of_getElem? here))
    rw [step]
    have same : SharedAnalyser.asked
        { cache := (slotStep tables config active.call today state.cache slot part).1.cache
          calls := state.calls.set caller
            { active with
              slots := active.slots.set part.position
                { slot with
                  phase := slot.phase.after
                    (slotStep tables config active.call today state.cache slot part).2 } } } =
          SharedAnalyser.asked state :=
      ListRules.labels_of_set ActiveCall.call state.calls caller active _ there rfl
    constructor
    · rw [same]
      exact kept.1
    · rw [same]
      intro other member
      rcases List.mem_or_eq_of_mem_set member with old | rfl
      · exact sourced.slots other old
      · intro another inSlots
        rcases List.mem_or_eq_of_mem_set inSlots with before | rfl
        · exact sourced.slots active inCalls another before
        · exact kept.2

theorem run_sourced (inputs : List SharedInput) :
    SourcedState tables config (run (sharedStep tables config limit) idleAnalyser inputs).1 := by
  apply run_invariant (SourcedState tables config) _ _ inputs
  · exact ⟨sound_empty _, fun active none => absurd none List.not_mem_nil⟩
  · exact every_step_always (fun _ _ => trivial) _ inputs
  · exact fun state input sourced _ => shared_step_sourced limit state input sourced

end Analyser

section Sections

variable (tables : AnalyserTables) (config : AnalyserConfig)

def callOf (request : AnalyseRequest) : AnalyseCall where
  issueDetails := request.details
  summaries := request.summaries
  confluenceRefs := request.confluenceRefs
  forceRefresh := request.forceRefresh

/-- What the pipeline is told about a request is what a call of the analyser returned for it. -/
def FedBy (state : SharedAnalyser) (env : PipelineSide) : Prop :=
  ∀ request results, env.analyse request = .ok results →
    ∃ active ∈ state.calls, active.call = callOf request ∧
      active.slots.map Slot.key = request.keys ∧ active.Returns results

section Ranking

variable (isoDate : String → Option Int) (rule : RankingRule) (today : Int)
variable (settings : BriefingSettings) (calls : List AnalyseCall)

/-- The section ranks issues that were found for its topic, by their own facts. -/
structure SourcedSection (completed : OrderedDict String QueryResponse)
    (briefed : BriefingSection) : Prop where
  ordered : briefed.topIssues.Pairwise fun first second => second.score ≤ first.score
  few : briefed.topIssues.length ≤ settings.topN
  found : ∀ issue ∈ briefed.topIssues, ∃ result, completed.get? briefed.topicId = some result ∧
    ∃ row ∈ result.issues, issueKey row = some issue.issueKey
  facts : ∀ issue ∈ briefed.topIssues, ∃ analysis,
    Sourced tables config calls issue.issueKey analysis ∧
      issue = scored isoDate rule today analysis

end Ranking

variable {tables config}

theorem sourced_key
    (calls : List AnalyseCall)
    (key : String)
    (result : BlockerAnalysis)
    (sourced : Sourced tables config calls key result) : result.issueKey = key := by
  rcases sourced with ⟨named, _⟩ | ⟨reason, rfl⟩
  · exact named
  · rfl

theorem returned_sourced
    (calls : List AnalyseCall)
    (active : ActiveCall)
    (sourced : ∀ slot ∈ active.slots, SourcedSlot tables config calls slot)
    (results : List BlockerAnalysis)
    (returns : active.Returns results)
    (result : BlockerAnalysis)
    (member : result ∈ results) : Sourced tables config calls result.issueKey result := by
  have shown : some result ∈ active.slots.map Slot.result? := by
    rw [returns]
    exact List.mem_map_of_mem member
  obtain ⟨⟨key, phase⟩, inSlots, answered⟩ := List.mem_map.mp shown
  have here := sourced _ inSlots
  cases phase with
  | waiting => cases answered
  | asking work => cases answered
  | returned other =>
      cases answered
      rw [sourced_key calls key result here]
      exact here
  | failed other =>
      cases answered
      rw [sourced_key calls key result here]
      exact here

theorem analysis_map_member
    (analyses : List BlockerAnalysis)
    (key : String)
    (analysis : BlockerAnalysis)
    (found : (analysisMap analyses).get? key = some analysis) : analysis ∈ analyses := by
  unfold analysisMap at found
  induction analyses using List.reverseRecOn with
  | nil => cases found
  | append_singleton earlier last ih =>
      rw [List.foldl_append, List.foldl_cons, List.foldl_nil, OrderedDict.get?_set] at found
      split_ifs at found with same
      · rw [← Option.some.inj found]
        exact List.mem_append_right earlier (List.mem_singleton_self last)
      · exact List.mem_append_left [last] (ih found)

theorem keys_by_topic_get
    (completed : OrderedDict String QueryResponse)
    (topics : List AgendaTopic)
    (topicId : String)
    (keys : List String)
    (found : (keysByTopic completed topics).get? topicId = some keys) :
    keys = ((completed.get? topicId).map fun result => result.issues.filterMap issueKey).getD [] := by
  unfold keysByTopic at found
  induction topics using List.reverseRecOn with
  | nil => cases found
  | append_singleton earlier last ih =>
      rw [List.foldl_append, List.foldl_cons, List.foldl_nil, OrderedDict.get?_set] at found
      split_ifs at found with same
      · rw [← Option.some.inj found, topicKeys, same]
        cases completed.get? last.topicId with
        | none => rfl
        | some result => rfl
      · exact ih found

section Ranked

variable (isoDate : String → Option Int) (rule : RankingRule) (today : Int)

theorem ranked_scored
    (analyses : List BlockerAnalysis)
    (topN : Option Int)
    (item : BlockerAnalysis)
    (member : item ∈ rank isoDate rule today analyses topN) :
    ∃ analysis ∈ analyses, item = scored isoDate rule today analysis := by
  unfold rank sliceTo at member
  have sorted : item ∈ (analyses.map (scored isoDate rule today)).insertionSort
      fun first second => second.score ≤ first.score := by
    split_ifs at member
    · exact List.mem_of_mem_take member
    · exact List.mem_of_mem_take member
  rw [List.mem_insertionSort] at sorted
  obtain ⟨analysis, given, same⟩ := List.mem_map.mp sorted
  exact ⟨analysis, given, same.symm⟩

theorem rank_length_le
    (analyses : List BlockerAnalysis)
    (count : Nat) :
    (rank isoDate rule today analyses (some (count : Int))).length ≤ count := by
  unfold rank sliceTo
  rw [Option.getD_some, if_neg (Int.not_lt.mpr (Int.natCast_nonneg count)), Int.toNat_natCast]
  exact List.length_take_le _ _

variable {isoDate rule today}

theorem built_section_sourced
    (settings : BriefingSettings)
    (calls : List AnalyseCall)
    (env : PipelineSide)
    (completed : OrderedDict String QueryResponse)
    (topics : List AgendaTopic)
    (dropped : OrderedDict String Nat)
    (analyses : List BlockerAnalysis)
    (sourced : ∀ analysis ∈ analyses, Sourced tables config calls analysis.issueKey analysis)
    (topic : AgendaTopic)
    (briefed : BriefingSection)
    (built : buildSection settings (withEngine isoDate rule today env) completed
      (keysByTopic completed topics) dropped (analysisMap analyses) topic = .ok briefed) :
    SourcedSection tables config isoDate rule today settings calls completed briefed := by
  cases built
  have listed (issue : BlockerAnalysis)
      (shown : issue ∈ rank isoDate rule today
        ((((keysByTopic completed topics).get? topic.topicId).getD []).filterMap
          (analysisMap analyses).get?) (some (settings.topN : Int))) :
      ∃ key ∈ ((keysByTopic completed topics).get? topic.topicId).getD [],
        ∃ analysis ∈ analyses, analysis.issueKey = key ∧
          issue = scored isoDate rule today analysis := by
    obtain ⟨analysis, given, same⟩ := ranked_scored isoDate rule today _ _ issue shown
    obtain ⟨key, inTopic, found⟩ := List.mem_filterMap.mp given
    exact ⟨key, inTopic, analysis, analysis_map_member analyses key analysis found,
      analysis_map_keyed analyses key analysis found, same⟩
  constructor
  · dsimp only
    exact rank_descends isoDate rule today _ _
  · exact rank_length_le isoDate rule today _ settings.topN
  · intro issue shown
    obtain ⟨key, inTopic, analysis, -, named, same⟩ := listed issue shown
    cases filed : (keysByTopic completed topics).get? topic.topicId with
    | none =>
        rw [filed] at inTopic
        exact absurd inTopic List.not_mem_nil
    | some keys =>
        rw [filed, Option.getD_some, keys_by_topic_get completed topics _ keys filed] at inTopic
        cases answered : completed.get? topic.topicId with
        | none =>
            rw [answered] at inTopic
            exact absurd inTopic List.not_mem_nil
        | some result =>
            rw [answered] at inTopic
            obtain ⟨row, inResult, keyed⟩ := List.mem_filterMap.mp inTopic
            refine ⟨result, rfl, row, inResult, ?_⟩
            rw [keyed, same]
            exact congrArg some named.symm
  · intro issue shown
    obtain ⟨key, -, analysis, given, -, same⟩ := listed issue shown
    refine ⟨analysis, ?_, same⟩
    rw [same]
    exact sourced analysis given

theorem built_sections_sourced
    (settings : BriefingSettings)
    (state : SharedAnalyser)
    (sourced : SourcedState tables config state)
    (env : PipelineSide)
    (fed : FedBy state env)
    (topics : List AgendaTopic)
    (completed : OrderedDict String QueryResponse)
    (refs : ConfluenceRefs)
    (forceRefresh : Bool)
    (sections : List BriefingSection)
    (errors : List String)
    (built : buildSections settings (withEngine isoDate rule today env) topics completed refs
      forceRefresh = .ok (sections, errors))
    (briefed : BriefingSection)
    (member : briefed ∈ sections) :
    SourcedSection tables config isoDate rule today settings (SharedAnalyser.asked state) completed
      briefed := by
  obtain ⟨details, ⟨analyses, analysisErrors⟩, _, analysed, looped, _⟩ :=
    build_sections_ok_iff.mp built
  have given : ∀ analysis ∈ analyses,
      Sourced tables config (SharedAnalyser.asked state) analysis.issueKey analysis := by
    intro analysis inResults
    unfold analyseIssues at analysed
    split_ifs at analysed with noKeys
    · cases analysed
      exact absurd inResults List.not_mem_nil
    · split at analysed
      · rename_i results answered
        cases analysed
        obtain ⟨active, inCalls, -, -, returns⟩ := fed _ _ answered
        exact returned_sourced _ active (sourced.slots active inCalls) _ returns analysis inResults
      · cases analysed
        exact absurd inResults List.not_mem_nil
      · cases analysed
  obtain ⟨topic, -, made⟩ := mapM_ok_member _ topics sections looped briefed member
  exact built_section_sourced settings _ env completed topics _ analyses given topic briefed made

end Ranked

end Sections

section Results

/-- A query about the topic, in the topic's own session, returned the result without a question. -/
def AnsweredBy (queries : List TopicQuery) (sessionId topicId : String)
    (result : QueryResponse) : Prop :=
  ∃ query ∈ queries, query.topic.topicId = topicId ∧ AsksAbout sessionId query ∧
    query.completed? = some result

def AllAnswered (queries : List TopicQuery) (sessionId : String)
    (completed : OrderedDict String QueryResponse) : Prop :=
  ∀ topicId result, completed.get? topicId = some result →
    AnsweredBy queries sessionId topicId result

def StoredAnswered (queries : List TopicQuery) (pendings : BriefingTable) : Prop :=
  ∀ sessionId pending, pendings.get? sessionId = some pending →
    pending.sessionId = sessionId ∧ AllAnswered queries sessionId pending.completedResults

theorem all_answered_later
    (queries more : List TopicQuery)
    (sessionId : String)
    (completed : OrderedDict String QueryResponse)
    (answered : AllAnswered queries sessionId completed) :
    AllAnswered (queries ++ more) sessionId completed := by
  intro topicId result found
  obtain ⟨query, member, about⟩ := answered topicId result found
  exact ⟨query, List.mem_append_left more member, about⟩

theorem all_answered_recorded
    (sessionId : String)
    (completed : OrderedDict String QueryResponse)
    (queries more : List TopicQuery)
    (answered : AllAnswered queries sessionId completed)
    (about : ∀ query ∈ more, AsksAbout sessionId query) :
    AllAnswered (queries ++ more) sessionId (recordResults completed more) := by
  induction more using List.reverseRecOn with
  | nil =>
      rw [List.append_nil]
      exact answered
  | append_singleton earlier last ih =>
      have before := ih fun query member => about query (List.mem_append_left _ member)
      have later := all_answered_later (queries ++ earlier) [last] sessionId _ before
      rw [← List.append_assoc, record_results_append]
      cases done : last.completed? with
      | none =>
          rw [record_results_unfinished _ last done]
          exact later
      | some result =>
          rw [record_results_cons _ _ result _ done]
          intro topicId other found
          rw [recordResults, List.foldl_nil, OrderedDict.get?_set] at found
          split_ifs at found with same
          · refine ⟨last, List.mem_append_right _ (List.mem_singleton_self last), same.symm, ?_⟩
            rw [← Option.some.inj found]
            exact ⟨about last (List.mem_append_right _ (List.mem_singleton_self last)), done⟩
          · exact later topicId other found

theorem stored_answered_later
    (queries more : List TopicQuery)
    (pendings : BriefingTable)
    (answered : StoredAnswered queries pendings) : StoredAnswered (queries ++ more) pendings := by
  intro sessionId pending found
  have before := answered sessionId pending found
  exact ⟨before.1, all_answered_later queries more sessionId _ before.2⟩

theorem stored_answered_erase
    (queries : List TopicQuery)
    (pendings : BriefingTable)
    (sessionId : String)
    (answered : StoredAnswered queries pendings) :
    StoredAnswered queries (pendings.erase sessionId) := by
  intro other pending found
  rw [OrderedDict.get?_erase] at found
  split_ifs at found
  exact answered other pending found

variable {Handler Env : Type}
variable (handle : Handler → QueryCall → Option ElicitFn → Env →
  Handler × Except PyError QueryResponse)
variable (settings : BriefingSettings) (env : BriefingEnvironment Env) (call : BriefingCall)

theorem works_on_answered
    (world : BriefingWorld Handler)
    (queries : List TopicQuery)
    (answered : StoredAnswered queries world.pendings)
    (pending : BriefingPendingState)
    (works : WorksOn env call world pending) :
    pending.sessionId = call.sessionId ∧
      AllAnswered queries call.sessionId pending.completedResults := by
  cases works with
  | stored _ found => exact answered call.sessionId pending found
  | opened topics fresh decomposed some =>
      refine ⟨rfl, ?_⟩
      intro topicId result found
      cases found

theorem loop_answered
    (pending : BriefingPendingState)
    (queries : List TopicQuery)
    (answered : AllAnswered queries call.sessionId pending.completedResults)
    (world : BriefingWorld Handler)
    (final : BriefingState Handler)
    (asked : List TopicQuery)
    (reached : Handler)
    (trace : LoopTrace handle settings env call pending pending.currentTopicIdx
      (pending.topics.drop pending.currentTopicIdx) (loopStart world pending) final asked
      reached) :
    AllAnswered (queries ++ asked) call.sessionId final.completed := by
  rw [trace.completed]
  apply all_answered_recorded call.sessionId _ queries asked answered
  intro query member
  rw [AsksAbout, trace.forwards query member]
  exact ⟨rfl, rfl⟩

theorem call_answered
    (world : BriefingWorld Handler)
    (queries : List TopicQuery)
    (answered : StoredAnswered queries world.pendings) :
    let next := (briefingStep handle settings world call env).1
    let record := (briefingStep handle settings world call env).2
    StoredAnswered (queries ++ record.queried) next.pendings ∧
      ∀ response, record.outcome = .ok response → response.sections = [] ∨
        ∃ pending completed errors,
          concludeBriefing settings env.pipeline call pending completed errors = .ok response ∧
            AllAnswered (queries ++ record.queried) call.sessionId completed := by
  intro next record
  have ended := briefing_step_end handle settings env call world
  change BriefingEnd handle settings env call world next record at ended
  generalize next = reachedWorld at ended ⊢
  generalize record = made at ended ⊢
  have same : StoredAnswered (queries ++ []) world.pendings :=
    stored_answered_later queries [] world.pendings answered
  cases ended with
  | undecomposed message fresh failed =>
      refine ⟨same, ?_⟩
      intro response returned
      cases returned
      exact Or.inl rfl
  | decomposerRaised error fresh failed =>
      refine ⟨same, ?_⟩
      intro response returned
      cases returned
  | noTopics fresh decomposed =>
      refine ⟨same, ?_⟩
      intro response returned
      cases returned
      exact Or.inl rfl
  | handlerRaised pending error final works ended =>
      constructor
      · cases ended with
        | raises _ asked reached last _ trace next failed queried kept =>
            change StoredAnswered _ final.pendings
            rw [kept]
            exact stored_answered_later queries _ world.pendings answered
      · intro response returned
        cases returned
  | asked pending question final works ended =>
      obtain ⟨own, before⟩ := works_on_answered env call world queries answered pending works
      cases ended with
      | asks _ asked reached last result trace next answer asks queried stored =>
          constructor
          · have gathered := loop_answered handle settings env call pending queries before world
              final asked reached trace
            have listed : final.queried = asked ++ [last] := queried
            have later := all_answered_later _ [last] call.sessionId _ gathered
            rw [List.append_assoc, ← listed] at later
            change StoredAnswered (queries ++ final.queried) final.pendings
            rw [stored, own]
            intro sessionId other found
            rw [OrderedDict.get?_set] at found
            split_ifs at found with here
            · rw [← Option.some.inj found, here]
              exact ⟨own, later⟩
            · exact stored_answered_later queries _ world.pendings answered sessionId other found
          · intro response returned
            cases returned
            exact Or.inl rfl
  | concluded pending final works ended =>
      obtain ⟨own, before⟩ := works_on_answered env call world queries answered pending works
      cases ended with
      | finished _ asked trace all queried kept =>
          have listed : final.queried = asked := queried
          have gathered := loop_answered handle settings env call pending queries before world
            final asked _ trace
          rw [← listed] at gathered
          constructor
          · change StoredAnswered (queries ++ final.queried) (final.pendings.erase call.sessionId)
            rw [kept]
            exact stored_answered_erase _ _ _
              (stored_answered_later queries _ world.pendings answered)
          · intro response returned
            exact Or.inr ⟨pending, final.completed, final.errors, returned, gathered⟩

def queriedIn (outputs : List (Option BriefingRecord)) : List TopicQuery :=
  queriesOf (outputs.filterMap id)

theorem queried_in_snoc
    (outputs : List (Option BriefingRecord))
    (output : Option BriefingRecord) :
    queriedIn (outputs ++ [output]) =
      queriedIn outputs ++ (output.map BriefingRecord.queried).getD [] := by
  cases output with
  | none => simp [queriedIn, queriesOf]
  | some record => simp [queriedIn, queriesOf]

theorem run_answered
    (handler : Handler)
    (inputs : List (BriefingInput Env)) :
    StoredAnswered (queriedIn (run (briefingWorldStep handle settings) { handler := handler } inputs).2)
      (run (briefingWorldStep handle settings) { handler := handler } inputs).1.pendings := by
  apply run_history_invariant
    (fun (world : BriefingWorld Handler) outputs =>
      StoredAnswered (queriedIn outputs) world.pendings)
    _ { handler := handler } [] inputs _ (every_step_always (fun _ _ => trivial) _ inputs)
  · intro world past input answered _
    rw [queried_in_snoc]
    cases input with
    | call call env => exact (call_answered handle settings env call world _ answered).1
    | expire sessionId =>
        exact stored_answered_later _ [] _
          (stored_answered_erase _ world.pendings sessionId answered)
  · intro sessionId pending found
    cases found

end Results

section System

variable {Handler Env : Type}
variable (handle : Handler → QueryCall → Option ElicitFn → Env →
  Handler × Except PyError QueryResponse)
variable (settings : BriefingSettings)
variable (tables : AnalyserTables) (config : AnalyserConfig) (limit : Nat)
variable (isoDate : String → Option Int) (rule : RankingRule) (today : Int)

/-- What a briefing shows for a topic: the issues with the highest scores first,
found by a query about the topic in the topic's own session, and scored by the
facts of details that some call of the analyser was given. -/
structure SourcedReport (queries : List TopicQuery) (calls : List AnalyseCall)
    (sessionId : String) (briefed : BriefingSection) : Prop where
  ordered : briefed.topIssues.Pairwise fun first second => second.score ≤ first.score
  few : briefed.topIssues.length ≤ settings.topN
  found : ∀ issue ∈ briefed.topIssues, ∃ result,
    AnsweredBy queries sessionId briefed.topicId result ∧
      ∃ row ∈ result.issues, issueKey row = some issue.issueKey
  facts : ∀ issue ∈ briefed.topIssues, ∃ analysis,
    Sourced tables config calls issue.issueKey analysis ∧
      issue = scored isoDate rule today analysis

/-- After any calls and expiries, a briefing shows no issue that was not found
for its topic, and no fact that its details do not have. -/
theorem shown_issues_are_sourced
    (handler : Handler)
    (inputs : List (BriefingInput Env))
    (analyses : List SharedInput)
    (call : BriefingCall)
    (env : BriefingEnvironment Env)
    (fed : FedBy (run (sharedStep tables config limit) idleAnalyser analyses).1 env.pipeline)
    (response : BriefingResponse) :
    let before := run (briefingWorldStep handle settings) { handler := handler } inputs
    let record := (briefingStep handle settings before.1 call
      { env with pipeline := withEngine isoDate rule today env.pipeline }).2
    record.outcome = .ok response →
      ∀ briefed ∈ response.sections,
        SourcedReport settings tables config isoDate rule today
          (queriedIn (before.2 ++ [some record]))
          (SharedAnalyser.asked
            (run (sharedStep tables config limit) idleAnalyser analyses).1)
          call.sessionId briefed := by
  intro before record returned briefed member
  have answered := run_answered handle settings handler inputs
  have ended := (call_answered handle settings
    { env with pipeline := withEngine isoDate rule today env.pipeline } call before.1 _
    answered).2 response returned
  rcases ended with empty | ⟨pending, completed, errors, concluded, filed⟩
  · rw [empty] at member
    exact absurd member List.not_mem_nil
  · have analyser : SourcedState tables config
        (run (sharedStep tables config limit) idleAnalyser analyses).1 := run_sourced limit analyses
    obtain ⟨sections, added, _, _, _, built, _, _, rfl⟩ := conclude_briefing_ok_iff.mp concluded
    have section' := built_sections_sourced settings _ analyser env.pipeline fed pending.topics
      completed _ call.forceRefresh sections added built briefed member
    constructor
    · exact section'.ordered
    · exact section'.few
    · intro issue shown
      obtain ⟨result, filedUnder, row, inResult, keyed⟩ := section'.found issue shown
      refine ⟨result, ?_, row, inResult, keyed⟩
      rw [queried_in_snoc]
      exact filed briefed.topicId result filedUnder
    · exact section'.facts

end System

deriving instance DecidableEq for AnalyseRequest

def sampleRequest : AnalyseRequest where
  details := { issues := [blockedIssue] }
  keys := ["CAR-101"]
  summaries := none
  confluenceRefs := none
  forceRefresh := false

def sampleAnalyser : SharedAnalyser :=
  (run (sharedStep sampleTables sampleConfig 1) idleAnalyser
    [.analyse (callOf sampleRequest) ["CAR-101"], .start 0 0 739801,
      .answer 0 0 (.ok sampleSuggestions)]).1

def samplePipeline : PipelineSide :=
  { quietPipeline with
    getIssueDetails := fun _ _ => .ok { issues := [blockedIssue] }
    analyse := fun request =>
      if request = sampleRequest then .ok sampleAnalyser.results
      else .error (.analysis "not asked") }

def sampleScript (call : QueryCall) : Except PyError QueryResponse :=
  if call.sessionId = topicSessionId "s" "topic_1" then
    .ok { sessionId := call.sessionId, total := 1, issues := [keyedIssue "CAR-101"] }
  else if call.clarificationAnswer = none then
    .ok { sessionId := call.sessionId, requiresUserInput := true,
          clarificationQuestion := some "late?" }
  else .ok { sessionId := call.sessionId }

def sampleEnvironment : BriefingEnvironment (QueryCall → Except PyError QueryResponse) :=
  { scriptedEnvironment sampleScript with pipeline := samplePipeline }

theorem sample_fed : FedBy sampleAnalyser samplePipeline := by
  intro request results answered
  have returned : sampleAnalyser.results? = [sampleAnalyser.results.map some] := by decide +kernel
  obtain ⟨active, here, returns⟩ := results_of_only_call _ _ returned
  dsimp only [samplePipeline] at answered
  split_ifs at answered with asked
  cases answered
  subst asked
  cases here
  exact ⟨_, List.mem_singleton_self _, rfl, rfl, returns⟩

def askedBefore : BriefingWorld Unit × List (Option BriefingRecord) :=
  run (briefingWorldStep scriptedHandle {}) { handler := () } [.call sampleBriefing sampleEnvironment]

def sampleAnswer : BriefingCall :=
  { sampleBriefing with clarificationAnswer := some "past their due date" }

def sampleRecord : BriefingRecord :=
  (briefingStep scriptedHandle {} askedBefore.1 sampleAnswer
    { sampleEnvironment with
      pipeline := withEngine isoDayNumber {} 739801 samplePipeline }).2

/-- The briefing shows the issue that was found before the question. -/
theorem sample_issue_is_sourced :
    ∃ response, sampleRecord.outcome = .ok response ∧
      response.sections.map (fun briefed => briefed.topIssues.map BlockerAnalysis.issueKey) =
        [["CAR-101"], []] ∧
      ∀ briefed ∈ response.sections,
        SourcedReport {} sampleTables sampleConfig isoDayNumber {} 739801
          (queriedIn (askedBefore.2 ++ [some sampleRecord]))
          (SharedAnalyser.asked sampleAnalyser) "s" briefed := by
  have shown : sampleRecord.outcome.toOption.map
      (fun response => response.sections.map fun briefed =>
        briefed.topIssues.map BlockerAnalysis.issueKey) = some [["CAR-101"], []] := by
    decide +kernel
  cases returned : sampleRecord.outcome with
  | error error =>
      rw [returned] at shown
      cases shown
  | ok response =>
      rw [returned] at shown
      refine ⟨response, rfl, Option.some.inj shown, ?_⟩
      exact shown_issues_are_sourced scriptedHandle {} sampleTables sampleConfig 1 isoDayNumber {}
        739801 () [.call sampleBriefing sampleEnvironment] _ sampleAnswer sampleEnvironment
        sample_fed response returned

end AtlasMindNetra.BriefingSources
