import AtlasMindNetra.BriefingRules
import AtlasMindNetra.ListRules
import AtlasMindNetra.RankingEngine

/-!
# The cap on analysed issues

`_build_sections` sends the first distinct keys of the briefing to the backend
and to the analyser, as many as the cap allows. Keys are counted for each topic
and dropped for all topics together, so every topic is told how many of its own
issues were not sent.
-/

namespace AtlasMindNetra.BriefingOrchestrator

open AtlasMindNetra.PythonValues AtlasMindNetra.ResponseModels AtlasMindNetra.EffectRules

set_option autoImplicit false

theorem from_keys_erase_dups
    (keys : List String) : (OrderedDict.fromKeys keys).keys = keys.eraseDups := by
  induction keys using List.reverseRecOn with
  | nil => rfl
  | append_singleton earlier key ih =>
      have step : OrderedDict.fromKeys (earlier ++ [key]) =
          (OrderedDict.fromKeys earlier).set key () := by
        unfold OrderedDict.fromKeys
        rw [List.foldl_append]
        rfl
      rw [step, ListRules.erase_dups_concat, ← ih]
      change (OrderedDict.assign key () (OrderedDict.fromKeys earlier).entries).map Prod.fst = _
      rw [OrderedDict.keys_assign]
      change (if key ∈ (OrderedDict.fromKeys earlier).keys then
        (OrderedDict.fromKeys earlier).keys else (OrderedDict.fromKeys earlier).keys ++ [key]) = _
      simp only [ih, List.mem_eraseDups]

section Cap

variable (settings : BriefingSettings) (completed : OrderedDict String QueryResponse)
variable (topics : List AgendaTopic)

/-- The first distinct keys in topic order, as many as the cap allows. -/
def sentKeys : List String :=
  ((topics.flatMap (topicKeys completed)).eraseDups).take settings.maxAnalysedIssues

theorem sent_keys_kept :
    (distinctKeys completed topics).take settings.maxAnalysedIssues =
      sentKeys settings completed topics := by
  rw [distinctKeys, from_keys_erase_dups, sentKeys]

def unsentCount (topic : AgendaTopic) : Nat :=
  droppedCount (sentKeys settings completed topics) (topicKeys completed topic)

/-- The topic has keyed issues, and none of their keys is sent. -/
def EntirelyDropped (topic : AgendaTopic) : Prop :=
  topicKeys completed topic ≠ [] ∧
    ∀ key ∈ topicKeys completed topic, key ∉ sentKeys settings completed topics

instance (topic : AgendaTopic) : Decidable (EntirelyDropped settings completed topics topic) :=
  inferInstanceAs (Decidable (_ ∧ _))

def skippedErrors : List String :=
  (topics.filter fun topic => EntirelyDropped settings completed topics topic).map fun topic =>
    cappedTopicError topic.topicId (unsentCount settings completed topics topic)
      settings.maxAnalysedIssues

theorem entirely_dropped_iff
    (topic : AgendaTopic) :
    EntirelyDropped settings completed topics topic ↔
      unsentCount settings completed topics topic ≠ 0 ∧
        unsentCount settings completed topics topic = (topicKeys completed topic).length := by
  unfold EntirelyDropped unsentCount droppedCount
  rw [List.length_filter_eq_length_iff]
  simp only [decide_eq_true_eq]
  constructor
  · rintro ⟨some, all⟩
    refine ⟨?_, all⟩
    rw [List.filter_eq_self.mpr fun key member => decide_eq_true (all key member)]
    exact fun none => some (List.length_eq_zero_iff.mp none)
  · rintro ⟨counted, all⟩
    refine ⟨?_, all⟩
    intro none
    apply counted
    rw [none]
    rfl

theorem unsent_of_within
    (within : (distinctKeys completed topics).length ≤ settings.maxAnalysedIssues)
    (topic : AgendaTopic)
    (member : topic ∈ topics) : unsentCount settings completed topics topic = 0 := by
  unfold unsentCount droppedCount
  rw [List.length_eq_zero_iff, List.filter_eq_nil_iff]
  intro key inTopic
  rw [decide_eq_true_eq, not_not, ← sent_keys_kept, List.take_of_length_le within, distinctKeys,
    from_keys_erase_dups, List.mem_eraseDups]
  exact List.mem_flatMap.mpr ⟨topic, member, inTopic⟩

variable (distinct : (topics.map AgendaTopic.topicId).Nodup)

include distinct

theorem keys_by_topic_entries :
    (keysByTopic completed topics).entries =
      topics.map fun topic => (topic.topicId, topicKeys completed topic) :=
  OrderedDict.entries_filed AgendaTopic.topicId (topicKeys completed) topics distinct

theorem keys_of_topic
    (topic : AgendaTopic)
    (member : topic ∈ topics) :
    (keysByTopic completed topics).get? topic.topicId = some (topicKeys completed topic) := by
  rw [← OrderedDict.mem_entries_iff, keys_by_topic_entries completed topics distinct]
  exact List.mem_map.mpr ⟨topic, member, rfl⟩

omit distinct in
theorem counts_filed
    (kept : List String)
    (entries : List (String × List String))
    (apart : (entries.map Prod.fst).Nodup)
    (dropped : OrderedDict String Nat)
    (topicId : String)
    (keys : List String)
    (member : (topicId, keys) ∈ entries)
    (new : ∀ entry ∈ entries, dropped.get? entry.1 = none) :
    ((entries.foldl (fun dropped entry =>
      let count := droppedCount kept entry.2
      if count = 0 then dropped else dropped.set entry.1 count) dropped).get? topicId).getD 0 =
        droppedCount kept keys := by
  have others (rest : List (String × List String)) (table : OrderedDict String Nat)
      (absent : topicId ∉ rest.map Prod.fst) :
      (rest.foldl (fun dropped entry =>
        let count := droppedCount kept entry.2
        if count = 0 then dropped else dropped.set entry.1 count) table).get? topicId =
          table.get? topicId := by
    induction rest generalizing table with
    | nil => rfl
    | cons entry later ih =>
        rw [List.map_cons, List.mem_cons, not_or] at absent
        rw [List.foldl_cons, ih _ absent.2]
        dsimp only
        split_ifs
        · rfl
        · exact OrderedDict.get?_set_other table _ absent.1
  induction entries generalizing dropped with
  | nil => cases member
  | cons entry rest ih =>
      rw [List.map_cons, List.nodup_cons] at apart
      rw [List.forall_mem_cons] at new
      rw [List.foldl_cons]
      rcases List.mem_cons.mp member with rfl | later
      · rw [others rest _ apart.1]
        dsimp only
        split_ifs with none
        · rw [new.1, none]
          rfl
        · rw [OrderedDict.get?_set_self, Option.getD_some]
      · apply ih apart.2 _ later
        intro other inRest
        have differs : other.1 ≠ entry.1 := fun same =>
          apart.1 (same ▸ List.mem_map_of_mem inRest)
        dsimp only
        split_ifs
        · exact new.2 other inRest
        · rw [OrderedDict.get?_set_other _ _ differs]
          exact new.2 other inRest

theorem dropped_of_topic
    (topic : AgendaTopic)
    (member : topic ∈ topics) :
    ((droppedPerTopic settings.maxAnalysedIssues (distinctKeys completed topics)
      (keysByTopic completed topics)).get? topic.topicId).getD 0 =
        unsentCount settings completed topics topic := by
  unfold droppedPerTopic
  split_ifs with exceeded
  · have filed := counts_filed ((distinctKeys completed topics).take settings.maxAnalysedIssues)
      (keysByTopic completed topics).entries (keysByTopic completed topics).distinct ∅ topic.topicId
      (topicKeys completed topic)
      ((OrderedDict.mem_entries_iff _ _ _).mpr (keys_of_topic completed topics distinct topic member))
      (fun _ _ => rfl)
    rw [filed, sent_keys_kept]
    rfl
  · exact (unsent_of_within settings completed topics (Nat.not_lt.mp exceeded) topic member).symm

theorem skipped_topic_errors :
    skippedTopicErrors settings.maxAnalysedIssues (distinctKeys completed topics)
      (keysByTopic completed topics) = skippedErrors settings completed topics := by
  unfold skippedTopicErrors skippedErrors
  split_ifs with exceeded
  · rw [keys_by_topic_entries completed topics distinct, List.filterMap_map, sent_keys_kept,
      ← List.filterMap_eq_filter, List.map_filterMap]
    apply List.filterMap_congr
    intro topic _
    have dropped := entirely_dropped_iff settings completed topics topic
    by_cases all : EntirelyDropped settings completed topics topic
    · simp only [Function.comp_apply, Option.guard, decide_eq_true all, if_true, Option.map_some]
      exact if_pos (dropped.mp all)
    · simp only [Function.comp_apply, Option.guard, decide_eq_false all, Bool.false_eq_true,
        if_false, Option.map_none]
      exact if_neg fun counted => all (dropped.mpr counted)
  · have none : (topics.filter fun topic =>
        EntirelyDropped settings completed topics topic) = [] := by
      rw [List.filter_eq_nil_iff]
      intro topic member dropped
      rw [decide_eq_true_eq, entirely_dropped_iff] at dropped
      exact dropped.1 (unsent_of_within settings completed topics (Nat.not_lt.mp exceeded) topic
        member)
    rw [none]
    rfl

end Cap

theorem analysis_map_keyed
    (analyses : List BlockerAnalysis)
    (key : String)
    (analysis : BlockerAnalysis)
    (found : (analysisMap analyses).get? key = some analysis) : analysis.issueKey = key := by
  unfold analysisMap at found
  induction analyses using List.reverseRecOn with
  | nil => cases found
  | append_singleton earlier last ih =>
      rw [List.foldl_append, List.foldl_cons, List.foldl_nil, OrderedDict.get?_set] at found
      split_ifs at found with same
      · rw [← Option.some.inj found, same]
      · exact ih found

section Engine

variable (isoDate : String → Option Int) (rule : RankingEngine.RankingRule) (today : Int)

theorem ranked_keys
    (analyses : List BlockerAnalysis)
    (topN : Option Int)
    (item : BlockerAnalysis)
    (member : item ∈ RankingEngine.rank isoDate rule today analyses topN) :
    ∃ analysis ∈ analyses, item.issueKey = analysis.issueKey := by
  unfold RankingEngine.rank sliceTo at member
  have sorted : item ∈ (analyses.map (RankingEngine.scored isoDate rule today)).insertionSort
      fun first second => second.score ≤ first.score := by
    split_ifs at member
    · exact List.mem_of_mem_take member
    · exact List.mem_of_mem_take member
  rw [List.mem_insertionSort] at sorted
  rcases List.mem_map.mp sorted with ⟨analysis, inList, rfl⟩
  exact ⟨analysis, inList, rfl⟩

/-- The pipeline with the ranking engine of the source. -/
def withEngine (env : PipelineSide) : PipelineSide :=
  { env with
    rank := fun analyses topN =>
      .ok (RankingEngine.rank isoDate rule today analyses (some (topN : Int))) }

variable (settings : BriefingSettings) (completed : OrderedDict String QueryResponse)
variable (topics : List AgendaTopic)

structure SectionCounts (topic : AgendaTopic) (briefed : BriefingSection) : Prop where
  errors : briefed.errors =
    ((completed.get? topic.topicId).map QueryResponse.errors).getD [] ++
      if unsentCount settings completed topics topic = 0 then []
      else [cappedSectionError (unsentCount settings completed topics topic)
        settings.maxAnalysedIssues]
  own : ∀ issue ∈ briefed.topIssues, issue.issueKey ∈ topicKeys completed topic

theorem section_errors_counted
    (cap count : Nat)
    (result : Option QueryResponse)
    (dropped : Option Nat)
    (counted : dropped.getD 0 = count) :
    sectionErrors cap result dropped =
      (result.map QueryResponse.errors).getD [] ++
        if count = 0 then [] else [cappedSectionError count cap] := by
  subst counted
  unfold sectionErrors
  cases result <;> cases dropped <;> rfl

theorem built_section_counts
    (distinct : (topics.map AgendaTopic.topicId).Nodup)
    (env : PipelineSide)
    (analyses : List BlockerAnalysis)
    (topic : AgendaTopic)
    (member : topic ∈ topics)
    (briefed : BriefingSection)
    (built : buildSection settings (withEngine isoDate rule today env) completed
      (keysByTopic completed topics)
      (droppedPerTopic settings.maxAnalysedIssues (distinctKeys completed topics)
        (keysByTopic completed topics)) (analysisMap analyses) topic = .ok briefed) :
    SectionCounts settings completed topics topic briefed := by
  unfold buildSection at built
  simp only [keys_of_topic completed topics distinct topic member, Option.getD_some] at built
  cases built
  constructor
  · exact section_errors_counted _ _ _ _
      (dropped_of_topic settings completed topics distinct topic member)
  · intro issue inSection
    rcases ranked_keys isoDate rule today ((topicKeys completed topic).filterMap
      (analysisMap analyses).get?) (some settings.topN) issue inSection with
      ⟨analysis, given, same⟩
    rcases List.mem_filterMap.mp given with ⟨key, inTopic, found⟩
    rw [same, analysis_map_keyed analyses key analysis found]
    exact inTopic

/-- The two environments answer requests for these keys alike. -/
structure AgreeOn (keys : List String) (env other : PipelineSide) : Prop where
  details : ∀ limit, other.getIssueDetails keys limit = env.getIssueDetails keys limit
  analyses : ∀ request, request.keys = keys → other.analyse request = env.analyse request
  ranks : other.rank = env.rank

variable (refs : ConfluenceRefs) (forceRefresh : Bool)

/-- The backend and the analyser are asked about these keys, and nothing else:
without keys they are not asked, their errors come out, and what they would
say about other keys does not matter. -/
structure AsksExactly (keys : List String) (env : PipelineSide) : Prop where
  others : ∀ other, AgreeOn keys env other →
    buildSections settings other topics completed refs forceRefresh =
      buildSections settings env topics completed refs forceRefresh
  details : keys ≠ [] → ∀ message,
    env.getIssueDetails keys settings.commentsLimitDefault = .error (.other message) →
      buildSections settings env topics completed refs forceRefresh = .error (.other message)
  analyses : keys ≠ [] → ∀ fetched message, fetchDetails settings env keys = .ok fetched →
    (∀ request, request.keys = keys → env.analyse request = .error (.other message)) →
      buildSections settings env topics completed refs forceRefresh = .error (.other message)

theorem sections_asked
    (env : PipelineSide) :
    AsksExactly settings completed topics refs forceRefresh (sentKeys settings completed topics)
      env := by
  constructor
  · intro other agree
    unfold buildSections buildSection fetchDetails analyseIssues
    have same (details : IssueDetailsResponse) :=
      agree.analyses
        { details := details
          keys := sentKeys settings completed topics
          summaries := nonEmptyDict (issueSummaries completed topics)
          confluenceRefs := nonEmptyDict refs
          forceRefresh := forceRefresh } rfl
    simp only [sent_keys_kept, agree.details, agree.ranks, same]
  · intro some message failed
    unfold buildSections fetchDetails
    simp only [sent_keys_kept, if_neg some, failed]
    rfl
  · intro some fetched message returned failed
    unfold buildSections analyseIssues
    have stopped (details : IssueDetailsResponse) :=
      failed
        { details := details
          keys := sentKeys settings completed topics
          summaries := nonEmptyDict (issueSummaries completed topics)
          confluenceRefs := nonEmptyDict refs
          forceRefresh := forceRefresh } rfl
    simp only [sent_keys_kept, if_neg some, returned, bind, Except.bind, stopped]

end Engine

def twoTopics : List AgendaTopic :=
  [{ topicId := "blocked", description := "", suggestedQuery := "" },
    { topicId := "late", description := "", suggestedQuery := "" }]

def keyedIssue (key : String) : IssueRow := OrderedDict.set ∅ "key" (.str key)

/-- Both topics find `CAR-2`. -/
def sharedResults : OrderedDict String QueryResponse :=
  (OrderedDict.set ∅ "blocked"
    { sessionId := "s", issues := [keyedIssue "CAR-1", keyedIssue "CAR-2"] }).set "late"
    { sessionId := "s", issues := [keyedIssue "CAR-2", keyedIssue "CAR-3"] }

def silentPipeline : PipelineSide where
  getIssueDetails := fun _ _ => .ok {}
  analyse := fun _ => .ok []
  rank := fun analyses _ => .ok analyses
  buildBriefingReport := fun _ _ _ => .ok ""
  deliver := fun _ _ => .ok ""
  storeBriefingJson := fun _ _ => .ok ()

end AtlasMindNetra.BriefingOrchestrator
