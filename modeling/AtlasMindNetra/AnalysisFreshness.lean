import AtlasMindNetra.CacheRules
import AtlasMindNetra.IssueAnalyser
import AtlasMindNetra.RunRules

/-!
# Freshness of cached analyses

The cache key names an issue and its last status transition, while the facts of
an analysis also depend on the day and on everything else the issue, the
summaries and the references say. A served analysis therefore has the facts of
the work that was filed last under its key, and these are the current facts
exactly when that work and the current one agree on what the facts are read off.
-/

namespace AtlasMindNetra.IssueAnalyser

open AtlasMindNetra.PythonValues AtlasMindNetra.ResponseModels AtlasMindNetra.RunRules
open AtlasMindNetra.CacheRules

set_option autoImplicit false

/-- The fields of an analysis that the LLM does not write. -/
structure Facts where
  daysBlocked : Int
  owner : String
  priority : Option String
  dependentIssues : List String
  dueDate : Option String
  flagged : Bool
  blockedReason : String
  summary : String
  confluenceRefs : List ConfluenceReference
  deriving DecidableEq

def factsOf (analysis : BlockerAnalysis) : Facts where
  daysBlocked := analysis.daysBlocked
  owner := analysis.owner
  priority := analysis.priority
  dependentIssues := analysis.dependentIssues
  dueDate := analysis.dueDate
  flagged := analysis.flagged
  blockedReason := analysis.blockedReason
  summary := analysis.summary
  confluenceRefs := analysis.confluenceRefs

section Condition

variable (tables : AnalyserTables) (config : AnalyserConfig)

/-- The result has the facts that analysing the work now would give, whatever
the LLM answers. -/
def AgreesWithFresh (work : KeyAnalysis) (result : BlockerAnalysis) : Prop :=
  ∀ agent fresh, analyseOne tables config agent work = .ok fresh → factsOf result = factsOf fresh

/-- Degraded results stand for work that has no analysis to agree with. -/
def OutputAgrees : AnalyserOutput → Prop
  | .served work result | .analysed work result => AgreesWithFresh tables config work result
  | .missing _ | .asked _ _ | .failed _ _ | .idle => True

def blockedSince (issue : IssueDetail) : Option Int :=
  match issue.changelog.getLast? with
  | some entry =>
      if tables.lower (tables.strip entry.toValue) ∈ config.blockedStatuses then
        tables.isoDay entry.timestamp
      else none
  | none => none

def BlockedForDays (work : KeyAnalysis) : Prop :=
  ∃ day, blockedSince tables config work.issue = some day ∧ day < work.today

/-- Two works whose inputs agree wherever a fact is read off them. References
may also have been absent when the first was analysed. -/
structure SameInputs (filed now : KeyAnalysis) : Prop where
  assignee : (truthyText filed.issue.assignee).getD "Unassigned" =
    (truthyText now.issue.assignee).getD "Unassigned"
  priority : filed.issue.priority = now.issue.priority
  links : filed.issue.links.map IssueLink.linkedIssueKey =
    now.issue.links.map IssueLink.linkedIssueKey
  dueDate : filed.issue.dueDate = now.issue.dueDate
  flagged : filed.issue.flagged = now.issue.flagged
  newestComment : (sortedComments filed.issue).head?.map quoted =
    (sortedComments now.issue).head?.map quoted
  summary : summaryOf filed.issue filed.summaries = summaryOf now.issue now.summaries
  day : BlockedForDays tables config filed ∨ BlockedForDays tables config now →
    BlockedForDays tables config filed ∧ BlockedForDays tables config now ∧
      filed.today = now.today
  refs : filed.refs = [] ∨ filed.refs = now.refs

def filings (past : List AnalyserOutput) : List KeyAnalysis :=
  if config.cacheMaxSize = 0 then []
  else past.filterMap fun output =>
    match output with
    | .analysed work _ => some work
    | _ => none

/-- Where the next coroutine is answered from the cache, the work filed last
under its key has the same inputs. -/
def CacheCurrent (state : AnalyserState) (past : List AnalyserOutput) : AnalyserInput → Prop
  | .start call key today =>
      ∀ issue filed, (issueMap call.issueDetails).get? key = some issue →
        (cachedFor state call (workFor call key today issue)).isSome = true →
        lastFiled cacheKey (filings config past) (cacheKey (workFor call key today issue)) =
          some filed →
        SameInputs tables config filed (workFor call key today issue)
  | .answer _ _ => True

end Condition

section Facts

variable (tables : AnalyserTables) (config : AnalyserConfig)

def freshFacts (work : KeyAnalysis) : Facts where
  daysBlocked := computeDaysBlocked tables config.blockedStatuses work.issue work.today
  owner := ownerOf work.issue
  priority := work.issue.priority
  dependentIssues := dependentIssuesOf work.issue
  dueDate := work.issue.dueDate
  flagged := work.issue.flagged
  blockedReason := blockedReasonOf work.issue
  summary := summaryOf work.issue work.summaries
  confluenceRefs := work.refs

theorem analyse_one_facts
    (agent : String → AgentReply)
    (work : KeyAnalysis)
    (fresh : BlockerAnalysis)
    (analysed : analyseOne tables config agent work = .ok fresh) :
    factsOf fresh = freshFacts tables config work := by
  unfold analyseOne at analysed
  split at analysed <;> cases analysed
  rfl

theorem analyse_one_answers
    (work : KeyAnalysis)
    (suggestions : IssueAnalysisSuggestions) :
    ∃ fresh, analyseOne tables config (fun _ => .ok suggestions) work = .ok fresh :=
  ⟨_, rfl⟩

theorem agrees_with_fresh_iff
    (work : KeyAnalysis)
    (result : BlockerAnalysis) :
    AgreesWithFresh tables config work result ↔ factsOf result = freshFacts tables config work := by
  constructor
  · intro agrees
    rcases analyse_one_answers tables config work ⟨"", "", "", []⟩ with ⟨fresh, analysed⟩
    rw [agrees _ fresh analysed]
    exact analyse_one_facts tables config _ work fresh analysed
  · intro same agent fresh analysed
    rw [same, analyse_one_facts tables config agent work fresh analysed]

theorem compute_days_blocked_eq
    (issue : IssueDetail)
    (today : Int) :
    computeDaysBlocked tables config.blockedStatuses issue today =
      match blockedSince tables config issue with
      | some day => max 0 (today - day)
      | none => 0 := by
  unfold computeDaysBlocked blockedSince
  rw [← List.head?_reverse]
  cases issue.changelog.reverse with
  | nil => rfl
  | cons entry earlier =>
      simp only [List.head?_cons]
      by_cases blocked : tables.lower (tables.strip entry.toValue) ∈ config.blockedStatuses
      · cases tables.isoDay entry.timestamp <;> simp [blocked]
      · rw [if_pos blocked, if_neg blocked]

theorem blocked_since_key
    (work : KeyAnalysis)
    (day : Int)
    (since : blockedSince tables config work.issue = some day) :
    tables.isoDay (cacheKey work).2 = some day := by
  unfold blockedSince at since
  unfold cacheKey
  cases last : work.issue.changelog.getLast? with
  | none =>
      rw [last] at since
      exact absurd since (by simp)
  | some entry =>
      rw [last] at since
      simp only at since
      split_ifs at since
      exact since

theorem days_positive_iff (work : KeyAnalysis) :
    0 < computeDaysBlocked tables config.blockedStatuses work.issue work.today ↔
      BlockedForDays tables config work := by
  rw [compute_days_blocked_eq]
  unfold BlockedForDays
  cases since : blockedSince tables config work.issue with
  | none => simp
  | some day =>
      have positive : 0 < max 0 (work.today - day) ↔ day < work.today := by omega
      dsimp only
      rw [positive]
      simp

theorem days_nonneg (work : KeyAnalysis) :
    0 ≤ computeDaysBlocked tables config.blockedStatuses work.issue work.today := by
  rw [compute_days_blocked_eq]
  split
  · exact le_max_left _ _
  · exact le_rfl

theorem days_of_blocked
    (work : KeyAnalysis)
    (blocked : BlockedForDays tables config work) :
    ∃ day, tables.isoDay (cacheKey work).2 = some day ∧
      computeDaysBlocked tables config.blockedStatuses work.issue work.today = work.today - day := by
  rcases blocked with ⟨day, since, before⟩
  refine ⟨day, blocked_since_key tables config work day since, ?_⟩
  rw [compute_days_blocked_eq, since]
  exact max_eq_right (by omega)

theorem same_days_iff
    (filed now : KeyAnalysis)
    (sameKey : cacheKey filed = cacheKey now) :
    computeDaysBlocked tables config.blockedStatuses filed.issue filed.today =
        computeDaysBlocked tables config.blockedStatuses now.issue now.today ↔
      (BlockedForDays tables config filed ∨ BlockedForDays tables config now →
        BlockedForDays tables config filed ∧ BlockedForDays tables config now ∧
          filed.today = now.today) := by
  constructor
  · intro same either
    have both : BlockedForDays tables config filed ∧ BlockedForDays tables config now := by
      rw [← days_positive_iff, ← days_positive_iff] at either ⊢
      omega
    rcases days_of_blocked tables config filed both.1 with ⟨first, firstDay, firstDays⟩
    rcases days_of_blocked tables config now both.2 with ⟨second, secondDay, secondDays⟩
    rw [sameKey, secondDay] at firstDay
    cases firstDay
    exact ⟨both.1, both.2, by omega⟩
  · intro agree
    by_cases either : BlockedForDays tables config filed ∨ BlockedForDays tables config now
    · rcases agree either with ⟨filedBlocked, nowBlocked, today⟩
      rcases days_of_blocked tables config filed filedBlocked with ⟨first, firstDay, firstDays⟩
      rcases days_of_blocked tables config now nowBlocked with ⟨second, secondDay, secondDays⟩
      rw [sameKey, secondDay] at firstDay
      cases firstDay
      rw [firstDays, secondDays, today]
    · rw [← days_positive_iff, ← days_positive_iff] at either
      have filedDays := days_nonneg tables config filed
      have nowDays := days_nonneg tables config now
      omega

theorem latest_comment_told (rest : String) :
    "Latest comment (" ++ rest ≠ "No comments available - blocked reason unclear." := by
  intro same
  have letters := congrArg String.toList same
  rw [String.toList_append] at letters
  exact absurd (List.cons.inj letters).1 (by decide)

theorem same_reason_iff (filed now : IssueDetail) :
    blockedReasonOf filed = blockedReasonOf now ↔
      (sortedComments filed).head?.map quoted = (sortedComments now).head?.map quoted := by
  unfold blockedReasonOf
  cases sortedComments filed with
  | nil =>
      cases sortedComments now with
      | nil => simp
      | cons latest older => simpa using (latest_comment_told (quoted latest)).symm
  | cons latest older =>
      cases sortedComments now with
      | nil => simpa using latest_comment_told (quoted latest)
      | cons newest others => simp

theorem reattached_facts
    (refs : List ConfluenceReference)
    (cached : BlockerAnalysis) :
    factsOf (reattached refs cached) =
      { factsOf cached with confluenceRefs := (reattached refs cached).confluenceRefs } := by
  unfold reattached
  split_ifs <;> rfl

theorem reattached_refs_iff
    (refs : List ConfluenceReference)
    (cached : BlockerAnalysis) :
    (reattached refs cached).confluenceRefs = refs ↔
      cached.confluenceRefs = [] ∨ cached.confluenceRefs = refs := by
  unfold reattached
  cases refs with
  | nil => simp
  | cons ref others =>
      cases stored : cached.confluenceRefs with
      | nil => simp
      | cons old rest => simp [stored]

/-- What is served of the facts of filed work are the current facts exactly
when the inputs agree. -/
theorem served_facts_iff
    (filed now : KeyAnalysis)
    (cached : BlockerAnalysis)
    (sameKey : cacheKey filed = cacheKey now)
    (stored : factsOf cached = freshFacts tables config filed) :
    factsOf (reattached now.refs cached) = freshFacts tables config now ↔
      SameInputs tables config filed now := by
  have refs : cached.confluenceRefs = filed.refs := congrArg Facts.confluenceRefs stored
  rw [reattached_facts, stored]
  simp only [freshFacts, Facts.mk.injEq, same_days_iff tables config filed now sameKey,
    same_reason_iff, reattached_refs_iff, refs, ownerOf, dependentIssuesOf]
  constructor
  · intro ⟨day, assignee, priority, links, dueDate, flagged, newestComment, summary, refs⟩
    exact { assignee, priority, links, dueDate, flagged, newestComment, summary, day, refs }
  · intro same
    exact ⟨same.day, same.assignee, same.priority, same.links, same.dueDate, same.flagged,
      same.newestComment, same.summary, same.refs⟩

end Facts

section Filing

variable (tables : AnalyserTables) (config : AnalyserConfig)

def FiledFacts (past : List AnalyserOutput) (key : String × String)
    (cached : BlockerAnalysis) : Prop :=
  ∃ filed, lastFiled cacheKey (filings config past) key = some filed ∧
    factsOf cached = freshFacts tables config filed

theorem filings_other
    (past : List AnalyserOutput)
    (output : AnalyserOutput)
    (unfiled : ∀ work result, output ≠ .analysed work result) :
    filings config (past ++ [output]) = filings config past := by
  unfold filings
  rw [List.filterMap_append]
  cases output with
  | analysed work result => exact absurd rfl (unfiled work result)
  | missing result => simp
  | served work result => simp
  | asked work prompt => simp
  | failed work result => simp
  | idle => simp

theorem filings_analysed
    (past : List AnalyserOutput)
    (work : KeyAnalysis)
    (result : BlockerAnalysis)
    (caching : config.cacheMaxSize ≠ 0) :
    filings config (past ++ [.analysed work result]) = filings config past ++ [work] := by
  unfold filings
  rw [if_neg caching, if_neg caching, List.filterMap_append]
  rfl

theorem write_back_sound
    {good after : String × String → BlockerAnalysis → Prop}
    (cache : AnalysisCache)
    (key : String × String)
    (result : BlockerAnalysis)
    (sound : Sound good cache)
    (uncached : config.cacheMaxSize = 0 → Sound after cache)
    (filed : config.cacheMaxSize ≠ 0 → after key result)
    (others : config.cacheMaxSize ≠ 0 → ∀ other old, other ≠ key → good other old →
      after other old) :
    Sound after (writeBack config cache key result) := by
  unfold writeBack
  split_ifs with without full
  · exact uncached without
  · exact sound_file (sound_forget sound (get?_of_pop_first cache)) (filed without)
      (others without)
  · exact sound_file sound (filed without) (others without)

theorem write_back_filed
    (past : List AnalyserOutput)
    (cache : AnalysisCache)
    (work : KeyAnalysis)
    (result : BlockerAnalysis)
    (sound : Sound (FiledFacts tables config past) cache)
    (facts : factsOf result = freshFacts tables config work) :
    Sound (FiledFacts tables config (past ++ [.analysed work result]))
      (writeBack config cache (cacheKey work) result) := by
  refine write_back_sound config cache (cacheKey work) result sound ?_ ?_ ?_
  · intro without
    refine sound_weaken sound fun key cached filed => ?_
    rcases filed with ⟨filing, last, -⟩
    rw [filings, if_pos without, last_filed_nil] at last
    exact absurd last (by simp)
  · intro caching
    refine ⟨work, ?_, facts⟩
    rw [filings_analysed config past work result caching, last_filed_snoc, if_pos rfl]
  · intro caching other cached apart filed
    rcases filed with ⟨filing, last, same⟩
    refine ⟨filing, ?_, same⟩
    rw [filings_analysed config past work result caching, last_filed_snoc,
      if_neg (Ne.symm apart), last]

theorem step_cases
    (state : AnalyserState)
    (input : AnalyserInput) :
    ((analyserStep tables config state input).1.cache = state.cache ∧
      ∀ work result, (analyserStep tables config state input).2 ≠ .analysed work result) ∨
    ∃ work reply result,
      analyseOne tables config (fun _ => reply) work = .ok result ∧
      (analyserStep tables config state input).1.cache =
        writeBack config state.cache (cacheKey work) result ∧
      (analyserStep tables config state input).2 = .analysed work result := by
  cases input with
  | start call key today =>
      left
      simp only [analyserStep, startKey]
      cases (issueMap call.issueDetails).get? key with
      | none => simp
      | some issue =>
          dsimp only
          cases cachedFor state call (workFor call key today issue) <;> simp
  | answer position reply =>
      simp only [analyserStep, answerKey]
      cases state.running[position]? with
      | none => simp
      | some work =>
          dsimp only
          cases outcome : analyseOne tables config (fun _ => reply) work with
          | error error => simp
          | ok result => exact Or.inr ⟨work, reply, result, outcome, rfl, rfl⟩

/-- Each part of a coroutine keeps the cached facts those of filed work. -/
theorem step_keeps_filed
    (state : AnalyserState)
    (past : List AnalyserOutput)
    (input : AnalyserInput)
    (sound : Sound (FiledFacts tables config past) state.cache) :
    Sound (FiledFacts tables config (past ++ [(analyserStep tables config state input).2]))
      (analyserStep tables config state input).1.cache := by
  rcases step_cases tables config state input with
    ⟨cache, unfiled⟩ | ⟨work, reply, result, outcome, cache, output⟩
  · have same : FiledFacts tables config (past ++ [(analyserStep tables config state input).2]) =
        FiledFacts tables config past := by
      unfold FiledFacts
      rw [filings_other config past _ unfiled]
    rw [cache, same]
    exact sound
  · rw [cache, output]
    exact write_back_filed tables config past state.cache work result sound
      (analyse_one_facts tables config _ work result outcome)

theorem cache_filed (history : List AnalyserInput) :
    Sound (FiledFacts tables config (run (analyserStep tables config) freshAnalyser history).2)
      (run (analyserStep tables config) freshAnalyser history).1.cache := by
  have steps : EveryStep (analyserStep tables config) (fun _ _ => True) freshAnalyser history :=
    every_step_always (fun _ _ => trivial) freshAnalyser history
  have held := run_history_invariant
    (fun state past => Sound (FiledFacts tables config past) state.cache)
    (fun state past input sound _ => step_keeps_filed tables config state past input sound)
    freshAnalyser [] history (sound_empty _) steps
  simpa using held

theorem analysed_agrees
    (state : AnalyserState)
    (position : Nat)
    (reply : AgentReply) :
    OutputAgrees tables config (answerKey tables config state position reply).2 := by
  unfold answerKey
  cases state.running[position]? with
  | none => trivial
  | some work =>
      dsimp only
      cases outcome : analyseOne tables config (fun _ => reply) work with
      | error error => trivial
      | ok result =>
          apply (agrees_with_fresh_iff tables config work result).mpr
          exact analyse_one_facts tables config _ work result outcome

theorem cached_for_some
    (state : AnalyserState)
    (call : AnalyseCall)
    (work : KeyAnalysis)
    (cached : BlockerAnalysis)
    (hit : cachedFor state call work = some cached) :
    state.cache.get? (cacheKey work) = some cached := by
  unfold cachedFor at hit
  split_ifs at hit
  exact hit

/-- After every history, what the next part of a coroutine returns agrees with
a fresh analysis exactly when it does not come from outdated filed work. -/
theorem analysis_agrees_iff
    (history : List AnalyserInput)
    (next : AnalyserInput) :
    OutputAgrees tables config
        (analyserStep tables config
          (run (analyserStep tables config) freshAnalyser history).1 next).2 ↔
      CacheCurrent tables config (run (analyserStep tables config) freshAnalyser history).1
        (run (analyserStep tables config) freshAnalyser history).2 next := by
  have filed := cache_filed tables config history
  generalize (run (analyserStep tables config) freshAnalyser history).1 = state at filed ⊢
  generalize (run (analyserStep tables config) freshAnalyser history).2 = past at filed ⊢
  cases next with
  | answer position reply =>
      simp only [analyserStep, CacheCurrent, iff_true]
      exact analysed_agrees tables config state position reply
  | start call key today =>
      simp only [analyserStep, startKey, CacheCurrent]
      cases found : (issueMap call.issueDetails).get? key with
      | none => simp [OutputAgrees]
      | some issue =>
          dsimp only
          cases hit : cachedFor state call (workFor call key today issue) with
          | none =>
              simp only [OutputAgrees, true_iff]
              intro other filing same served
              cases same
              rw [hit] at served
              exact absurd served (by simp)
          | some cached =>
              rcases filed _ cached (cached_for_some state call _ _ hit) with ⟨filing, last, facts⟩
              have sameKey := last_filed_key last
              have served := served_facts_iff tables config filing _ cached sameKey facts
              dsimp only [OutputAgrees]
              rw [agrees_with_fresh_iff, served]
              constructor
              · intro same other again equal _ lastAgain
                cases equal
                rw [last] at lastAgain
                cases lastAgain
                exact same
              · intro current
                exact current issue filing rfl (by rw [hit]; rfl) last

end Filing

def sampleConfig : AnalyserConfig := buildIssueAnalyser sampleTables ["Blocked", "Waiting"] 1000

def blockedIssue : IssueDetail where
  key := "CAR-101"
  summary := some "Brake test"
  assignee := some "Ana"
  changelog :=
    [{ toValue := "Blocked", author := "Ana", timestamp := "2026-07-01T09:00:00+00:00" }]

def detailsOf (issue : IssueDetail) : AnalyseCall where
  issueDetails := { issues := [issue] }

def sampleSuggestions : IssueAnalysisSuggestions where
  suggestedResolution := "Order the part."
  mitigation := "Use the spare."
  riskNote := "The test slips."

def analysedOnce : List AnalyserInput :=
  [.start (detailsOf blockedIssue) "CAR-101" 739801, .answer 0 (.ok sampleSuggestions)]

def reassignedIssue : IssueDetail :=
  { blockedIssue with
    assignee := some "Ben"
    comments :=
      [{ id := "1", author := "Ben", body := "The part is ordered."
         created := "2026-07-07T10:00:00+00:00", updated := "2026-07-07T10:00:00+00:00" }] }

def reassignedWork : KeyAnalysis :=
  workFor (detailsOf reassignedIssue) "CAR-101" 739805 reassignedIssue

def outdatedAnalysis : BlockerAnalysis where
  issueKey := "CAR-101"
  summary := "Brake test"
  blockedReason := "No comments available - blocked reason unclear."
  daysBlocked := 3
  owner := "Ana"
  suggestedResolution := "Order the part."
  mitigation := "Use the spare."
  riskNote := "The test slips."

/-- No status changed, so the old owner, days and reason are served. -/
theorem reassigned_issue_outdated :
    ¬ OutputAgrees sampleTables sampleConfig
      (analyserStep sampleTables sampleConfig
        (run (analyserStep sampleTables sampleConfig) freshAnalyser analysedOnce).1
        (.start (detailsOf reassignedIssue) "CAR-101" 739805)).2 := by
  have output :
      (analyserStep sampleTables sampleConfig
        (run (analyserStep sampleTables sampleConfig) freshAnalyser analysedOnce).1
        (.start (detailsOf reassignedIssue) "CAR-101" 739805)).2 =
      .served reassignedWork outdatedAnalysis := by decide +kernel
  rw [output]
  intro agrees
  have facts := (agrees_with_fresh_iff _ _ reassignedWork outdatedAnalysis).mp agrees
  exact absurd (congrArg Facts.owner facts) (by decide)

end AtlasMindNetra.IssueAnalyser
