import AtlasMindNetra.AnalysisFreshness

/-!
# The analysis cache as a bounded map

The cache is described as a FIFO map of bounded size. Its one write path evicts
whenever the cache is full, before it knows whether the key is new. The cache
therefore stays within its size, and is the FIFO map as long as no result is
written again while the cache is full.
-/

namespace AtlasMindNetra.IssueAnalyser

open AtlasMindNetra.PythonValues AtlasMindNetra.ResponseModels AtlasMindNetra.RunRules
open AtlasMindNetra.CacheRules

set_option autoImplicit false

section Refinement

variable (tables : AnalyserTables) (config : AnalyserConfig)

def fifoStep (state : AnalyserState) (input : AnalyserInput) : AnalyserState × AnalyserOutput :=
  let (next, output) := analyserStep tables config state input
  match output with
  | .analysed work result =>
      ({ next with cache := fifoWrite config.cacheMaxSize state.cache (cacheKey work) result },
        output)
  | .missing _ | .served _ _ | .asked _ _ | .failed _ _ | .idle => (next, output)

/-- No result is written for an entry that is cached while the cache is full,
unless it can hold one entry only. -/
def RewritesWithRoom (state : AnalyserState) : AnalyserInput → Prop
  | .start _ _ _ => True
  | .answer position reply =>
      ∀ work suggestions, state.running[position]? = some work → reply = .ok suggestions →
        state.cache.contains (cacheKey work) = true →
        state.cache.size < config.cacheMaxSize ∨ config.cacheMaxSize ≤ 1

theorem write_back_size
    (cache : AnalysisCache)
    (key : String × String)
    (result : BlockerAnalysis)
    (bounded : cache.size ≤ config.cacheMaxSize) :
    (writeBack config cache key result).size ≤ config.cacheMaxSize := by
  unfold writeBack
  split_ifs with without full
  · exact bounded
  · rw [size_set, size_pop_first]
    split_ifs <;> omega
  · rw [size_set]
    split_ifs <;> omega

theorem write_back_fifo_iff
    (cache : AnalysisCache)
    (key : String × String)
    (result : BlockerAnalysis)
    (bounded : cache.size ≤ config.cacheMaxSize) :
    fifoWrite config.cacheMaxSize cache key result = writeBack config cache key result ↔
      (cache.contains key = true →
        cache.size < config.cacheMaxSize ∨ config.cacheMaxSize ≤ 1) := by
  unfold fifoWrite writeBack
  by_cases without : config.cacheMaxSize = 0
  · rw [if_pos without, if_pos without]
    exact iff_of_true rfl fun _ => Or.inr (by omega)
  · rw [if_neg without, if_neg without]
    cases known : cache.contains key with
    | false => simp
    | true =>
        rw [if_neg (by simp)]
        by_cases full : config.cacheMaxSize ≤ cache.size
        · rw [if_pos full, eq_comm, pop_set_eq_set_iff cache key result known]
          constructor
          · intro one _
            exact Or.inr (by omega)
          · intro room
            have either := room rfl
            omega
        · rw [if_neg full]
          exact iff_of_true rfl fun _ => Or.inl (by omega)

theorem step_bounded
    (state : AnalyserState)
    (input : AnalyserInput)
    (bounded : state.cache.size ≤ config.cacheMaxSize) :
    (analyserStep tables config state input).1.cache.size ≤ config.cacheMaxSize := by
  rcases step_cases tables config state input with
    ⟨same, -⟩ | ⟨work, reply, result, -, cache, -⟩
  · rw [same]
    exact bounded
  · rw [cache]
    exact write_back_size config state.cache (cacheKey work) result bounded

/-- One part of a coroutine does what it does over a FIFO map exactly when it
does not write an entry again that leaves no room. -/
theorem fifo_step_iff
    (state : AnalyserState)
    (input : AnalyserInput)
    (bounded : state.cache.size ≤ config.cacheMaxSize) :
    fifoStep tables config state input = analyserStep tables config state input ↔
      RewritesWithRoom config state input := by
  cases input with
  | start call key today =>
      apply iff_of_true _ trivial
      simp only [fifoStep, analyserStep, startKey]
      cases (issueMap call.issueDetails).get? key with
      | none => rfl
      | some issue =>
          dsimp only
          cases cachedFor state call (workFor call key today issue) <;> rfl
  | answer position reply =>
      simp only [fifoStep, analyserStep, answerKey, RewritesWithRoom]
      cases running : state.running[position]? with
      | none => simp
      | some work =>
          cases reply with
          | error error => cases error <;> simp [analyseOne]
          | ok suggestions =>
              have exact := write_back_fifo_iff config state.cache (cacheKey work)
              simp only [analyseOne]
              rw [Prod.mk.injEq, AnalyserState.mk.injEq, exact _ bounded]
              constructor
              · intro same other _ itself _ known
                cases itself
                exact same.1.1 known
              · intro room
                exact ⟨⟨room work suggestions rfl rfl, rfl⟩, rfl⟩

/-- The cache never outgrows its size, and over any run the analyser does what
it would do over a FIFO map exactly when no result is written again without room. -/
theorem cache_is_fifo_iff (history : List AnalyserInput) :
    (∀ done, done <+: history →
      (run (analyserStep tables config) freshAnalyser done).1.cache.size ≤ config.cacheMaxSize) ∧
    ((∀ done, done <+: history →
        run (fifoStep tables config) freshAnalyser done =
          run (analyserStep tables config) freshAnalyser done) ↔
      EveryStep (analyserStep tables config) (RewritesWithRoom config) freshAnalyser history) := by
  have initial : freshAnalyser.cache.size ≤ config.cacheMaxSize := Nat.zero_le _
  constructor
  · intro done _
    apply run_invariant (fun state : AnalyserState => state.cache.size ≤ config.cacheMaxSize) _ _
      done initial
    · exact every_step_always (fun _ _ => trivial) _ done
    · exact fun state input bounded _ => step_bounded tables config state input bounded
  · exact lockstep_iff (fun state : AnalyserState => state.cache.size ≤ config.cacheMaxSize)
      (step_bounded tables config) (fifoStep tables config) (fifo_step_iff tables config)
      freshAnalyser history initial

end Refinement

def twoEntries : AnalyserConfig := buildIssueAnalyser sampleTables [] 2

def otherIssue : IssueDetail := { blockedIssue with key := "CAR-102" }

def filledUp : List AnalyserInput :=
  [.start (detailsOf blockedIssue) "CAR-101" 739801, .answer 0 (.ok sampleSuggestions),
    .start (detailsOf otherIssue) "CAR-102" 739801, .answer 0 (.ok sampleSuggestions)]

def refreshed : List AnalyserInput :=
  filledUp ++
    [.start { detailsOf otherIssue with forceRefresh := true } "CAR-102" 739801,
      .answer 0 (.ok sampleSuggestions)]

def cachedIssues (state : AnalyserState) : List String := state.cache.keys.map Prod.fst

/-- The refresh writes an entry that is there and evicts the other one for it. -/
theorem refresh_evicts_other_issue :
    cachedIssues (run (analyserStep sampleTables twoEntries) freshAnalyser filledUp).1 =
        ["CAR-101", "CAR-102"] ∧
      cachedIssues (run (analyserStep sampleTables twoEntries) freshAnalyser refreshed).1 =
        ["CAR-102"] ∧
      cachedIssues (run (fifoStep sampleTables twoEntries) freshAnalyser refreshed).1 =
        ["CAR-101", "CAR-102"] := by
  decide +kernel

end AtlasMindNetra.IssueAnalyser
