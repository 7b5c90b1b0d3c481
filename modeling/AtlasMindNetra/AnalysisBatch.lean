import AtlasMindNetra.AnalysisFreshness
import AtlasMindNetra.ListRules
import AtlasMindNetra.RankingEngine

/-!
# One analysed and ranked batch

`IssueAnalyser.analyse` starts one coroutine for each key it is given. On an
analyser with an empty cache all that the cache can hold stems from this batch,
so every coroutine that returns has the facts its issue details give. A
coroutine whose LLM call failed is replaced by a placeholder instead. The
ranking reads facts alone: it can tell two runs apart by their failures only.
-/

namespace AtlasMindNetra.IssueAnalyser

open AtlasMindNetra.PythonValues AtlasMindNetra.ResponseModels AtlasMindNetra.RunRules
open AtlasMindNetra.CacheRules AtlasMindNetra.ListRules AtlasMindNetra.RankingEngine

set_option autoImplicit false

inductive SlotPhase where
  | waiting
  | asking (work : KeyAnalysis)
  | returned (result : BlockerAnalysis)
  | failed (result : BlockerAnalysis)

/-- One coroutine of `analyse`, at the position of its key. -/
structure Slot where
  key : String
  phase : SlotPhase

structure AnalysisBatch where
  cache : AnalysisCache
  slots : List Slot

def freshBatch (keys : List String) : AnalysisBatch where
  cache := ∅
  slots := keys.map fun key => ⟨key, .waiting⟩

inductive BatchInput where
  | start (position : Nat)
  | answer (position : Nat) (reply : AgentReply)

def BatchInput.position : BatchInput → Nat
  | .start position | .answer position _ => position

def SlotPhase.after (phase : SlotPhase) : AnalyserOutput → SlotPhase
  | .missing result | .served _ result | .analysed _ result => .returned result
  | .failed _ result => .failed result
  | .asked work _ => .asking work
  | .idle => phase

def Slot.result? (slot : Slot) : Option BlockerAnalysis :=
  match slot.phase with
  | .returned result | .failed result => some result
  | .waiting | .asking _ => none

def Slot.failed (slot : Slot) : Bool :=
  match slot.phase with
  | .failed _ => true
  | .waiting | .asking _ | .returned _ => false

def AnalysisBatch.Returns (batch : AnalysisBatch) (results : List BlockerAnalysis) : Prop :=
  batch.slots.map Slot.result? = results.map some

def AnalysisBatch.FailedAt (batch : AnalysisBatch) (position : Nat) : Prop :=
  batch.slots[position]?.map Slot.failed = some true

section Batch

variable (tables : AnalyserTables) (config : AnalyserConfig) (call : AnalyseCall) (today : Int)

def slotStep (cache : AnalysisCache) (slot : Slot) :
    BatchInput → AnalyserState × AnalyserOutput
  | .start _ =>
      match slot.phase with
      | .waiting => startKey { cache, running := [] } call slot.key today
      | _ => ({ cache, running := [] }, .idle)
  | .answer _ reply =>
      match slot.phase with
      | .asking work => answerKey tables config { cache, running := [work] } 0 reply
      | _ => ({ cache, running := [] }, .idle)

def batchStep (batch : AnalysisBatch) (input : BatchInput) : AnalysisBatch × AnalyserOutput :=
  match batch.slots[input.position]? with
  | none => (batch, .idle)
  | some slot =>
      let (state, output) := slotStep tables config call today batch.cache slot input
      ({ cache := state.cache
         slots := batch.slots.set input.position { slot with phase := slot.phase.after output } },
        output)

def analyseKeys (keys : List String) (inputs : List BatchInput) : AnalysisBatch :=
  (run (batchStep tables config call today) (freshBatch keys) inputs).1

/-- The facts that the details give for a key, which are those of a placeholder
if the key is missing there. -/
def detailFacts (key : String) : Facts :=
  match (issueMap call.issueDetails).get? key with
  | some issue => freshFacts tables config (workFor call key today issue)
  | none => factsOf (degraded key "issue not found in /issue_details response")

def Factual (key : String) (result : BlockerAnalysis) : Prop :=
  result.issueKey = key ∧ factsOf result = detailFacts tables config call today key

def SlotSound (slot : Slot) : Prop :=
  match slot.phase with
  | .waiting => True
  | .asking work =>
      ∃ issue, (issueMap call.issueDetails).get? slot.key = some issue ∧
        work = workFor call slot.key today issue
  | .returned result => Factual tables config call today slot.key result
  | .failed result => ∃ reason, result = degraded slot.key reason

structure BatchSound (keys : List String) (batch : AnalysisBatch) : Prop where
  keys : batch.slots.map Slot.key = keys
  cache : Sound (fun key cached => Factual tables config call today key.1 cached) batch.cache
  slots : ∀ slot ∈ batch.slots, SlotSound tables config call today slot

theorem issue_map_key
    (details : IssueDetailsResponse)
    (key : String)
    (issue : IssueDetail)
    (found : (issueMap details).get? key = some issue) : issue.key = key := by
  have filed : issueMap details = fileAll IssueDetail.key id ∅ details.issues := rfl
  rw [filed, get?_file_all, OrderedDict.get?_empty, Option.or_none, Option.map_id, id] at found
  exact last_filed_key found

theorem reattached_same
    (refs : List ConfluenceReference)
    (cached : BlockerAnalysis)
    (same : cached.confluenceRefs = refs) : reattached refs cached = cached := by
  unfold reattached
  rw [same]
  cases refs <;> simp

theorem detail_facts_found
    (key : String)
    (issue : IssueDetail)
    (found : (issueMap call.issueDetails).get? key = some issue) :
    detailFacts tables config call today key =
      freshFacts tables config (workFor call key today issue) := by
  rw [detailFacts, found]

theorem analyse_one_key
    (agent : String → AgentReply)
    (work : KeyAnalysis)
    (result : BlockerAnalysis)
    (analysed : analyseOne tables config agent work = .ok result) :
    result.issueKey = work.issue.key := by
  unfold analyseOne at analysed
  split at analysed <;> cases analysed
  rfl

theorem analysed_factual
    (agent : String → AgentReply)
    (key : String)
    (issue : IssueDetail)
    (result : BlockerAnalysis)
    (found : (issueMap call.issueDetails).get? key = some issue)
    (analysed : analyseOne tables config agent (workFor call key today issue) = .ok result) :
    Factual tables config call today key result := by
  constructor
  · rw [analyse_one_key tables config agent _ result analysed]
    exact issue_map_key call.issueDetails key issue found
  · rw [detail_facts_found tables config call today key issue found]
    exact analyse_one_facts tables config agent _ result analysed

/-- One part of a coroutine keeps the cache and its slot sound. -/
theorem slot_step_sound
    (cache : AnalysisCache)
    (slot : Slot)
    (input : BatchInput)
    (sound : Sound (fun key cached => Factual tables config call today key.1 cached) cache)
    (here : SlotSound tables config call today slot) :
    Sound (fun key cached => Factual tables config call today key.1 cached)
        (slotStep tables config call today cache slot input).1.cache ∧
      SlotSound tables config call today
        { slot with
          phase := slot.phase.after (slotStep tables config call today cache slot input).2 } := by
  rcases slot with ⟨key, phase⟩
  cases input with
  | start position =>
      cases phase with
      | waiting =>
          simp only [slotStep, startKey]
          cases found : (issueMap call.issueDetails).get? key with
          | none =>
              refine ⟨sound, rfl, ?_⟩
              rw [detailFacts, found]
          | some issue =>
              dsimp only
              cases hit : cachedFor { cache, running := [] } call (workFor call key today issue) with
              | none => exact ⟨sound, issue, found, rfl⟩
              | some cached =>
                  have factual := sound _ cached (cached_for_some _ call _ cached hit)
                  have refs : cached.confluenceRefs = (workFor call key today issue).refs := by
                    have facts : factsOf cached = detailFacts tables config call today key :=
                      factual.2
                    rw [detail_facts_found tables config call today key issue found] at facts
                    exact congrArg Facts.confluenceRefs facts
                  dsimp only
                  rw [reattached_same _ cached refs]
                  exact ⟨sound, factual⟩
      | asking work => exact ⟨sound, here⟩
      | returned result => exact ⟨sound, here⟩
      | failed result => exact ⟨sound, here⟩
  | answer position reply =>
      cases phase with
      | waiting => exact ⟨sound, here⟩
      | asking work =>
          rcases here with ⟨issue, found, same⟩
          dsimp only at found same
          subst same
          simp only [slotStep, answerKey, List.getElem?_cons_zero]
          cases outcome :
              analyseOne tables config (fun _ => reply) (workFor call key today issue) with
          | error error => exact ⟨sound, _, rfl⟩
          | ok result =>
              have factual := analysed_factual tables config call today _ key issue result found
                outcome
              have cached := write_back_sound config cache (cacheKey (workFor call key today issue))
                result sound (fun _ => sound) (fun _ => factual) fun _ _ _ _ kept => kept
              exact ⟨cached, factual⟩
      | returned result => exact ⟨sound, here⟩
      | failed result => exact ⟨sound, here⟩

theorem batch_step_sound
    (keys : List String)
    (batch : AnalysisBatch)
    (input : BatchInput)
    (sound : BatchSound tables config call today keys batch) :
    BatchSound tables config call today keys
      (batchStep tables config call today batch input).1 := by
  unfold batchStep
  cases here : batch.slots[input.position]? with
  | none => exact sound
  | some slot =>
      have member : slot ∈ batch.slots := List.mem_of_getElem? here
      have step := slot_step_sound tables config call today batch.cache slot input sound.cache
        (sound.slots slot member)
      constructor
      · rw [← sound.keys]
        exact labels_of_set Slot.key batch.slots input.position slot _ here rfl
      · exact step.1
      · intro other inNext
        rcases List.mem_or_eq_of_mem_set inNext with old | new
        · exact sound.slots other old
        · rw [new]
          exact step.2

theorem batch_sound
    (keys : List String)
    (inputs : List BatchInput) :
    BatchSound tables config call today keys
      (analyseKeys tables config call today keys inputs) := by
  have initial : BatchSound tables config call today keys (freshBatch keys) := by
    constructor
    · simp [freshBatch, Function.comp_def]
    · exact sound_empty _
    · intro slot member
      rcases List.mem_map.mp member with ⟨key, -, rfl⟩
      trivial
  apply run_invariant (BatchSound tables config call today keys) _ _ inputs initial
  · exact every_step_always (fun _ _ => trivial) _ inputs
  · intro batch input sound _
    exact batch_step_sound tables config call today keys batch input sound

theorem returned_result
    (keys : List String)
    (batch : AnalysisBatch)
    (results : List BlockerAnalysis)
    (sound : BatchSound tables config call today keys batch)
    (returns : batch.Returns results)
    (position : Nat)
    (key : String)
    (result : BlockerAnalysis)
    (asked : keys[position]? = some key)
    (given : results[position]? = some result) :
    (¬ batch.FailedAt position ∧ Factual tables config call today key result) ∨
      (batch.FailedAt position ∧ ∃ reason, result = degraded key reason) := by
  rw [← sound.keys, List.getElem?_map, Option.map_eq_some_iff] at asked
  rcases asked with ⟨slot, here, rfl⟩
  have shown : slot.result? = some result := by
    have both := congrArg (fun listed => listed[position]?) returns
    simp only [List.getElem?_map, here, given, Option.map_some] at both
    exact Option.some.inj both
  have kept := sound.slots slot (List.mem_of_getElem? here)
  unfold AnalysisBatch.FailedAt
  rw [here, Option.map_some]
  rcases slot with ⟨key, phase⟩
  cases phase with
  | waiting => cases shown
  | asking work => cases shown
  | returned other =>
      cases shown
      exact Or.inl ⟨by simp [Slot.failed], kept⟩
  | failed other =>
      cases shown
      exact Or.inr ⟨rfl, kept⟩

theorem returns_length
    (keys : List String)
    (batch : AnalysisBatch)
    (results : List BlockerAnalysis)
    (sound : BatchSound tables config call today keys batch)
    (returns : batch.Returns results) : results.length = keys.length := by
  have lengths := congrArg List.length returns
  rw [List.length_map, List.length_map] at lengths
  rw [← lengths, ← sound.keys, List.length_map]

theorem asked_key
    (keys : List String)
    (batch : AnalysisBatch)
    (results : List BlockerAnalysis)
    (sound : BatchSound tables config call today keys batch)
    (returns : batch.Returns results)
    (position : Nat)
    (result : BlockerAnalysis)
    (given : results[position]? = some result) : ∃ key, keys[position]? = some key := by
  have bound := (List.getElem?_eq_some_iff.mp given).1
  rw [returns_length tables config call today keys batch results sound returns] at bound
  exact ⟨keys[position], List.getElem?_eq_getElem bound⟩

theorem kept_factual
    (keys : List String)
    (batch : AnalysisBatch)
    (results : List BlockerAnalysis)
    (sound : BatchSound tables config call today keys batch)
    (returns : batch.Returns results)
    (position : Nat)
    (key : String)
    (result : BlockerAnalysis)
    (asked : keys[position]? = some key)
    (given : results[position]? = some result)
    (kept : ¬ batch.FailedAt position) : Factual tables config call today key result := by
  rcases returned_result tables config call today keys batch results sound returns position key
    result asked given with ⟨-, factual⟩ | ⟨lost, -⟩
  · exact factual
  · exact absurd lost kept

end Batch

section TwoRuns

variable (isoDate : String → Option Int) (rule : RankingRule) (rankingDay : Int)

theorem score_of_facts
    (first second : BlockerAnalysis)
    (same : factsOf first = factsOf second) :
    (scored isoDate rule rankingDay first).score =
      (scored isoDate rule rankingDay second).score := by
  have priority : first.priority = second.priority := congrArg Facts.priority same
  have days : first.daysBlocked = second.daysBlocked := congrArg Facts.daysBlocked same
  have dependents : first.dependentIssues = second.dependentIssues :=
    congrArg Facts.dependentIssues same
  have dueDate : first.dueDate = second.dueDate := congrArg Facts.dueDate same
  have flagged : first.flagged = second.flagged := congrArg Facts.flagged same
  simp only [scored, totalScore, priority, days, dependents, dueDate, flagged]

theorem filter_same_group
    (group : String → Bool)
    (first second : List (String × Int))
    (sameLength : first.length = second.length)
    (agree : ∀ (position : Nat) (one other : String × Int), first[position]? = some one →
      second[position]? = some other →
      one.1 = other.1 ∧ (group one.1 = true → one = other)) :
    first.filter (fun standing => group standing.1) =
      second.filter (fun standing => group standing.1) := by
  induction first generalizing second with
  | nil => rw [List.length_eq_zero_iff.mp sameLength.symm]
  | cons one rest ih =>
      cases second with
      | nil => cases sameLength
      | cons other others =>
          have head := agree 0 one other rfl rfl
          have tail := ih others (Nat.succ.inj sameLength) fun position =>
            agree (position + 1)
          rw [List.filter_cons, List.filter_cons, ← head.1, tail]
          cases grouped : group one.1 with
          | false => rfl
          | true => rw [head.2 grouped]

variable (tables : AnalyserTables) (config : AnalyserConfig) (call : AnalyseCall) (today : Int)

def SameFate (keys : List String) (first second : AnalysisBatch) (group : String → Bool) : Prop :=
  ∀ (position : Nat) (key : String), keys[position]? = some key → group key = true →
    (first.FailedAt position ↔ second.FailedAt position)

theorem same_fate_standings
    (keys : List String)
    (first second : AnalysisBatch)
    (firstResults secondResults : List BlockerAnalysis)
    (firstSound : BatchSound tables config call today keys first)
    (secondSound : BatchSound tables config call today keys second)
    (firstReturns : first.Returns firstResults)
    (secondReturns : second.Returns secondResults)
    (group : String → Bool)
    (sameFate : SameFate keys first second group) :
    (standings isoDate rule rankingDay firstResults).filter (fun standing => group standing.1) =
      (standings isoDate rule rankingDay secondResults).filter
        (fun standing => group standing.1) := by
  have firstLength := returns_length tables config call today keys first firstResults firstSound
    firstReturns
  have secondLength := returns_length tables config call today keys second secondResults
    secondSound secondReturns
  apply filter_same_group
  · rw [standings, standings, List.length_map, List.length_map, firstLength, secondLength]
  · intro position one other oneHere otherHere
    rw [standings, List.getElem?_map, Option.map_eq_some_iff] at oneHere otherHere
    rcases oneHere with ⟨result, given, rfl⟩
    rcases otherHere with ⟨otherResult, otherGiven, rfl⟩
    rcases asked_key tables config call today keys first firstResults firstSound firstReturns
      position result given with ⟨key, asked⟩
    have one := returned_result tables config call today keys first firstResults firstSound
      firstReturns position key result asked given
    have other := returned_result tables config call today keys second secondResults secondSound
      secondReturns position key otherResult asked otherGiven
    have fate := sameFate position key asked
    rcases one with ⟨kept, factual⟩ | ⟨lost, reason, rfl⟩
    · rcases other with ⟨_, otherFactual⟩ | ⟨otherLost, otherReason, rfl⟩
      · have sameKey : result.issueKey = otherResult.issueKey := by
          rw [factual.1, otherFactual.1]
        have sameScore := score_of_facts isoDate rule rankingDay result otherResult
          (factual.2.trans otherFactual.2.symm)
        exact ⟨sameKey, fun _ => Prod.ext sameKey sameScore⟩
      · refine ⟨factual.1, ?_⟩
        intro grouped
        change group result.issueKey = true at grouped
        rw [factual.1] at grouped
        exact absurd ((fate grouped).mpr otherLost) kept
    · rcases other with ⟨otherKept, otherFactual⟩ | ⟨_, otherReason, rfl⟩
      · exact ⟨otherFactual.1.symm, fun grouped => absurd ((fate grouped).mp lost) otherKept⟩
      · exact ⟨rfl, fun _ => rfl⟩

/-- Whatever the LLM answers, an issue on which it failed in neither run has one
set of facts and one score, and one on which it failed is a placeholder. Issues
that failed in both runs or in neither are ranked in one order. -/
theorem ranking_ignores_suggestions
    (keys : List String)
    (firstInputs secondInputs : List BatchInput)
    (firstResults secondResults : List BlockerAnalysis)
    (firstReturns :
      (analyseKeys tables config call today keys firstInputs).Returns firstResults)
    (secondReturns :
      (analyseKeys tables config call today keys secondInputs).Returns secondResults) :
    let first := analyseKeys tables config call today keys firstInputs
    let second := analyseKeys tables config call today keys secondInputs
    (∀ (position : Nat) (one other : BlockerAnalysis), firstResults[position]? = some one →
      secondResults[position]? = some other →
      ¬ first.FailedAt position → ¬ second.FailedAt position →
        factsOf one = factsOf other ∧
        (scored isoDate rule rankingDay one).score =
          (scored isoDate rule rankingDay other).score) ∧
    (∀ (position : Nat) (key : String) (one : BlockerAnalysis), keys[position]? = some key →
      firstResults[position]? = some one → first.FailedAt position →
        ∃ reason, one = degraded key reason) ∧
    ∀ group : String → Bool, SameFate keys first second group →
      (∀ count : Int, keys.length ≤ count →
        ((rank isoDate rule rankingDay firstResults (some count)).map standing).filter
            (fun standing => group standing.1) =
          ((rank isoDate rule rankingDay secondResults (some count)).map standing).filter
            (fun standing => group standing.1)) ∧
      ((∀ key, group key = true) → ∀ topN : Option Int,
        (rank isoDate rule rankingDay firstResults topN).map standing =
          (rank isoDate rule rankingDay secondResults topN).map standing) := by
  intro first second
  have firstSound := batch_sound tables config call today keys firstInputs
  have secondSound := batch_sound tables config call today keys secondInputs
  have firstLength := returns_length tables config call today keys first firstResults firstSound
    firstReturns
  have secondLength := returns_length tables config call today keys second secondResults
    secondSound secondReturns
  refine ⟨?_, ?_, ?_⟩
  · intro position one other given otherGiven kept otherKept
    rcases asked_key tables config call today keys first firstResults firstSound firstReturns
      position one given with ⟨key, asked⟩
    have factual := kept_factual tables config call today keys first firstResults firstSound
      firstReturns position key one asked given kept
    have otherFactual := kept_factual tables config call today keys second secondResults
      secondSound secondReturns position key other asked otherGiven otherKept
    have facts := factual.2.trans otherFactual.2.symm
    exact ⟨facts, score_of_facts isoDate rule rankingDay one other facts⟩
  · intro position key one asked given lost
    rcases returned_result tables config call today keys first firstResults firstSound firstReturns
      position key one asked given with ⟨kept, -⟩ | ⟨-, placeholder⟩
    · exact absurd lost kept
    · exact placeholder
  · intro group sameFate
    have same := same_fate_standings isoDate rule rankingDay tables config call today keys first
      second firstResults secondResults firstSound secondSound firstReturns secondReturns group
      sameFate
    constructor
    · intro count covers
      rw [rank_group _ _ _ _ _ (by omega), rank_group _ _ _ _ _ (by omega), same]
    · intro all topN
      have everyone : ∀ analyses : List BlockerAnalysis,
          (standings isoDate rule rankingDay analyses).filter
            (fun standing => group standing.1) = standings isoDate rule rankingDay analyses :=
        fun analyses => List.filter_eq_self.mpr fun standing _ => all standing.1
      rw [everyone, everyone] at same
      rw [rank_standings, rank_standings, same]

end TwoRuns

def AnalysisBatch.results (batch : AnalysisBatch) : List BlockerAnalysis :=
  batch.slots.filterMap Slot.result?

def linkedIssue : IssueDetail where
  key := "CAR-102"
  links := [{ type := "Blocks", direction := .outward, linkedIssueKey := "CAR-300" }]

def pairKeys : List String := ["CAR-101", "CAR-102"]

def analysePair (inputs : List BatchInput) : AnalysisBatch :=
  analyseKeys sampleTables sampleConfig { issueDetails := { issues := [blockedIssue, linkedIssue] } }
    739801 pairKeys inputs

def rankedKeys (batch : AnalysisBatch) : List String :=
  (rank isoDayNumber {} 739801 batch.results none).map BlockerAnalysis.issueKey

def bothAnswered : List BatchInput :=
  [.start 0, .start 1, .answer 0 (.ok sampleSuggestions), .answer 1 (.ok sampleSuggestions)]

def secondFailed : List BatchInput :=
  [.start 1, .answer 1 (.error (.agentRun "timeout")), .start 0,
    .answer 0 (.ok { sampleSuggestions with mitigation := "Wait." })]

def firstFailed : List BatchInput :=
  [.start 0, .start 1, .answer 0 (.error (.agentRun "timeout")),
    .answer 1 (.ok sampleSuggestions)]

theorem first_issue_alike :
    ((analysePair bothAnswered).results[0]?.map factsOf =
        (analysePair secondFailed).results[0]?.map factsOf) ∧
      ((rank isoDayNumber {} 739801 (analysePair bothAnswered).results (some 2)).map
          standing).filter (fun standing => standing.1 = "CAR-101") =
        ((rank isoDayNumber {} 739801 (analysePair secondFailed).results (some 2)).map
          standing).filter (fun standing => standing.1 = "CAR-101") := by
  have both : (analysePair bothAnswered).Returns (analysePair bothAnswered).results := by
    unfold AnalysisBatch.Returns
    decide +kernel
  have one : (analysePair secondFailed).Returns (analysePair secondFailed).results := by
    unfold AnalysisBatch.Returns
    decide +kernel
  have kept : ¬ (analysePair bothAnswered).FailedAt 0 := by
    unfold AnalysisBatch.FailedAt
    decide +kernel
  have alsoKept : ¬ (analysePair secondFailed).FailedAt 0 := by
    unfold AnalysisBatch.FailedAt
    decide +kernel
  have same := ranking_ignores_suggestions isoDayNumber {} 739801 sampleTables sampleConfig _ 739801
    pairKeys bothAnswered secondFailed _ _ both one
  constructor
  · obtain ⟨result, given⟩ : ∃ result, (analysePair bothAnswered).results[0]? = some result :=
      Option.isSome_iff_exists.mp (by decide +kernel)
    obtain ⟨other, otherGiven⟩ : ∃ other, (analysePair secondFailed).results[0]? = some other :=
      Option.isSome_iff_exists.mp (by decide +kernel)
    rw [given, otherGiven]
    exact congrArg some (same.1 0 result other given otherGiven kept alsoKept).1
  · apply (same.2.2 (fun key => key = "CAR-101") _).1 2 (by decide)
    intro position key asked grouped
    match position with
    | 0 => exact iff_of_false kept alsoKept
    | 1 =>
        cases asked
        cases grouped
    | _ + 2 => cases asked

/-- The failed call takes the issue's days and owner with it, and its place. -/
theorem failed_call_changes_ranking :
    (analysePair bothAnswered).Returns (analysePair bothAnswered).results ∧
      (analysePair firstFailed).Returns (analysePair firstFailed).results ∧
      (analysePair bothAnswered).results.map BlockerAnalysis.daysBlocked = [3, 0] ∧
      (analysePair firstFailed).results.map BlockerAnalysis.daysBlocked = [0, 0] ∧
      (analysePair bothAnswered).results.map BlockerAnalysis.owner = ["Ana", "Unassigned"] ∧
      (analysePair firstFailed).results.map BlockerAnalysis.owner = ["unknown", "Unassigned"] ∧
      rankedKeys (analysePair bothAnswered) = ["CAR-101", "CAR-102"] ∧
      rankedKeys (analysePair firstFailed) = ["CAR-102", "CAR-101"] := by
  unfold AnalysisBatch.Returns
  decide +kernel

end AtlasMindNetra.IssueAnalyser
