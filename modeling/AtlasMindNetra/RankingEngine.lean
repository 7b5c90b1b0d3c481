import AtlasMindNetra.ResponseModels
import AtlasMindNetra.SortRules

/-!
# The ranking engine

`core/ranking_engine.py` with the weights of `models/ranking.py`. A score is
read off the fact fields of an analysis alone. Weights are integers, and their
sums stay in the range where the floats of the source are exact.
-/

namespace AtlasMindNetra.RankingEngine

open AtlasMindNetra.PythonValues AtlasMindNetra.ResponseModels AtlasMindNetra.SortRules

set_option autoImplicit false

structure PriorityWeights where
  blocker : Int := 40
  critical : Int := 30
  high : Int := 15
  default : Int := 0

structure DaysBlockedWeights where
  perDay : Int := 2
  cap : Int := 30

structure DependentIssuesWeights where
  perIssue : Int := 5
  cap : Int := 25

structure MilestoneProximityWeights where
  dueWithin7d : Int := 20
  dueWithin14d : Int := 10

structure RankingWeights where
  priority : PriorityWeights := {}
  daysBlocked : DaysBlockedWeights := {}
  dependentIssues : DependentIssuesWeights := {}
  milestoneProximity : MilestoneProximityWeights := {}
  flagged : Int := 10

structure RankingRule where
  weights : RankingWeights := {}
  topN : Int := 5

/-- `w.priority.model_dump()` -/
def PriorityWeights.modelDump (weights : PriorityWeights) : OrderedDict String Int :=
  (((OrderedDict.set ∅ "Blocker" weights.blocker).set "Critical" weights.critical).set "High"
    weights.high).set "default" weights.default

section Scores

-- `date.fromisoformat` as a day number, and `none` for `ValueError`.
variable (isoDate : String → Option Int)

def priorityScore (weights : PriorityWeights) (priority : Option String) : Int :=
  (weights.modelDump.get? (priority.getD "")).getD weights.default

/-- An overdue issue gets no bonus, and neither does an unreadable date. -/
def proximityScore (weights : MilestoneProximityWeights) (today : Int) (dueDate : Option String) :
    Int :=
  match (truthyText dueDate).bind isoDate with
  | none => 0
  | some due =>
      let daysUntilDue := due - today
      if daysUntilDue < 0 then 0
      else if daysUntilDue ≤ 7 then weights.dueWithin7d
      else if daysUntilDue ≤ 14 then weights.dueWithin14d
      else 0

def totalScore (weights : RankingWeights) (today : Int) (analysis : BlockerAnalysis) : Int :=
  priorityScore weights.priority analysis.priority +
    min (analysis.daysBlocked * weights.daysBlocked.perDay) weights.daysBlocked.cap +
    min (analysis.dependentIssues.length * weights.dependentIssues.perIssue)
      weights.dependentIssues.cap +
    proximityScore isoDate weights.milestoneProximity today analysis.dueDate +
    (if analysis.flagged then weights.flagged else 0)

/-- `_score` -/
def scored (rule : RankingRule) (today : Int) (analysis : BlockerAnalysis) : BlockerAnalysis :=
  { analysis with score := totalScore isoDate rule.weights today analysis }

/-- `rank`: the highest scores first, equal scores in the order given. -/
def rank (rule : RankingRule) (today : Int) (analyses : List BlockerAnalysis)
    (topN : Option Int) : List BlockerAnalysis :=
  sliceTo (topN.getD rule.topN)
    ((analyses.map (scored isoDate rule today)).insertionSort fun first second =>
      second.score ≤ first.score)

def standing (analysis : BlockerAnalysis) : String × Int := (analysis.issueKey, analysis.score)

end Scores

section Rankings

variable (isoDate : String → Option Int)

def Precedes (first second : String × Int) : Prop := second.2 ≤ first.2

instance : DecidableRel Precedes := fun _ _ => inferInstanceAs (Decidable (_ ≤ _))

instance : IsTrans (String × Int) Precedes := ⟨fun _ _ _ first second => le_trans second first⟩

instance : Std.Total Precedes := ⟨fun first second => le_total second.2 first.2⟩

def standings (rule : RankingRule) (today : Int) (analyses : List BlockerAnalysis) :
    List (String × Int) :=
  analyses.map fun analysis => standing (scored isoDate rule today analysis)

theorem rank_standings
    (rule : RankingRule)
    (today : Int)
    (topN : Option Int)
    (analyses : List BlockerAnalysis) :
    (rank isoDate rule today analyses topN).map standing =
      sliceTo (topN.getD rule.topN)
        ((standings isoDate rule today analyses).insertionSort Precedes) := by
  rw [rank, map_slice_to]
  congr 1
  rw [List.map_insertionSort _ Precedes, List.map_map]
  · rfl
  · exact fun _ _ _ _ => Iff.rfl

theorem rank_group
    (rule : RankingRule)
    (today count : Int)
    (analyses : List BlockerAnalysis)
    (covers : analyses.length ≤ count)
    (group : String × Int → Bool) :
    ((rank isoDate rule today analyses (some count)).map standing).filter group =
      ((standings isoDate rule today analyses).filter group).insertionSort Precedes := by
  have all : (((standings isoDate rule today analyses).insertionSort Precedes).length : Int) ≤
      count := by
    rw [List.length_insertionSort, standings, List.length_map]
    exact covers
  rw [rank_standings, Option.getD_some, slice_to_all _ _ all, filter_insertion_sort]

end Rankings

end AtlasMindNetra.RankingEngine
