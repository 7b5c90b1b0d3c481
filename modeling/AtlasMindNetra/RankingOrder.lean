import AtlasMindNetra.RankingEngine

/-!
# The order of a ranking

Items of one ranking may be equal, so an item is told by its position in the
list given to `rank`. The order of these positions says which items are
returned, in which order, and what becomes of an item whose facts get worse.
-/

namespace AtlasMindNetra.RankingEngine

open AtlasMindNetra.PythonValues AtlasMindNetra.ResponseModels AtlasMindNetra.SortRules

set_option autoImplicit false

section Order

variable (isoDate : String → Option Int) (rule : RankingRule) (today : Int)

def scoreAt (analyses : List BlockerAnalysis) (position : Nat) : Int :=
  (analyses[position]?.map (totalScore isoDate rule.weights today)).getD 0

/-- The positions of all analyses in the order in which `rank` has them before it cuts. -/
def rankOrder (analyses : List BlockerAnalysis) : List Nat :=
  (List.range analyses.length).insertionSort fun first second =>
    scoreAt isoDate rule today analyses second ≤ scoreAt isoDate rule today analyses first

def rankedAt (analyses : List BlockerAnalysis) (position : Nat) : Option BlockerAnalysis :=
  analyses[position]?.map fun analysis =>
    { analysis with score := scoreAt isoDate rule today analyses position }

theorem ranked_at_scored
    (analyses : List BlockerAnalysis)
    (position : Nat) :
    rankedAt isoDate rule today analyses position =
      analyses[position]?.map (scored isoDate rule today) := by
  unfold rankedAt scoreAt
  cases analyses[position]? with
  | none => rfl
  | some analysis => rfl

/-- `rank` returns the analyses at the first positions of the order. -/
theorem rank_of_order
    (analyses : List BlockerAnalysis)
    (topN : Option Int) :
    (rank isoDate rule today analyses topN).map some =
      (sliceTo (topN.getD rule.topN) (rankOrder isoDate rule today analyses)).map
        (rankedAt isoDate rule today analyses) := by
  have given : (analyses.map (scored isoDate rule today)).map some =
      (List.range analyses.length).map (rankedAt isoDate rule today analyses) := by
    apply List.ext_getElem?
    intro position
    rw [List.getElem?_map, List.getElem?_map, List.getElem?_map]
    by_cases inside : position < analyses.length
    · rw [List.getElem?_range inside, Option.map_some, ranked_at_scored,
        List.getElem?_eq_getElem inside]
      rfl
    · rw [List.getElem?_eq_none (by omega), List.getElem?_eq_none (by simpa using inside)]
      rfl
  -- Both sorts compare the scores of analyses that may be missing.
  let scoreOf (analysis : Option BlockerAnalysis) : Int :=
    (analysis.map BlockerAnalysis.score).getD 0
  rw [rank, map_slice_to, map_slice_to, rankOrder]
  congr 1
  rw [List.map_insertionSort (fun first second : BlockerAnalysis => second.score ≤ first.score)
      (fun first second => scoreOf second ≤ scoreOf first) some _ (fun _ _ _ _ => Iff.rfl),
    List.map_insertionSort _ (fun first second => scoreOf second ≤ scoreOf first)
      (rankedAt isoDate rule today analyses), given]
  intro first firstInside second secondInside
  have score : ∀ position ∈ List.range analyses.length,
      scoreOf (rankedAt isoDate rule today analyses position) =
        scoreAt isoDate rule today analyses position := by
    intro position inside
    simp only [scoreOf, rankedAt, List.getElem?_eq_getElem (List.mem_range.mp inside),
      Option.map_some, Option.getD_some]
  rw [score first firstInside, score second secondInside]

theorem rank_order_perm (analyses : List BlockerAnalysis) :
    List.Perm (rankOrder isoDate rule today analyses) (List.range analyses.length) :=
  List.perm_insertionSort _ _

theorem rank_order_nodup (analyses : List BlockerAnalysis) :
    (rankOrder isoDate rule today analyses).Nodup :=
  (rank_order_perm isoDate rule today analyses).nodup_iff.mpr List.nodup_range

theorem mem_rank_order
    (analyses : List BlockerAnalysis)
    (position : Nat) :
    position ∈ rankOrder isoDate rule today analyses ↔ position < analyses.length := by
  rw [(rank_order_perm isoDate rule today analyses).mem_iff, List.mem_range]

theorem rank_order_length (analyses : List BlockerAnalysis) :
    (rankOrder isoDate rule today analyses).length = analyses.length := by
  rw [(rank_order_perm isoDate rule today analyses).length_eq, List.length_range]

theorem rank_order_ranked (analyses : List BlockerAnalysis) :
    Ranked (· < ·) (scoreAt isoDate rule today analyses) (rankOrder isoDate rule today analyses) :=
  ranked_sort (· < ·) _ _ List.pairwise_lt_range

theorem rank_descends
    (analyses : List BlockerAnalysis)
    (topN : Option Int) :
    (rank isoDate rule today analyses topN).Pairwise fun first second =>
      second.score ≤ first.score := by
  have trans : IsTrans BlockerAnalysis fun first second => second.score ≤ first.score :=
    ⟨fun _ _ _ first second => le_trans second first⟩
  have total : Std.Total fun first second : BlockerAnalysis => second.score ≤ first.score :=
    ⟨fun first second => le_total second.score first.score⟩
  have sorted := List.pairwise_insertionSort
    (fun first second : BlockerAnalysis => second.score ≤ first.score)
    (analyses.map (scored isoDate rule today))
  unfold rank sliceTo
  split_ifs
  · exact sorted.sublist (List.take_sublist _ _)
  · exact sorted.sublist (List.take_sublist _ _)

/-- The returned items stand at distinct positions, are ordered by their scores
and then by these positions, and no omitted item belongs before the last of them. -/
theorem rank_is_stable_top_n
    (analyses : List BlockerAnalysis)
    (topN : Option Int)
    (wanted : 0 ≤ topN.getD rule.topN) :
    (rank isoDate rule today analyses topN).length =
        min (topN.getD rule.topN).toNat analyses.length ∧
      (rank isoDate rule today analyses topN).Pairwise
        (fun first second => second.score ≤ first.score) ∧
      ∃ kept : List Nat, kept.Nodup ∧ (∀ position ∈ kept, position < analyses.length) ∧
        (rank isoDate rule today analyses topN).map some =
          kept.map (rankedAt isoDate rule today analyses) ∧
        kept.Pairwise (fun first second =>
          scoreAt isoDate rule today analyses first = scoreAt isoDate rule today analyses second →
            first < second) ∧
        ∀ omitted last, omitted < analyses.length → omitted ∉ kept → kept.getLast? = some last →
          scoreAt isoDate rule today analyses omitted ≤ scoreAt isoDate rule today analyses last ∧
          (scoreAt isoDate rule today analyses omitted = scoreAt isoDate rule today analyses last →
            last < omitted) := by
  have listed := rank_of_order isoDate rule today analyses topN
  have descends := rank_descends isoDate rule today analyses topN
  have ranked := rank_order_ranked isoDate rule today analyses
  have distinct := rank_order_nodup isoDate rule today analyses
  rw [sliceTo, if_neg (by omega)] at listed
  generalize (topN.getD rule.topN).toNat = count at listed ⊢
  have split := List.take_append_drop count (rankOrder isoDate rule today analyses)
  have inside : ∀ position ∈ (rankOrder isoDate rule today analyses).take count,
      position < analyses.length := fun position member =>
    (mem_rank_order isoDate rule today analyses position).mp (List.mem_of_mem_take member)
  refine ⟨?_, descends, _, distinct.sublist (List.take_sublist _ _), inside, listed, ?_, ?_⟩
  · have lengths := congrArg List.length listed
    rw [List.length_map, List.length_map, List.length_take, rank_order_length] at lengths
    exact lengths
  · exact (List.Pairwise.sublist (List.take_sublist _ _) ranked).imp fun order => order.2
  · intro omitted last bound absent ends
    have dropped : omitted ∈ (rankOrder isoDate rule today analyses).drop count := by
      have member := (mem_rank_order isoDate rule today analyses omitted).mpr bound
      rw [← split] at member
      exact (List.mem_append.mp member).resolve_left absent
    rw [Ranked, ← split] at ranked
    have order := (List.pairwise_append.mp ranked).2.2 last (List.mem_of_getLast? ends) omitted
      dropped
    exact ⟨order.1, fun same => order.2 same.symm⟩

end Order

section Worse

/-- The second analysis differs in facts that make an issue more urgent, and in no others. -/
structure Worsened (item worse : BlockerAnalysis) : Prop where
  days : item.daysBlocked ≤ worse.daysBlocked
  dependents : item.dependentIssues.length ≤ worse.dependentIssues.length
  flagged : item.flagged = true → worse.flagged = true
  others : worse =
    { item with
      daysBlocked := worse.daysBlocked
      dependentIssues := worse.dependentIssues
      flagged := worse.flagged }

variable (isoDate : String → Option Int) (rule : RankingRule) (today : Int)

theorem worsened_score
    (item worse : BlockerAnalysis)
    (perDay : 0 ≤ rule.weights.daysBlocked.perDay)
    (perIssue : 0 ≤ rule.weights.dependentIssues.perIssue)
    (flaggedWeight : 0 ≤ rule.weights.flagged)
    (worsened : Worsened item worse) :
    totalScore isoDate rule.weights today item ≤ totalScore isoDate rule.weights today worse := by
  have priority : worse.priority = item.priority := by rw [worsened.others]
  have dueDate : worse.dueDate = item.dueDate := by rw [worsened.others]
  have days := Int.mul_le_mul_of_nonneg_right worsened.days perDay
  have dependents : (item.dependentIssues.length : Int) * rule.weights.dependentIssues.perIssue ≤
      worse.dependentIssues.length * rule.weights.dependentIssues.perIssue :=
    Int.mul_le_mul_of_nonneg_right (by exact_mod_cast worsened.dependents) perIssue
  have flagged : (if item.flagged = true then rule.weights.flagged else 0) ≤
      if worse.flagged = true then rule.weights.flagged else 0 := by
    by_cases before : item.flagged = true
    · rw [if_pos before, if_pos (worsened.flagged before)]
    · rw [if_neg before]
      split_ifs
      · exact flaggedWeight
      · exact le_refl 0
  unfold totalScore
  rw [priority, dueDate]
  omega

theorem score_at_other
    (analyses : List BlockerAnalysis)
    (position other : Nat)
    (worse : BlockerAnalysis)
    (apart : other ≠ position) :
    scoreAt isoDate rule today (analyses.set position worse) other =
      scoreAt isoDate rule today analyses other := by
  rw [scoreAt, List.getElem?_set_ne (Ne.symm apart), scoreAt]

theorem score_at_set
    (analyses : List BlockerAnalysis)
    (position : Nat)
    (worse : BlockerAnalysis)
    (inside : position < analyses.length) :
    scoreAt isoDate rule today (analyses.set position worse) position =
      totalScore isoDate rule.weights today worse := by
  rw [scoreAt, List.getElem?_set_self inside]
  rfl

/-- If one item gets worse, it does not come later in the full ranking, the
others keep their order, and whatever the cut, the item is not cut off. -/
theorem worse_issue_never_sinks
    (perDay : 0 ≤ rule.weights.daysBlocked.perDay)
    (perIssue : 0 ≤ rule.weights.dependentIssues.perIssue)
    (flaggedWeight : 0 ≤ rule.weights.flagged)
    (analyses : List BlockerAnalysis)
    (position : Nat)
    (item worse : BlockerAnalysis)
    (here : analyses[position]? = some item)
    (worsened : Worsened item worse) :
    let order := rankOrder isoDate rule today analyses
    let next := rankOrder isoDate rule today (analyses.set position worse)
    next.idxOf position ≤ order.idxOf position ∧
      next.filter (· ≠ position) = order.filter (· ≠ position) ∧
      ∀ topN : Option Int,
        (rank isoDate rule today analyses topN).map some =
          (sliceTo (topN.getD rule.topN) order).map (rankedAt isoDate rule today analyses) ∧
        (rank isoDate rule today (analyses.set position worse) topN).map some =
          (sliceTo (topN.getD rule.topN) next).map
            (rankedAt isoDate rule today (analyses.set position worse)) ∧
        (position ∈ sliceTo (topN.getD rule.topN) order →
          position ∈ sliceTo (topN.getD rule.topN) next) := by
  intro order next
  rcases List.getElem?_eq_some_iff.mp here with ⟨inside, itself⟩
  have score : scoreAt isoDate rule today analyses position =
      totalScore isoDate rule.weights today item := by
    rw [scoreAt, here]
    rfl
  have more : scoreAt isoDate rule today analyses position ≤
      scoreAt isoDate rule today (analyses.set position worse) position := by
    rw [score, score_at_set isoDate rule today analyses position worse inside]
    exact worsened_score isoDate rule today item worse perDay perIssue flaggedWeight worsened
  have others : ∀ other, other ≠ position →
      scoreAt isoDate rule today (analyses.set position worse) other =
        scoreAt isoDate rule today analyses other := fun other apart =>
    score_at_other isoDate rule today analyses position other worse apart
  have same : List.Perm order next := by
    have range := rank_order_perm isoDate rule today (analyses.set position worse)
    rw [List.length_set] at range
    exact (rank_order_perm isoDate rule today analyses).trans range.symm
  have member : position ∈ order :=
    (mem_rank_order isoDate rule today analyses position).mpr inside
  have notLater : next.idxOf position ≤ order.idxOf position :=
    raised_not_later (· < ·) (fun _ _ => lt_asymm) _ _ position others more order next same
      (rank_order_nodup isoDate rule today analyses)
      (rank_order_ranked isoDate rule today analyses)
      (rank_order_ranked isoDate rule today (analyses.set position worse)) member
  refine ⟨notLater, ?_, ?_⟩
  · have kept := raised_keeps_others _ _ position others (List.range analyses.length)
    have sorted : next = (List.range analyses.length).insertionSort fun first second =>
        scoreAt isoDate rule today (analyses.set position worse) second ≤
          scoreAt isoDate rule today (analyses.set position worse) first := by
      change rankOrder isoDate rule today (analyses.set position worse) = _
      rw [rankOrder, List.length_set]
    rw [sorted]
    exact kept
  · intro topN
    refine ⟨rank_of_order isoDate rule today analyses topN,
      rank_of_order isoDate rule today (analyses.set position worse) topN, ?_⟩
    intro kept
    unfold sliceTo at kept ⊢
    rw [← same.length_eq]
    split_ifs at kept ⊢
    · rw [List.mem_take_iff_idxOf_lt member] at kept
      rw [List.mem_take_iff_idxOf_lt (same.mem_iff.mp member)]
      exact lt_of_le_of_lt notLater kept
    · rw [List.mem_take_iff_idxOf_lt member] at kept
      rw [List.mem_take_iff_idxOf_lt (same.mem_iff.mp member)]
      exact lt_of_le_of_lt notLater kept

end Worse

def blockedFor (key : String) (days : Int) : BlockerAnalysis where
  issueKey := key
  summary := ""
  blockedReason := ""
  daysBlocked := days
  owner := "Ana"
  suggestedResolution := ""
  mitigation := ""
  riskNote := ""

def threeIssues : List BlockerAnalysis :=
  [blockedFor "CAR-101" 1, blockedFor "CAR-102" 3, blockedFor "CAR-103" 3]

/-- The two issues with equal scores come in the order given, and the third is left out. -/
theorem two_of_three_ranked :
    (rank (fun _ => none) {} 739801 threeIssues (some 2)).length = 2 ∧
      (rank (fun _ => none) {} 739801 threeIssues (some 2)).map BlockerAnalysis.issueKey =
        ["CAR-102", "CAR-103"] := by
  have stable := rank_is_stable_top_n (fun _ => none) {} 739801 threeIssues (some 2) (by decide)
  exact ⟨stable.1, by decide +kernel⟩

/-- Two more days carry the first issue past the others and into the first two. -/
theorem first_issue_rises :
    0 ∉ sliceTo 2 (rankOrder (fun _ => none) {} 739801 threeIssues) ∧
      (rankOrder (fun _ => none) {} 739801 (threeIssues.set 0 (blockedFor "CAR-101" 3))).filter
          (· ≠ 0) =
        (rankOrder (fun _ => none) {} 739801 threeIssues).filter (· ≠ 0) ∧
      0 ∈ sliceTo 2
        (rankOrder (fun _ => none) {} 739801 (threeIssues.set 0 (blockedFor "CAR-101" 3))) := by
  have worsened : Worsened (blockedFor "CAR-101" 1) (blockedFor "CAR-101" 3) :=
    ⟨by decide, by decide, by decide, rfl⟩
  have rises := worse_issue_never_sinks (fun _ => none) {} 739801 (by decide) (by decide)
    (by decide) threeIssues 0 (blockedFor "CAR-101" 1) (blockedFor "CAR-101" 3) rfl worsened
  exact ⟨by decide +kernel, rises.2.1, by decide +kernel⟩

end AtlasMindNetra.RankingEngine
