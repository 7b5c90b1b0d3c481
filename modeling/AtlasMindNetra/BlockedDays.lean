import AtlasMindNetra.IssueAnalyser
import Mathlib.Data.List.DropRight

/-!
# Continuous blocking

How long an issue has been blocked is a matter of all the transitions that its
changelog ends with. The code looks at the last of them only.
-/

namespace AtlasMindNetra.IssueAnalyser

open AtlasMindNetra.PythonValues AtlasMindNetra.ResponseModels

set_option autoImplicit false

section Changelogs

variable (tables : AnalyserTables) (blockedStatuses : List String)

def entersBlocked (entry : ChangelogEntry) : Bool :=
  decide (tables.lower (tables.strip entry.toValue) ∈ blockedStatuses)

/-- The transitions into blocked statuses that the changelog ends with. -/
def blockedRun (changelog : List ChangelogEntry) : List ChangelogEntry :=
  changelog.rtakeWhile (entersBlocked tables blockedStatuses)

/-- No longer suffix of the changelog goes into blocked statuses only. -/
theorem blocked_run_longest
    (changelog suffix : List ChangelogEntry)
    (ends : suffix <:+ changelog)
    (blocked : ∀ entry ∈ suffix, entersBlocked tables blockedStatuses entry = true) :
    suffix <:+ blockedRun tables blockedStatuses changelog := by
  induction changelog using List.reverseRecOn generalizing suffix with
  | nil => exact ends
  | append_singleton earlier last ih =>
      unfold blockedRun at ih ⊢
      rcases List.suffix_concat_iff.mp ends with rfl | ⟨shorter, rfl, inside⟩
      · exact List.nil_suffix
      · have lastBlocked := blocked last (List.mem_append_right _ (List.mem_singleton_self last))
        rw [List.rtakeWhile_concat_pos _ _ last lastBlocked]
        have run := ih shorter inside fun entry member =>
          blocked entry (List.mem_append_left _ member)
        exact List.suffix_append_self_iff.mpr run

end Changelogs

section Measure

variable (tables : AnalyserTables) (blockedStatuses : List String) (issue : IssueDetail)
variable (today : Int)

/-- `days_blocked` counts from the first transition of the run, and there is
nothing to count for an issue that is not blocked. -/
structure MeasuresContinuousBlocking : Prop where
  unblocked :
    (∀ last, issue.changelog.getLast? = some last →
      entersBlocked tables blockedStatuses last = false) →
    computeDaysBlocked tables blockedStatuses issue today = 0
  blocked : ∀ first rest day,
    blockedRun tables blockedStatuses issue.changelog = first :: rest →
    tables.isoDay first.timestamp = some day →
    computeDaysBlocked tables blockedStatuses issue today = max 0 (today - day)

/-- The run begins on the day of its last transition, or not before today. -/
def RunWithinOneDay : Prop :=
  ∀ first last firstDay lastDay,
    (blockedRun tables blockedStatuses issue.changelog).head? = some first →
    (blockedRun tables blockedStatuses issue.changelog).getLast? = some last →
    tables.isoDay first.timestamp = some firstDay →
    tables.isoDay last.timestamp = some lastDay →
    firstDay = lastDay ∨ today ≤ firstDay ∧ today ≤ lastDay

theorem days_blocked_outside
    (outside : ∀ last, issue.changelog.getLast? = some last →
      entersBlocked tables blockedStatuses last = false) :
    computeDaysBlocked tables blockedStatuses issue today = 0 := by
  unfold computeDaysBlocked
  rw [← List.head?_reverse] at outside
  cases listed : issue.changelog.reverse with
  | nil => rfl
  | cons last earlier =>
      rw [listed] at outside
      exact if_pos (of_decide_eq_false (outside last rfl))

/-- The run ends with the last transition of the changelog, and its day is the
one that the code counts from. -/
theorem days_blocked_of_last
    (last : ChangelogEntry)
    (ends : (blockedRun tables blockedStatuses issue.changelog).getLast? = some last)
    (day : Int)
    (dated : tables.isoDay last.timestamp = some day) :
    computeDaysBlocked tables blockedStatuses issue today = max 0 (today - day) := by
  unfold computeDaysBlocked
  unfold blockedRun at ends
  rcases List.eq_nil_or_concat issue.changelog with listed | ⟨earlier, latest, listed⟩
  · rw [listed] at ends
    cases ends
  · rw [List.concat_eq_append] at listed
    rw [listed, List.rtakeWhile_concat] at ends
    split_ifs at ends with blocked
    · rw [List.getLast?_concat, Option.some.injEq] at ends
      subst ends
      have inside : ¬ tables.lower (tables.strip latest.toValue) ∉ blockedStatuses :=
        not_not.mpr (of_decide_eq_true blocked)
      simp only [listed, List.reverse_append, List.reverse_singleton, List.singleton_append,
        if_neg inside, dated]
    · cases ends

/-- For a changelog whose timestamps can be read, `days_blocked` measures how
long the issue has been blocked exactly if the run of blocked statuses it ends
with begins on the day of its last transition, or not before today. -/
theorem continuous_blocking_measured_iff
    (readable : ∀ entry ∈ issue.changelog, ∃ day, tables.isoDay entry.timestamp = some day) :
    MeasuresContinuousBlocking tables blockedStatuses issue today ↔
      RunWithinOneDay tables blockedStatuses issue today := by
  constructor
  · intro measures first last firstDay lastDay begins ends firstDated lastDated
    rcases List.head?_eq_some_iff.mp begins with ⟨rest, listed⟩
    have fromFirst := measures.blocked first rest firstDay listed firstDated
    have fromLast := days_blocked_of_last tables blockedStatuses issue today last ends lastDay
      lastDated
    rw [fromLast] at fromFirst
    omega
  · intro within
    constructor
    · exact days_blocked_outside tables blockedStatuses issue today
    · intro first rest firstDay listed firstDated
      have some : blockedRun tables blockedStatuses issue.changelog ≠ [] := by
        rw [listed]
        exact List.cons_ne_nil first rest
      have ends := List.getLast?_eq_some_getLast some
      have inLog := (List.rtakeWhile_suffix _ _).subset (List.getLast_mem some)
      rcases readable _ inLog with ⟨lastDay, lastDated⟩
      rw [days_blocked_of_last tables blockedStatuses issue today _ ends lastDay lastDated]
      have days := within first _ firstDay lastDay (by rw [listed]; rfl) ends firstDated lastDated
      omega

end Measure

def heldIssue : IssueDetail where
  key := "CAR-1"
  changelog :=
    [{ fromValue := some "Open", toValue := "Blocked", author := "Ann",
        timestamp := "2026-06-01T09:00:00" },
      { fromValue := some "Blocked", toValue := "On Hold", author := "Ann",
        timestamp := "2026-06-08T09:00:00" }]

def heldToday : Int := (isoDayNumber "2026-06-10").getD 0

/-- The issue has been blocked for nine days, and the code counts two. -/
theorem held_issue_counted_short :
    ¬ MeasuresContinuousBlocking sampleTables defaultBlockedStatuses heldIssue heldToday := by
  intro measures
  have counted : computeDaysBlocked sampleTables defaultBlockedStatuses heldIssue heldToday = 2 := by
    decide +kernel
  have run : blockedRun sampleTables defaultBlockedStatuses heldIssue.changelog =
      heldIssue.changelog := by
    decide +kernel
  have first : sampleTables.isoDay "2026-06-01T09:00:00" = some (heldToday - 9) := by
    decide +kernel
  have nine := measures.blocked _ _ _ run first
  rw [counted] at nine
  omega

def waitingIssue : IssueDetail where
  key := "CAR-2"
  changelog :=
    [{ fromValue := some "Blocked", toValue := "Open", author := "Ann",
        timestamp := "2026-05-20T09:00:00" },
      { fromValue := some "Open", toValue := "Blocked", author := "Ann",
        timestamp := "2026-06-01T09:00:00" },
      { fromValue := some "Blocked", toValue := "On Hold", author := "Ann",
        timestamp := "2026-06-01T16:30:00" }]

theorem waiting_issue_measured :
    MeasuresContinuousBlocking sampleTables defaultBlockedStatuses waitingIssue heldToday ∧
      computeDaysBlocked sampleTables defaultBlockedStatuses waitingIssue heldToday = 9 := by
  have counted : computeDaysBlocked sampleTables defaultBlockedStatuses waitingIssue heldToday = 9 := by
    decide +kernel
  refine ⟨?_, counted⟩
  apply (continuous_blocking_measured_iff sampleTables defaultBlockedStatuses waitingIssue heldToday
    ?_).mpr
  · have run : blockedRun sampleTables defaultBlockedStatuses waitingIssue.changelog =
        waitingIssue.changelog.tail := by
      decide +kernel
    have day : sampleTables.isoDay "2026-06-01T09:00:00" =
        sampleTables.isoDay "2026-06-01T16:30:00" := by
      decide +kernel
    intro first last firstDay lastDay begins ends firstDated lastDated
    rw [run] at begins ends
    cases begins
    cases ends
    exact Or.inl (Option.some.inj (firstDated.symm.trans (day.trans lastDated)))
  · intro entry member
    have dated : waitingIssue.changelog.all fun entry =>
        (sampleTables.isoDay entry.timestamp).isSome := by
      decide +kernel
    exact Option.isSome_iff_exists.mp (List.all_eq_true.mp dated entry member)

end AtlasMindNetra.IssueAnalyser
