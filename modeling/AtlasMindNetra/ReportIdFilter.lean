import AtlasMindNetra.DeliveredBriefings

/-!
# The filter of report ids

`_is_safe_report_id` of `core/briefing_orchestrator.py` against the ids that
its docstring describes. Each of its checks is implied by the pattern, except
that the `$` of the pattern lets a line break stand at the end.
-/

namespace AtlasMindNetra.BriefingArchive

open AtlasMindNetra.BriefingOrchestrator
open AtlasMindNetra.ConfluenceResearch (containsText)

set_option autoImplicit false

def IsReportId (reportId : String) : Prop :=
  1 ≤ reportId.toList.length ∧ reportId.toList.length ≤ 128 ∧
    ∀ char ∈ reportId.toList, isReportIdChar char = true

instance (reportId : String) : Decidable (IsReportId reportId) :=
  haveI : Decidable (∀ char ∈ reportId.toList, isReportIdChar char = true) :=
    List.decidableBAll _ reportId.toList
  inferInstanceAs (Decidable (_ ∧ _ ∧ _))

def EndsInBreak (reportId : String) : Prop :=
  ∃ body, reportId = body ++ "\n" ∧ IsReportId body ∧ body.toList.length ≤ 127

def IsDirectChild (name : String) : Prop :=
  name ≠ "" ∧ name ≠ "." ∧ name ≠ ".." ∧ '/' ∉ name.toList ∧ '\\' ∉ name.toList

def IsPlainName (extension name : String) : Prop :=
  ∃ body, name = body ++ extension ∧ ∀ char ∈ body.toList, isReportIdChar char = true

/-- What the filter is for: it accepts the ids, and an accepted id names two
files of the output directory. -/
structure FiltersExactly (reportId : String) : Prop where
  accepts : isSafeReportId reportId = true ↔ IsReportId reportId
  sidecar : isSafeReportId reportId = true →
    IsDirectChild (sidecarName reportId) ∧ IsPlainName ".json" (sidecarName reportId)
  markdown : isSafeReportId reportId = true →
    IsDirectChild (markdownName reportId) ∧ IsPlainName ".md" (markdownName reportId)

theorem id_ends_otherwise
    (reportId : String)
    (isId : IsReportId reportId) : reportId.toList.getLast? ≠ some '\n' := by
  intro last
  have inClass := isId.2.2 '\n' (List.mem_of_getLast? last)
  exact absurd inClass (by decide)

theorem matches_report_id_iff
    (reportId : String) :
    matchesReportId reportId = true ↔
      IsReportId reportId ∨ ∃ body, reportId = body ++ "\n" ∧ IsReportId body := by
  have pattern (chars : List Char) :
      (decide (1 ≤ chars.length) && decide (chars.length ≤ 128) && chars.all isReportIdChar) =
        true ↔ IsReportId (String.ofList chars) := by
    simp only [Bool.and_eq_true, decide_eq_true_eq, List.all_eq_true, IsReportId,
      String.toList_ofList, and_assoc]
  unfold matchesReportId
  by_cases breaks : reportId.toList.getLast? = some '\n'
  · have notId : ¬ IsReportId reportId := fun isId => id_ends_otherwise reportId isId breaks
    rcases List.getLast?_eq_some_iff.mp breaks with ⟨body, chars⟩
    have split : reportId = String.ofList body ++ "\n" := by
      rw [← String.toList_inj, String.toList_append, String.toList_ofList, chars]
      rfl
    simp only [if_pos breaks, pattern, notId, false_or]
    rw [chars, List.dropLast_concat]
    constructor
    · exact fun isId => ⟨String.ofList body, split, isId⟩
    · rintro ⟨other, same, isId⟩
      rw [split, String.append_left_inj] at same
      rw [same]
      exact isId
  · simp only [if_neg breaks, pattern, String.ofList_toList]
    constructor
    · exact Or.inl
    · rintro (isId | ⟨body, rfl, -⟩)
      · exact isId
      · rw [String.toList_append] at breaks
        exact absurd List.getLast?_concat breaks

theorem is_safe_report_id_iff
    (reportId : String) :
    isSafeReportId reportId = true ↔ IsReportId reportId ∨ EndsInBreak reportId := by
  constructor
  · intro accepted
    unfold isSafeReportId at accepted
    split_ifs at accepted with size traversal
    rw [not_or, Nat.not_lt] at size
    rcases (matches_report_id_iff reportId).mp accepted with isId | ⟨body, rfl, isId⟩
    · exact Or.inl isId
    · have length : (body ++ "\n").length = body.toList.length + 1 := by
        rw [← String.length_toList, String.toList_append, List.length_append]
        rfl
      exact Or.inr ⟨body, rfl, isId, by omega⟩
  · rintro (⟨some, short, plain⟩ | ⟨body, rfl, isId, short⟩)
    · exact safe_report_id reportId plain some short
    · have matched := (matches_report_id_iff (body ++ "\n")).mpr (Or.inr ⟨body, rfl, isId⟩)
      have lacks (part : String) (char : Char) (member : char ∈ part.toList)
          (other : isReportIdChar char = false) (notBreak : char ≠ '\n') :
          containsText part (body ++ "\n") = false := by
        rw [← Bool.not_eq_true]
        intro contained
        have inText := contains_text_char part _ contained char member
        rw [String.toList_append, List.mem_append] at inText
        rcases inText with inBody | atEnd
        · rw [isId.2.2 char inBody] at other
          cases other
        · exact notBreak (List.mem_singleton.mp atEnd)
      have notEmpty : body ++ "\n" ≠ "" := by
        intro empty
        have chars := congrArg String.toList empty
        simp at chars
      have length : ¬ 128 < (body ++ "\n").length := by
        rw [← String.length_toList, String.toList_append, List.length_append]
        exact Nat.not_lt.mpr (Nat.succ_le_succ short)
      have slash := lacks "/" '/' (by decide) (by decide) (by decide)
      have backslash := lacks "\\" '\\' (by decide) (by decide) (by decide)
      have dots := lacks ".." '.' (by decide) (by decide) (by decide)
      simp only [isSafeReportId, notEmpty, length, or_self, if_false, slash, backslash, dots,
        Bool.or_self, Bool.false_eq_true, matched]

theorem report_file_is_child
    (reportId extension : String)
    (isId : IsReportId reportId)
    (long : 2 < extension.toList.length)
    (plain : '/' ∉ extension.toList ∧ '\\' ∉ extension.toList) :
    IsDirectChild (reportId ++ extension) ∧ IsPlainName extension (reportId ++ extension) := by
  have longer (short : String) (size : short.toList.length ≤ 2) :
      reportId ++ extension ≠ short := by
    rintro rfl
    rw [String.toList_append, List.length_append] at size
    omega
  have lacks (char : Char) (other : isReportIdChar char = false) (free : char ∉ extension.toList) :
      char ∉ (reportId ++ extension).toList := by
    rw [String.toList_append, List.mem_append]
    rintro (inId | inExtension)
    · rw [isId.2.2 char inId] at other
      cases other
    · exact free inExtension
  apply And.intro _ ⟨reportId, rfl, isId.2.2⟩
  exact ⟨longer "" (by decide), longer "." (by decide), longer ".." (by decide),
    lacks '/' (by decide) plain.1, lacks '\\' (by decide) plain.2⟩

theorem report_reads_own_files
    (side : ArchiveSide)
    (settings : BriefingSettings)
    (files others : ReportDirectory)
    (reportId : String)
    (sidecar : files.get? (sidecarName reportId) = others.get? (sidecarName reportId))
    (markdown : files.contains (markdownName reportId) = others.contains (markdownName reportId)) :
    getBriefingReport side settings files reportId =
      getBriefingReport side settings others reportId := by
  unfold getBriefingReport
  rw [sidecar, markdown]

/-- The filter is exact but for the ids followed by a line break. -/
theorem report_id_filter_exact_iff
    (reportId : String) : FiltersExactly reportId ↔ ¬ EndsInBreak reportId := by
  constructor
  · intro exactly breaks
    have isId := exactly.accepts.mp ((is_safe_report_id_iff reportId).mpr (Or.inr breaks))
    rcases breaks with ⟨body, rfl, -⟩
    apply id_ends_otherwise _ isId
    rw [String.toList_append]
    exact List.getLast?_concat
  · intro plain
    have accepts : isSafeReportId reportId = true ↔ IsReportId reportId := by
      rw [is_safe_report_id_iff, or_iff_left plain]
    exact
      { accepts := accepts
        sidecar := fun accepted =>
          report_file_is_child reportId ".json" (accepts.mp accepted) (by decide) (by decide)
        markdown := fun accepted =>
          report_file_is_child reportId ".md" (accepts.mp accepted) (by decide) (by decide) }

/-- A line break passes at the end of an id, and the file name has it too. -/
theorem report_id_with_break :
    isSafeReportId "weekly\n" = true ∧ ¬ IsReportId "weekly\n" ∧
      ¬ IsPlainName ".json" (sidecarName "weekly\n") := by
  apply And.intro (by decide +kernel)
  apply And.intro (by decide +kernel)
  rintro ⟨body, same, plain⟩
  have name : sidecarName "weekly\n" = "weekly\n" ++ ".json" := rfl
  rw [name, String.append_left_inj] at same
  rw [← same] at plain
  exact absurd (plain '\n' (by decide)) (by decide)

end AtlasMindNetra.BriefingArchive
