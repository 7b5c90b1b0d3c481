import AtlasMindNetra.ReportSynthesiser

/-!
# The structure of a briefing report

A reader tells facts from suggestions by the mark that a line starts with. The
marks of a report should follow from its shape: how many sections it has, and
how many errors and issues each of them. Most texts are put into a cell and
cannot break a line. Five are not.
-/

namespace AtlasMindNetra.ReportStructure

open AtlasMindNetra.PythonValues AtlasMindNetra.ResponseModels AtlasMindNetra.LineRules
open AtlasMindNetra.ReportSynthesiser

set_option autoImplicit false

/-- The fixed texts that lines start with. -/
inductive LineMark where
  | title
  | heading
  | subheading
  | listItem
  | tableRow
  | quote
  | rule
  | noIssues
  | warnings
  | blockedReasonFact
  | dependentIssuesFact
  | citations
  | resolutionSuggestion
  | mitigationSuggestion
  | riskSuggestion
  | closing
  deriving DecidableEq

namespace LineMark

def text : LineMark → String
  | title => "# "
  | heading => "## "
  | subheading => "### "
  | listItem => "- "
  | tableRow => "|"
  | quote => "> "
  | rule => "---"
  | noIssues => "(no issues to display)"
  | warnings => "**Warnings:**"
  | blockedReasonFact => "**Blocked reason (FACT):** "
  | dependentIssuesFact => "**Dependent issues (FACT):** "
  | citations => "**Citations:** "
  | resolutionSuggestion => "**Suggested resolution (AI SUGGESTION):** "
  | mitigationSuggestion => "**Mitigation (AI SUGGESTION):** "
  | riskSuggestion => "**Risk (AI SUGGESTION):** "
  | closing => "**AI SUGGESTION**"

def all : List LineMark :=
  [title, heading, subheading, listItem, tableRow, quote, rule, noIssues, warnings,
    blockedReasonFact, dependentIssuesFact, citations, resolutionSuggestion,
    mitigationSuggestion, riskSuggestion, closing]

end LineMark

inductive LineLabel where
  | blank
  | marked (mark : LineMark)
  | plain
  deriving DecidableEq

def lineLabel (line : List Char) : LineLabel :=
  if line.isEmpty then .blank
  else
    match markOf (fun mark : LineMark => mark.text.toList) LineMark.all line with
    | some mark => .marked mark
    | none => .plain

def labelsOf (text : String) : List LineLabel := (linesOf text).map lineLabel

def sectionShape (topic : BriefingSection) : Nat × Nat :=
  (topic.errors.length, topic.topIssues.length)

def SameShape (sections others : List BriefingSection) : Prop :=
  sections.map sectionShape = others.map sectionShape

def rawCitationTexts (citation : Citation) : List String :=
  citation.issueKey :: (truthyText citation.commentId).toList

def rawIssueTexts (issue : BlockerAnalysis) : List String :=
  issue.issueKey :: (issue.dependentIssues ++ issue.evidence.flatMap rawCitationTexts)

/-- The texts that a section writes as they are: its description, and for each
issue its key in the heading, the dependent issues and the citations. -/
def rawTexts (topic : BriefingSection) : List String :=
  topic.description :: topic.topIssues.flatMap rawIssueTexts

def RawTextsPlain (sections : List BriefingSection) : Prop :=
  ∀ text, text ∈ sections.flatMap rawTexts → OneLine text

theorem marks_separated :
    Separated (fun mark : LineMark => mark.text.toList) LineMark.all := by
  unfold Separated
  decide +kernel

theorem mark_listed (mark : LineMark) : mark ∈ LineMark.all := by
  cases mark <;> decide

theorem label_started
    (mark : LineMark)
    (start rest : String)
    (starts : mark.text.toList <+: start.toList) :
    lineLabel (start ++ rest).toList = .marked mark := by
  have within : mark.text.toList <+: (start ++ rest).toList := by
    rw [String.toList_append]
    exact starts.trans (List.prefix_append _ _)
  have found := mark_of_marked _ LineMark.all marks_separated mark (mark_listed mark) _ within
  have some : (start ++ rest).toList.isEmpty = false := by
    rw [← Bool.not_eq_true, List.isEmpty_iff]
    intro empty
    rw [empty, List.prefix_nil] at within
    cases mark <;> cases within
  unfold lineLabel
  rw [some, found]
  rfl

theorem label_fixed
    (mark : LineMark)
    (line : String)
    (starts : mark.text.toList <+: line.toList) :
    lineLabel line.toList = .marked mark := by
  have labelled := label_started mark line "" starts
  rwa [String.append_empty] at labelled

theorem written_starts :
    LineMark.heading.text.toList <+: "## ".toList ∧
    LineMark.listItem.text.toList <+: "- Query: ".toList ∧
    LineMark.listItem.text.toList <+: "- JQL: `".toList ∧
    LineMark.listItem.text.toList <+: "- Total found: ".toList ∧
    LineMark.listItem.text.toList <+: "- Top ".toList ∧
    LineMark.listItem.text.toList <+: "- ".toList ∧
    LineMark.warnings.text.toList <+: "**Warnings:**".toList ∧
    LineMark.subheading.text.toList <+: "### ".toList ∧
    LineMark.blockedReasonFact.text.toList <+: "**Blocked reason (FACT):** ".toList ∧
    LineMark.dependentIssuesFact.text.toList <+: "**Dependent issues (FACT):** ".toList ∧
    LineMark.citations.text.toList <+: "**Citations:** ".toList ∧
    LineMark.resolutionSuggestion.text.toList <+:
      "**Suggested resolution (AI SUGGESTION):** ".toList ∧
    LineMark.mitigationSuggestion.text.toList <+: "**Mitigation (AI SUGGESTION):** ".toList ∧
    LineMark.riskSuggestion.text.toList <+: "**Risk (AI SUGGESTION):** ".toList ∧
    LineMark.tableRow.text.toList <+: "| ".toList ∧
    LineMark.tableRow.text.toList <+:
      "| # | Key | Summary | Priority | Days Blocked | Owner | Score |".toList ∧
    LineMark.tableRow.text.toList <+: "|---|---|---|---|---|---|---|".toList ∧
    LineMark.rule.text.toList <+: "---".toList ∧
    LineMark.noIssues.text.toList <+: "(no issues to display)".toList ∧
    LineMark.quote.text.toList <+: "> ".toList := by
  decide +kernel

theorem label_blank : lineLabel "".toList = .blank := rfl

def headLabels : List LineLabel :=
  [.marked .heading, .blank, .marked .listItem, .marked .listItem, .marked .listItem,
    .marked .listItem, .blank]

def warningLabels (errors : Nat) : List LineLabel :=
  if errors = 0 then []
  else [.marked .warnings] ++ List.replicate errors (.marked .listItem) ++ [.blank]

def detailLabels : List LineLabel :=
  [.marked .subheading, .blank, .marked .blockedReasonFact, .marked .dependentIssuesFact,
    .marked .citations, .blank, .marked .resolutionSuggestion, .marked .mitigationSuggestion,
    .marked .riskSuggestion, .blank]

def issueLabels (issues : Nat) : List LineLabel :=
  if issues = 0 then [.marked .noIssues, .blank, .marked .rule, .blank]
  else
    [.marked .tableRow, .marked .tableRow] ++ List.replicate issues (.marked .tableRow) ++
      [.blank] ++ (List.replicate issues detailLabels).flatten ++ [.marked .rule, .blank]

/-- The labels of a section's lines, as its shape gives them. -/
def sectionLabels (shape : Nat × Nat) : List LineLabel :=
  headLabels ++ warningLabels shape.1 ++ issueLabels shape.2

theorem head_lines_labelled
    (topic : BriefingSection) :
    (sectionHeadLines topic).map (fun line => lineLabel line.toList) = headLabels := by
  have heading (rest : String) := label_started .heading "## " rest (by simp only [written_starts])
  have query (rest : String) :=
    label_started .listItem "- Query: " rest (by simp only [written_starts])
  have jql (rest : String) :=
    label_started .listItem "- JQL: `" rest (by simp only [written_starts])
  have total (rest : String) :=
    label_started .listItem "- Total found: " rest (by simp only [written_starts])
  have top (rest : String) := label_started .listItem "- Top " rest (by simp only [written_starts])
  simp only [sectionHeadLines, List.map_cons, List.map_nil, String.append_assoc, heading, query,
    jql, total, top, label_blank, headLabels]

theorem lines_labelled_alike
    {Item : Type}
    (items : List Item)
    (write : Item → String)
    (label : LineLabel)
    (written : ∀ item, lineLabel (write item).toList = label) :
    (items.map write).map (fun line => lineLabel line.toList) =
      List.replicate items.length label := by
  rw [List.map_map, ← List.map_const']
  apply List.map_congr_left
  intro item _
  exact written item

theorem warning_lines_labelled
    (errors : List String) :
    (warningLines errors).map (fun line => lineLabel line.toList) =
      warningLabels errors.length := by
  have items := lines_labelled_alike errors (fun error => "- " ++ cell error) (.marked .listItem)
    fun error => label_started .listItem "- " (cell error) (by simp only [written_starts])
  have warnings := label_fixed .warnings "**Warnings:**" (by simp only [written_starts])
  by_cases none : errors = []
  · rw [none]
    rfl
  · have counted : errors.length ≠ 0 := fun zero => none (List.length_eq_zero_iff.mp zero)
    have some : ¬ errors.isEmpty = true := fun empty => none (List.isEmpty_iff.mp empty)
    simp only [warningLines, warningLabels, if_neg some, if_neg counted, List.map_append, items,
      List.map_cons, List.map_nil, warnings, label_blank]

theorem detail_lines_labelled
    (issue : BlockerAnalysis) :
    (issueDetailLines issue).map (fun line => lineLabel line.toList) = detailLabels := by
  have subheading (rest : String) :=
    label_started .subheading "### " rest (by simp only [written_starts])
  have reason (rest : String) :=
    label_started .blockedReasonFact "**Blocked reason (FACT):** " rest
      (by simp only [written_starts])
  have dependents (rest : String) :=
    label_started .dependentIssuesFact "**Dependent issues (FACT):** " rest
      (by simp only [written_starts])
  have citations (rest : String) :=
    label_started .citations "**Citations:** " rest (by simp only [written_starts])
  have resolution (rest : String) := label_started .resolutionSuggestion
    "**Suggested resolution (AI SUGGESTION):** " rest (by simp only [written_starts])
  have mitigation (rest : String) :=
    label_started .mitigationSuggestion "**Mitigation (AI SUGGESTION):** " rest
      (by simp only [written_starts])
  have risk (rest : String) :=
    label_started .riskSuggestion "**Risk (AI SUGGESTION):** " rest (by simp only [written_starts])
  simp only [issueDetailLines, List.map_cons, List.map_nil, String.append_assoc, subheading, reason,
    dependents, citations, resolution, mitigation, risk, label_blank, detailLabels]

theorem all_details_labelled
    (issues : List BlockerAnalysis) :
    (issues.flatMap issueDetailLines).map (fun line => lineLabel line.toList) =
      (List.replicate issues.length detailLabels).flatten := by
  induction issues with
  | nil => rfl
  | cons issue rest ih =>
      rw [List.flatMap_cons, List.map_append, detail_lines_labelled, ih, List.length_cons,
        List.replicate_succ, List.flatten_cons]

theorem row_labelled
    (rank : Nat)
    (issue : BlockerAnalysis) : lineLabel (issueRow rank issue).toList = .marked .tableRow := by
  have row : ∃ rest, issueRow rank issue = "| " ++ rest := by
    unfold issueRow
    simp only [String.append_assoc]
    exact ⟨_, rfl⟩
  rcases row with ⟨rest, written⟩
  rw [written]
  exact label_started .tableRow "| " rest (by simp only [written_starts])

theorem issue_lines_labelled
    (issues : List BlockerAnalysis) :
    (issueLines issues).map (fun line => lineLabel line.toList) = issueLabels issues.length := by
  have rows := lines_labelled_alike (issues.zipIdx 1) (fun ranked => issueRow ranked.2 ranked.1)
    (.marked .tableRow) fun ranked => row_labelled ranked.2 ranked.1
  rw [List.length_zipIdx] at rows
  have header := label_fixed .tableRow
    "| # | Key | Summary | Priority | Days Blocked | Owner | Score |"
    (by simp only [written_starts])
  have divider :=
    label_fixed .tableRow "|---|---|---|---|---|---|---|" (by simp only [written_starts])
  have rule := label_fixed .rule "---" (by simp only [written_starts])
  have empty := label_fixed .noIssues "(no issues to display)" (by simp only [written_starts])
  by_cases none : issues = []
  · subst none
    simp only [issueLines, issueLabels, List.isEmpty_nil, if_true, List.map_cons, List.map_nil,
      empty, rule, label_blank, List.length_nil]
  · have counted : issues.length ≠ 0 := fun zero => none (List.length_eq_zero_iff.mp zero)
    have some : ¬ issues.isEmpty = true := fun nothing => none (List.isEmpty_iff.mp nothing)
    simp only [issueLines, issueLabels, if_neg some, if_neg counted, List.map_append, rows,
      all_details_labelled, List.map_cons, List.map_nil, header, divider, rule, label_blank]

theorem section_lines_labelled
    (topic : BriefingSection) :
    (sectionLines topic).map (fun line => lineLabel line.toList) =
      sectionLabels (sectionShape topic) := by
  simp only [sectionLines, sectionLabels, sectionShape, List.map_append, head_lines_labelled,
    warning_lines_labelled, issue_lines_labelled]

theorem body_lines_labelled
    (sections : List BriefingSection) :
    (sections.flatMap sectionLines).map (fun line => lineLabel line.toList) =
      (sections.map sectionShape).flatMap sectionLabels := by
  induction sections with
  | nil => rfl
  | cons topic rest ih =>
      rw [List.flatMap_cons, List.map_append, section_lines_labelled, ih, List.map_cons,
        List.flatMap_cons]

theorem mem_replaced
    (old : Char)
    (new text : String)
    (char : Char) :
    char ∈ (replaceChar old new text).toList →
      char ∈ new.toList ∨ char ∈ text.toList ∧ char ≠ old := by
  intro member
  rw [replaceChar, String.toList_ofList, List.mem_flatMap] at member
  rcases member with ⟨source, inText, written⟩
  split_ifs at written with replaced
  · exact Or.inl written
  · rw [List.mem_singleton] at written
    subst written
    exact Or.inr ⟨inText, replaced⟩

theorem fixed_texts_single :
    OneLine "" ∧ OneLine " " ∧ OneLine "\\|" ∧ OneLine ", " ∧ OneLine " comment " ∧
    OneLine "none" ∧ OneLine ": " ∧ OneLine "## " ∧ OneLine "### " ∧ OneLine "> " ∧
    OneLine "- " ∧ OneLine "- Query: " ∧ OneLine "- JQL: `" ∧ OneLine "`" ∧
    OneLine "- Total found: " ∧ OneLine "- Top " ∧ OneLine " shown" ∧ OneLine "**Warnings:**" ∧
    OneLine "**Blocked reason (FACT):** " ∧ OneLine "**Dependent issues (FACT):** " ∧
    OneLine "**Citations:** " ∧ OneLine "**Suggested resolution (AI SUGGESTION):** " ∧
    OneLine "**Mitigation (AI SUGGESTION):** " ∧ OneLine "**Risk (AI SUGGESTION):** " ∧
    OneLine "| " ∧ OneLine " | " ∧ OneLine " |" ∧
    OneLine "| # | Key | Summary | Priority | Days Blocked | Owner | Score |" ∧
    OneLine "|---|---|---|---|---|---|---|" ∧ OneLine "---" ∧
    OneLine "(no issues to display)" := by
  decide +kernel

theorem one_line_cell (value : String) : OneLine (cell value) := by
  intro broken
  have noBreak : '\n' ∉ (replaceChar '\n' " " (replaceChar '\r' " " value)).toList := by
    intro inner
    rcases mem_replaced _ _ _ _ inner with blank | ⟨_, differs⟩
    · exact absurd blank fixed_texts_single.2.1
    · exact differs rfl
  rcases mem_replaced _ _ _ _ broken with escaped | ⟨inner, _⟩
  · exact absurd escaped fixed_texts_single.2.2.1
  · exact noBreak inner

theorem one_line_int (number : Int) : OneLine (toString number) := by
  intro broken
  rcases int_text_char number _ broken with sign | digit
  · exact absurd sign (by decide +kernel)
  · exact absurd digit (by decide +kernel)

theorem one_line_nat (number : Nat) : OneLine (toString number) := one_line_int number

theorem one_line_citation_iff
    (citation : Citation) :
    OneLine (citationText citation) ↔
      ∀ text, text ∈ rawCitationTexts citation → OneLine text := by
  unfold citationText rawCitationTexts
  rw [one_line_append, List.forall_mem_cons]
  apply and_congr_right
  intro _
  cases truthyText citation.commentId with
  | none => simp [OneLine]
  | some commentId =>
      simp [fixed_texts_single]

theorem one_line_dependents_iff
    (issue : BlockerAnalysis) :
    OneLine (dependentsText issue) ↔
      ∀ text, text ∈ issue.dependentIssues → OneLine text := by
  unfold dependentsText
  split_ifs with none
  · rw [List.isEmpty_iff] at none
    simp [none, fixed_texts_single]
  · exact one_line_intercalate ", " issue.dependentIssues (by simp only [fixed_texts_single])

theorem one_line_citations_iff
    (issue : BlockerAnalysis) :
    OneLine (citationsText issue) ↔
      ∀ text, text ∈ issue.evidence.flatMap rawCitationTexts → OneLine text := by
  unfold citationsText
  split_ifs with none
  · rw [List.isEmpty_iff] at none
    simp [none, fixed_texts_single]
  · rw [one_line_intercalate ", " _ (by simp only [fixed_texts_single]), List.forall_mem_map,
      List.forall_mem_flatMap]
    simp only [one_line_citation_iff]

theorem detail_lines_single_iff
    (issue : BlockerAnalysis) :
    (∀ line, line ∈ issueDetailLines issue → OneLine line) ↔
      ∀ text, text ∈ rawIssueTexts issue → OneLine text := by
  unfold issueDetailLines rawIssueTexts
  simp only [List.forall_mem_cons, List.forall_mem_append, List.not_mem_nil, false_implies,
    implies_true, one_line_append, one_line_cell, one_line_dependents_iff, one_line_citations_iff,
    fixed_texts_single, true_and, and_true]

theorem row_single
    (rank : Nat)
    (issue : BlockerAnalysis) : OneLine (issueRow rank issue) := by
  unfold issueRow cellOr
  simp only [one_line_append, one_line_cell, one_line_nat, one_line_int, fixed_texts_single,
    and_self]

theorem issue_lines_single_iff
    (issues : List BlockerAnalysis) :
    (∀ line, line ∈ issueLines issues → OneLine line) ↔
      ∀ text, text ∈ issues.flatMap rawIssueTexts → OneLine text := by
  unfold issueLines
  by_cases none : issues.isEmpty = true
  · rw [if_pos none, List.isEmpty_iff.mp none]
    simp only [List.flatMap_nil, List.forall_mem_cons, List.not_mem_nil, false_implies,
      implies_true, fixed_texts_single, and_self]
  · rw [if_neg none]
    simp only [List.forall_mem_append, List.forall_mem_cons, List.not_mem_nil, false_implies,
      implies_true, List.forall_mem_map, List.forall_mem_flatMap, row_single,
      detail_lines_single_iff, fixed_texts_single, and_self, true_and, and_true]

theorem warning_lines_single
    (errors : List String) : ∀ line, line ∈ warningLines errors → OneLine line := by
  unfold warningLines
  split_ifs
  · exact List.forall_mem_nil _
  · simp only [List.forall_mem_append, List.forall_mem_cons, List.not_mem_nil, false_implies,
      implies_true, List.forall_mem_map, one_line_append, one_line_cell, fixed_texts_single,
      and_self]

theorem head_lines_single_iff
    (topic : BriefingSection) :
    (∀ line, line ∈ sectionHeadLines topic → OneLine line) ↔ OneLine topic.description := by
  unfold sectionHeadLines cellOr
  simp only [List.forall_mem_cons, List.not_mem_nil, false_implies, implies_true, one_line_append,
    one_line_cell, one_line_int, one_line_nat, fixed_texts_single, true_and, and_true]

theorem section_lines_single_iff
    (topic : BriefingSection) :
    (∀ line, line ∈ sectionLines topic → OneLine line) ↔
      ∀ text, text ∈ rawTexts topic → OneLine text := by
  unfold sectionLines rawTexts
  rw [List.forall_mem_append, List.forall_mem_append, head_lines_single_iff,
    issue_lines_single_iff, List.forall_mem_cons]
  constructor
  · rintro ⟨⟨description, _⟩, issues⟩
    exact ⟨description, issues⟩
  · rintro ⟨description, issues⟩
    exact ⟨⟨description, warning_lines_single topic.errors⟩, issues⟩

theorem body_lines_single_iff
    (sections : List BriefingSection) :
    (∀ line, line ∈ sections.flatMap sectionLines → OneLine line) ↔ RawTextsPlain sections := by
  unfold RawTextsPlain
  rw [List.forall_mem_flatMap, List.forall_mem_flatMap]
  simp only [section_lines_single_iff]

theorem agenda_labels
    (agendaText : String) :
    ((agendaLines agendaText).flatMap linesOf).map lineLabel =
      [.marked .quote, .blank, .marked .rule, .blank] := by
  have quote (rest : String) := label_started .quote "> " rest (by simp only [written_starts])
  have rule := label_fixed .rule "---" (by simp only [written_starts])
  have single : ∀ line, line ∈ agendaLines agendaText → OneLine line := by
    simp only [agendaLines, List.forall_mem_cons, List.not_mem_nil, false_implies, implies_true,
      one_line_append, one_line_cell, fixed_texts_single, and_self]
  rw [flat_lines_one_line _ single, List.map_map]
  simp only [agendaLines, List.map_cons, List.map_nil, Function.comp_apply, quote, rule,
    label_blank]

/-- Around its sections a report shows its opening and closing lines, whatever
the agenda and the sections say. -/
theorem report_labels
    (timestamp agendaText : String)
    (sections : List BriefingSection)
    (sessionId : String) :
    labelsOf (buildBriefingReport timestamp agendaText sections sessionId) =
      ((openingLines timestamp sessionId sections.length).flatMap linesOf).map lineLabel ++
        [.marked .quote, .blank, .marked .rule, .blank] ++
        ((sections.flatMap sectionLines).flatMap linesOf).map lineLabel ++
        ((closingLines.flatMap linesOf).map lineLabel ++ [.blank]) := by
  have whole : ∃ head rest,
      openingLines timestamp sessionId sections.length ++ agendaLines agendaText ++
        sections.flatMap sectionLines ++ closingLines = head :: rest := ⟨_, _, rfl⟩
  rcases whole with ⟨head, rest, listed⟩
  unfold labelsOf buildBriefingReport
  rw [listed, lines_of_document, ← listed]
  simp only [List.flatMap_append, List.map_append, agenda_labels, List.append_assoc]
  rfl

theorem clean_body_labels
    (sections : List BriefingSection)
    (plain : RawTextsPlain sections) :
    ((sections.flatMap sectionLines).flatMap linesOf).map lineLabel =
      (sections.map sectionShape).flatMap sectionLabels := by
  have single := (body_lines_single_iff sections).mpr plain
  rw [flat_lines_one_line _ single, List.map_map, ← body_lines_labelled]
  rfl

def blankSection (topic : BriefingSection) : BriefingSection :=
  { topic with
    description := ""
    topIssues := topic.topIssues.map fun issue =>
      { issue with issueKey := "", dependentIssues := [], evidence := [] } }

theorem blank_same_shape
    (sections : List BriefingSection) : SameShape sections (sections.map blankSection) := by
  unfold SameShape
  rw [List.map_map]
  apply List.map_congr_left
  intro topic _
  simp only [Function.comp_apply, sectionShape, blankSection, List.length_map]

theorem blank_plain
    (sections : List BriefingSection) : RawTextsPlain (sections.map blankSection) := by
  unfold RawTextsPlain
  simp only [List.forall_mem_flatMap, List.forall_mem_map, rawTexts, blankSection,
    List.forall_mem_cons, rawIssueTexts, List.flatMap_nil, List.append_nil, List.not_mem_nil,
    false_implies, implies_true, fixed_texts_single, and_self]

theorem plain_labels_agree
    (timestamp agendaText otherAgenda sessionId : String)
    (sections others : List BriefingSection)
    (shape : SameShape sections others)
    (plain : RawTextsPlain sections)
    (othersPlain : RawTextsPlain others) :
    labelsOf (buildBriefingReport timestamp agendaText sections sessionId) =
      labelsOf (buildBriefingReport timestamp otherAgenda others sessionId) := by
  have counted : sections.length = others.length := by
    have lengths := congrArg List.length shape
    rwa [List.length_map, List.length_map] at lengths
  rw [report_labels, report_labels, clean_body_labels sections plain,
    clean_body_labels others othersPlain, counted, show sections.map sectionShape = _ from shape]

theorem broken_labels_differ
    (timestamp agendaText otherAgenda sessionId : String)
    (sections others : List BriefingSection)
    (shape : SameShape sections others)
    (broken : ¬ RawTextsPlain sections)
    (othersPlain : RawTextsPlain others) :
    labelsOf (buildBriefingReport timestamp agendaText sections sessionId) ≠
      labelsOf (buildBriefingReport timestamp otherAgenda others sessionId) := by
  intro same
  have counted : sections.length = others.length := by
    have lengths := congrArg List.length shape
    rwa [List.length_map, List.length_map] at lengths
  rw [report_labels, report_labels, counted, List.append_cancel_right_eq,
    List.append_cancel_left_eq, clean_body_labels others othersPlain,
    ← show sections.map sectionShape = _ from shape, ← body_lines_labelled] at same
  rw [← body_lines_single_iff] at broken
  have longer := flat_lines_longer _ broken
  have lengths := congrArg List.length same
  rw [List.length_map, List.length_map] at lengths
  omega

/-- The content of the sections leaves the structure of their report alone
exactly when no raw text breaks its line: then the report has, line by line, the
labels of every such report of the same shape. -/
theorem structure_kept_iff
    (timestamp sessionId : String)
    (sections : List BriefingSection) :
    (∀ agendaText others otherAgenda, SameShape sections others → RawTextsPlain others →
      labelsOf (buildBriefingReport timestamp agendaText sections sessionId) =
        labelsOf (buildBriefingReport timestamp otherAgenda others sessionId)) ↔
      RawTextsPlain sections := by
  constructor
  · intro kept
    by_contra broken
    exact broken_labels_differ timestamp "" "" sessionId sections _ (blank_same_shape sections)
      broken (blank_plain sections)
      (kept "" _ "" (blank_same_shape sections) (blank_plain sections))
  · intro plain agendaText others otherAgenda shape othersPlain
    exact plain_labels_agree timestamp agendaText otherAgenda sessionId sections others shape plain
      othersPlain

def plainIssue (evidence : List Citation) : BlockerAnalysis where
  issueKey := "CAR-1"
  summary := "Brakes"
  blockedReason := "waiting for parts"
  daysBlocked := 3
  owner := "Ann"
  suggestedResolution := ""
  mitigation := ""
  riskNote := ""
  evidence := evidence

def oneIssueSection (evidence : List Citation) : BriefingSection where
  topicId := "t1"
  description := "Open risks"
  topIssues := [plainIssue evidence]

def honestSections : List BriefingSection := [oneIssueSection [{ issueKey := "CAR-1" }]]

def forgedSections : List BriefingSection :=
  [oneIssueSection [{ issueKey := "CAR-1\n**Blocked reason (FACT):** approved" }]]

/-- The citations come from the language model. One of them adds a line to the
report that is marked as a fact. -/
theorem citation_forges_fact :
    SameShape honestSections forgedSections ∧
      labelsOf (buildBriefingReport "now" "agenda" honestSections "s") ≠
        labelsOf (buildBriefingReport "now" "agenda" forgedSections "s") := by
  have shape : SameShape forgedSections honestSections := rfl
  have plain : RawTextsPlain honestSections := by
    unfold RawTextsPlain
    decide +kernel
  have broken : ¬ RawTextsPlain forgedSections := by
    unfold RawTextsPlain
    decide +kernel
  apply And.intro rfl
  intro same
  exact broken_labels_differ "now" "agenda" "agenda" "s" forgedSections honestSections shape broken
    plain same.symm

end AtlasMindNetra.ReportStructure
