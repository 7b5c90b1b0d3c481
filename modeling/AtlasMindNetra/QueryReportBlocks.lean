import AtlasMindNetra.QueryReport
import AtlasMindNetra.ReportStructure

/-!
# The blocks of a query report

Each section of a report is written as a block of lines. A block of single
lines makes a section that is found by its heading, provided that none of its
lines passes for a heading or a fence.
-/

namespace AtlasMindNetra.QueryReport

open AtlasMindNetra.PythonValues AtlasMindNetra.ResponseModels AtlasMindNetra.LineRules
open AtlasMindNetra.DelimiterRules AtlasMindNetra.SectionRules AtlasMindNetra.ReportSynthesiser
open AtlasMindNetra.SessionTexts (sourceText)
open AtlasMindNetra.ReportStructure (one_line_cell one_line_int)

set_option autoImplicit false

theorem part_marks_separated :
    Separated (fun part : ReportPart => part.text.toList) ReportPart.all := by
  unfold Separated
  decide +kernel

theorem part_listed (part : ReportPart) : part ∈ ReportPart.all := by
  cases part <;> decide

theorem fixed_heading (part : ReportPart) :
    OneLine part.text ∧ part.text.toList <+: part.text.toList ∧
      isHeading part.text.toList = true ∧ opensFence part.text.toList = false := by
  have each : ∀ own ∈ ReportPart.all, OneLine own.text ∧ isHeading own.text.toList = true ∧
      opensFence own.text.toList = false := by decide +kernel
  obtain ⟨single, isHead, unopened⟩ := each part (part_listed part)
  exact ⟨single, List.prefix_refl _, isHead, unopened⟩

theorem report_texts_single :
    OneLine "> " ∧ OneLine "- " ∧ OneLine "| " ∧ OneLine " | `" ∧ OneLine "` | " ∧
    OneLine " |" ∧ OneLine "|" ∧ OneLine "---|" ∧ OneLine "convention" ∧
    OneLine "clarification" ∧ OneLine "| Term | JQL meaning | Source |" ∧
    OneLine "|---|---|---|" ∧ OneLine "```jql" ∧ OneLine "```" ∧ OneLine "## Issues (" ∧
    OneLine " shown of " ∧ OneLine " total)" ∧ OneLine "(" ∧ OneLine " more rows omitted)" ∧
    OneLine "(no issues returned)" ∧ OneLine "# AtlasMind query report" ∧
    OneLine "- Generated: " ∧ OneLine "- Session: " ∧
    OneLine ("Facts above come from Jira via the AtlasMind backend. Applied interpretations " ++
      "are listed so a wrong assumption is caught here (design doc trust rules).") := by
  decide +kernel

theorem fence_marks :
    (isHeading "```jql".toList = false ∧ opensFence "```jql".toList = true) ∧
      closesFence "```".toList = true := by
  decide +kernel

theorem line_unbroken
    (text : String) : ∀ line ∈ linesOf text, '\n' ∉ line := by
  unfold linesOf
  rw [List.splitOn_eq_splitOnP]
  generalize text.toList = chars
  induction chars with
  | nil => simp
  | cons char rest ih =>
      rw [List.splitOnP_cons_eq_if_modifyHead]
      by_cases breaks : char = '\n'
      · subst breaks
        simp only [beq_self_eq_true, if_true, List.forall_mem_cons]
        exact ⟨List.not_mem_nil, ih⟩
      · simp only [beq_false_of_ne breaks, Bool.false_eq_true, if_false]
        cases lines : rest.splitOnP (· == '\n') with
        | nil => simp
        | cons first others =>
            rw [lines, List.forall_mem_cons] at ih
            rw [List.modifyHead_cons, List.forall_mem_cons, List.mem_cons, not_or]
            exact ⟨⟨fun same => breaks same.symm, ih.1⟩, ih.2⟩

theorem prefix_started
    (mark start rest : String)
    (long : mark.toList.length ≤ start.toList.length) :
    mark.toList.isPrefixOf (start ++ rest).toList = mark.toList.isPrefixOf start.toList := by
  rw [String.toList_append, Bool.eq_iff_iff, List.isPrefixOf_iff_prefix, List.isPrefixOf_iff_prefix]
  constructor
  · intro within
    exact List.prefix_of_prefix_length_le within (List.prefix_append _ _) long
  · intro within
    exact within.trans (List.prefix_append _ _)

theorem plain_blank : Plain isHeading opensFence [] := ⟨by decide, by decide⟩

theorem plain_sign
    (sign : Char)
    (rest : List Char)
    (other : sign ≠ '#' ∧ sign ≠ '`' ∧ sign ≠ '-') : Plain isHeading opensFence (sign :: rest) := by
  have heading : "## ".toList = ['#', '#', ' '] := by decide
  have rule : "---".toList = ['-', '-', '-'] := by decide
  have fence : "```".toList = ['`', '`', '`'] := by decide
  simp [Plain, isHeading, opensFence, heading, rule, fence, List.isPrefixOf, other, Ne.symm other.1,
    Ne.symm other.2.1]

theorem plain_item (text : String) : Plain isHeading opensFence ("- " ++ text).toList := by
  have item : "- ".toList = ['-', ' '] := by decide
  have heading : "## ".toList = ['#', '#', ' '] := by decide
  have rule : "---".toList = ['-', '-', '-'] := by decide
  have fence : "```".toList = ['`', '`', '`'] := by decide
  simp [Plain, isHeading, opensFence, heading, rule, fence, item, List.isPrefixOf,
    String.toList_append]

theorem plain_started
    (start rest : String)
    (sign : Char)
    (first : start.toList.head? = some sign)
    (other : sign ≠ '#' ∧ sign ≠ '`' ∧ sign ≠ '-') :
    Plain isHeading opensFence (start ++ rest).toList := by
  rcases List.head?_eq_some_iff.mp first with ⟨more, chars⟩
  rw [String.toList_append, chars, List.cons_append]
  exact plain_sign sign (more ++ rest.toList) other

theorem closes_opens
    (line : List Char)
    (unopened : opensFence line = false) : closesFence line = false := by
  rw [closesFence, unopened, Bool.false_and]

theorem marked_texts_append
    (mark : String)
    (first second : List (List Char)) :
    markedTexts mark (first ++ second) = markedTexts mark first ++ markedTexts mark second := by
  rw [markedTexts, List.filter_append, List.map_append, markedTexts, markedTexts]

theorem marked_texts_blank
    (mark : String)
    (some : mark.toList ≠ []) : markedTexts mark [[]] = [] := by
  rw [markedTexts, List.filter_cons_of_neg, List.filter_nil, List.map_nil]
  rw [List.isPrefixOf_iff_prefix, List.prefix_nil]
  exact some

theorem marked_texts_written
    {Item : Type}
    (mark : String)
    (items : List Item)
    (text : Item → String) :
    markedTexts mark ((items.map fun item => mark ++ text item).map String.toList) =
      items.map fun item => (text item).toList := by
  induction items with
  | nil => rfl
  | cons item rest ih =>
      have marked : mark.toList.isPrefixOf (mark ++ text item).toList = true := by
        rw [String.toList_append, List.isPrefixOf_iff_prefix]
        exact List.prefix_append _ _
      rw [List.map_cons, List.map_cons, ← List.singleton_append, marked_texts_append, ih]
      rw [markedTexts, List.filter_cons_of_pos marked, List.filter_nil, List.map_cons, List.map_nil,
        String.toList_append, List.drop_left, List.singleton_append, List.map_cons]

theorem cell_read_back
    (value : String) : unescape '\\' '|' (cell value).toList = singleLine value := by
  rw [cell_chars]
  exact unescape_escape pipe_marks.1 (singleLine value)

/-- The sections of the report in their order, each of them empty if the
response has nothing to show there. -/
def reportBlocks (tables : TextTables) (maxIssues : Int) (query : String)
    (response : QueryResponse) : List (ReportPart × List String) :=
  [(.query, queryLines query),
    (.interpretations, interpretationLines response.appliedConventions),
    (.jql, jqlLines response.jql),
    (.answer, answerLines response.answer),
    (.issues, issuesLines tables maxIssues response),
    (.chart, chartLines response.chartSpec response.uiInjected),
    (.warnings, warningsLines response.errors),
    (.facts, factsLines ++ [""])]

def sectionOf (lines : List String) : List (List (List Char)) :=
  if lines.isEmpty then [] else [lines.flatMap linesOf]

def sectionsOf (blocks : List (ReportPart × List String)) : List (List (List Char)) :=
  blocks.flatMap fun block => sectionOf block.2

/-- A block of single lines: a heading that opens no fence, and plain lines. -/
structure PlainBlock (part : ReportPart) (lines : List String) : Prop where
  single : ∀ line ∈ lines, OneLine line
  headed : ∀ head body, lines = head :: body →
    part.text.toList <+: head.toList ∧ isHeading head.toList = true ∧
      opensFence head.toList = false ∧ ∀ line ∈ body, Plain isHeading opensFence line.toList

def Titled (block : ReportPart × List String) : Prop :=
  ∀ head body, block.2 = head :: body → OneLine head ∧ block.1.text.toList <+: head.toList ∧
    isHeading head.toList = true

theorem flatten_section_of (lines : List String) :
    (sectionOf lines).flatten = lines.flatMap linesOf := by
  cases lines with
  | nil => rfl
  | cons head body => exact List.flatten_singleton

theorem flatten_sections_of (blocks : List (ReportPart × List String)) :
    (sectionsOf blocks).flatten = (blocks.flatMap Prod.snd).flatMap linesOf := by
  induction blocks with
  | nil => rfl
  | cons block rest ih =>
      rw [sectionsOf, List.flatMap_cons, List.flatten_append, flatten_section_of, ← sectionsOf, ih,
        List.flatMap_cons, List.flatMap_append]

/-- The lines of a report are those of its preamble and of its blocks. -/
theorem lines_of_report
    (tables : TextTables)
    (maxIssues : Int)
    (timestamp query : String)
    (response : QueryResponse) :
    linesOf (buildQueryReport tables maxIssues timestamp query response) =
      (preambleLines timestamp response.sessionId).flatMap linesOf ++
        (sectionsOf (reportBlocks tables maxIssues query response)).flatten := by
  have whole : ∃ head rest, preambleLines timestamp response.sessionId ++ queryLines query ++
      interpretationLines response.appliedConventions ++ jqlLines response.jql ++
      answerLines response.answer ++ issuesLines tables maxIssues response ++
      chartLines response.chartSpec response.uiInjected ++ warningsLines response.errors ++
      factsLines = head :: rest := ⟨_, _, rfl⟩
  have last : [""].flatMap linesOf = [[]] := rfl
  rcases whole with ⟨head, rest, listed⟩
  rw [buildQueryReport, listed, lines_of_document, ← listed, flatten_sections_of]
  simp only [reportBlocks, List.flatMap_cons, List.flatMap_nil, List.flatMap_append, last,
    List.append_assoc, List.append_nil]

theorem title_of_section
    (part : ReportPart)
    (head : String)
    (body : List String)
    (single : OneLine head)
    (starts : part.text.toList <+: head.toList) :
    titleOf ((head :: body).flatMap linesOf) = some part := by
  rw [titleOf, List.flatMap_cons, lines_of_one_line head single, List.singleton_append,
    List.head?_cons, Option.bind_some]
  exact mark_of_marked _ ReportPart.all part_marks_separated part (part_listed part) _ starts

theorem titled_section
    (block : ReportPart × List String)
    (titled : Titled block) :
    ∀ lines ∈ sectionOf block.2, titleOf lines = some block.1 := by
  obtain ⟨part, lines⟩ := block
  cases lines with
  | nil =>
      intro lines member
      cases member
  | cons head body =>
      intro lines member
      have same : lines = (head :: body).flatMap linesOf := List.mem_singleton.mp member
      obtain ⟨single, starts, _⟩ := titled head body rfl
      rw [same]
      exact title_of_section part head body single starts

theorem under_cons
    (part : ReportPart)
    (lines : List (List Char))
    (rest : List (List (List Char))) :
    under part (lines :: rest) =
      if titleOf lines = some part then lines.tail else under part rest := by
  rw [under, List.find?_cons]
  by_cases titled : titleOf lines = some part
  · rw [if_pos titled, titled, beq_self_eq_true]
  · rw [if_neg titled, beq_false_of_ne titled, under]

theorem under_other
    (part : ReportPart)
    (blocks : List (ReportPart × List String))
    (rest : List (List (List Char)))
    (titled : ∀ block ∈ blocks, Titled block)
    (other : part ∉ blocks.map Prod.fst) :
    under part (sectionsOf blocks ++ rest) = under part rest := by
  induction blocks with
  | nil => rfl
  | cons block others ih =>
      rw [List.forall_mem_cons] at titled
      rw [List.map_cons, List.mem_cons, not_or] at other
      have own := titled_section block titled.1
      have later := ih titled.2 other.2
      rw [sectionsOf, List.flatMap_cons, ← sectionsOf, List.append_assoc]
      cases lines : sectionOf block.2 with
      | nil => exact later
      | cons first more =>
          have alone : more = [] := by
            rw [sectionOf] at lines
            split_ifs at lines
            exact (List.cons.inj lines).2.symm
          rw [lines, List.forall_mem_cons] at own
          rw [alone, List.singleton_append, under_cons, if_neg, later]
          rw [own.1, Option.some.injEq]
          exact fun same => other.1 same.symm

theorem under_first
    (part : ReportPart)
    (head : String)
    (body : List String)
    (blocks : List (ReportPart × List String))
    (rest : List (List (List Char)))
    (titled : ∀ block ∈ blocks, Titled block)
    (own : Titled (part, head :: body))
    (other : part ∉ blocks.map Prod.fst) :
    under part (sectionsOf blocks ++ ((head :: body).flatMap linesOf :: rest)) =
      body.flatMap linesOf := by
  obtain ⟨single, starts, _⟩ := own head body rfl
  rw [under_other part blocks _ titled other, under_cons,
    if_pos (title_of_section part head body single starts), List.flatMap_cons,
    lines_of_one_line head single, List.singleton_append, List.tail_cons]

theorem under_block
    (part : ReportPart)
    (lines : List String)
    (before after : List (ReportPart × List String))
    (titled : ∀ block ∈ before ++ (part, lines) :: after, Titled block)
    (once : ((before ++ (part, lines) :: after).map Prod.fst).Nodup) :
    under part (sectionsOf (before ++ (part, lines) :: after)) =
      (lines.drop 1).flatMap linesOf := by
  rw [List.forall_mem_append, List.forall_mem_cons] at titled
  rw [List.map_append, List.map_cons, List.nodup_append, List.nodup_cons] at once
  have notBefore : part ∉ before.map Prod.fst := fun member =>
    once.2.2 part member part List.mem_cons_self rfl
  have split : sectionsOf (before ++ (part, lines) :: after) =
      sectionsOf before ++ (sectionOf lines ++ sectionsOf after) := by
    rw [sectionsOf, List.flatMap_append, List.flatMap_cons]
    rfl
  rw [split]
  cases lines with
  | nil =>
      have none := under_other part after [] titled.2.2 once.2.1.1
      rw [List.append_nil] at none
      rw [under_other part before _ titled.1 notBefore]
      exact none
  | cons head body =>
      exact under_first part head body before (sectionsOf after) titled.1 titled.2.1 notBefore

theorem plain_block_nil (part : ReportPart) : PlainBlock part [] where
  single := List.forall_mem_nil _
  headed := by
    intro head body none
    cases none

theorem plain_block_cons
    (part : ReportPart)
    (head : String)
    (body : List String)
    (starts : OneLine head ∧ part.text.toList <+: head.toList ∧ isHeading head.toList = true ∧
      opensFence head.toList = false)
    (plain : ∀ line ∈ body, OneLine line ∧ Plain isHeading opensFence line.toList) :
    PlainBlock part (head :: body) where
  single := by
    rw [List.forall_mem_cons]
    exact ⟨starts.1, fun line member => (plain line member).1⟩
  headed := by
    intro other lines same
    cases same
    exact ⟨starts.2.1, starts.2.2.1, starts.2.2.2, fun line member => (plain line member).2⟩

theorem plain_block_lines
    (part : ReportPart)
    (lines : List String)
    (block : PlainBlock part lines) : lines.flatMap linesOf = lines.map String.toList :=
  flat_lines_one_line lines block.single

theorem plain_block_titled
    (part : ReportPart)
    (lines : List String)
    (block : PlainBlock part lines) : Titled (part, lines) := by
  intro head body listed
  obtain ⟨starts, isHead, _⟩ := block.headed head body listed
  have single := block.single
  rw [show lines = head :: body from listed, List.forall_mem_cons] at single
  exact ⟨single.1, starts, isHead⟩

theorem plain_block_section
    (part : ReportPart)
    (lines : List String)
    (block : PlainBlock part lines) :
    ∀ own ∈ sectionOf lines, IsSection isHeading opensFence closesFence own := by
  intro own member
  cases lines with
  | nil => cases member
  | cons head body =>
      obtain ⟨_, isHead, unopened, plain⟩ := block.headed head body rfl
      have same : own = (head :: body).flatMap linesOf := List.mem_singleton.mp member
      rw [same, plain_block_lines part _ block, List.map_cons]
      refine ⟨head.toList, body.map String.toList, rfl, isHead, unopened, ?_⟩
      apply plain_runs
      rw [List.forall_mem_map]
      exact plain

theorem plain_block_unopened
    (part : ReportPart)
    (lines : List String)
    (block : PlainBlock part lines) :
    ∀ line ∈ lines.flatMap linesOf, opensFence line = false := by
  rw [plain_block_lines part lines block, List.forall_mem_map]
  cases lines with
  | nil => exact List.forall_mem_nil _
  | cons head body =>
      obtain ⟨_, _, unopened, plain⟩ := block.headed head body rfl
      rw [List.forall_mem_cons]
      exact ⟨unopened, fun line member => (plain line member).2⟩

theorem blank_plain : OneLine "" ∧ Plain isHeading opensFence "".toList :=
  ⟨by decide, plain_blank⟩

theorem plain_block_framed
    (part : ReportPart)
    (head : String)
    (body : List String)
    (starts : OneLine head ∧ part.text.toList <+: head.toList ∧ isHeading head.toList = true ∧
      opensFence head.toList = false)
    (plain : ∀ line ∈ body, OneLine line ∧ Plain isHeading opensFence line.toList) :
    PlainBlock part ([head, ""] ++ body ++ [""]) := by
  apply plain_block_cons part head ("" :: (body ++ [""])) starts
  rw [List.forall_mem_cons, List.forall_mem_append, List.forall_mem_singleton]
  exact ⟨blank_plain, plain, blank_plain⟩

theorem query_block (query : String) : PlainBlock .query (queryLines query) := by
  have quote := plain_started "> " (cell query) '>' (by decide) (by decide)
  have single : OneLine ("> " ++ cell query) := by
    simp only [one_line_append, one_line_cell, report_texts_single, and_self]
  exact plain_block_framed .query "## Query" ["> " ++ cell query] (fixed_heading .query)
    (List.forall_mem_singleton.mpr ⟨single, quote⟩)

theorem one_line_interpretation (applied : AppliedConvention) :
    OneLine (interpretationRow applied) := by
  have source : OneLine (sourceText applied.source) := by
    cases applied.source <;> simp only [sourceText, report_texts_single]
  simp only [interpretationRow, one_line_append, one_line_cell, report_texts_single, source,
    and_self]

theorem interpretation_row_plain (applied : AppliedConvention) :
    Plain isHeading opensFence (interpretationRow applied).toList := by
  have row : ∃ rest, interpretationRow applied = "| " ++ rest := by
    unfold interpretationRow
    simp only [String.append_assoc]
    exact ⟨_, rfl⟩
  rcases row with ⟨rest, written⟩
  rw [written]
  exact plain_started "| " rest '|' (by decide) (by decide)

theorem interpretations_block (applied : List AppliedConvention) :
    PlainBlock .interpretations (interpretationLines applied) := by
  unfold interpretationLines
  split_ifs
  · exact plain_block_nil _
  · have header := plain_started "|" " Term | JQL meaning | Source |" '|' (by decide) (by decide)
    have divider := plain_started "|" "---|---|---|" '|' (by decide) (by decide)
    have rows : ∀ line ∈ ["| Term | JQL meaning | Source |", "|---|---|---|"] ++
        applied.map interpretationRow,
        OneLine line ∧ Plain isHeading opensFence line.toList := by
      rw [List.forall_mem_append, List.forall_mem_cons, List.forall_mem_singleton,
        List.forall_mem_map]
      refine ⟨⟨⟨?_, header⟩, ?_, divider⟩, fun own _ =>
        ⟨one_line_interpretation own, interpretation_row_plain own⟩⟩
      · simp only [report_texts_single]
      · simp only [report_texts_single]
    exact plain_block_framed .interpretations "## Applied interpretations" _
      (fixed_heading .interpretations) rows

theorem answer_block
    (answer : Option String)
    (plain : ∀ text, truthyText answer = some text →
      isHeading (cell text).toList = false ∧ opensFence (cell text).toList = false) :
    PlainBlock .answer (answerLines answer) := by
  unfold answerLines
  cases given : truthyText answer with
  | none => exact plain_block_nil _
  | some text =>
      exact plain_block_framed .answer "## Answer" [cell text] (fixed_heading .answer)
        (List.forall_mem_singleton.mpr ⟨one_line_cell text, plain text given⟩)

theorem one_line_heading (shown total : Int) : OneLine (issuesHeading shown total) := by
  simp only [issuesHeading, one_line_append, one_line_int, report_texts_single, and_self]

theorem issues_heading_starts
    (shown total : Int) : ∃ rest, issuesHeading shown total = "## Issues (" ++ rest := by
  unfold issuesHeading
  simp only [String.append_assoc]
  exact ⟨_, rfl⟩

theorem table_line_plain (texts : List String) :
    OneLine (tableLine texts) ∧ Plain isHeading opensFence (tableLine texts).toList := by
  have row : ∃ rest, tableLine texts = "| " ++ rest := by
    unfold tableLine
    simp only [String.append_assoc]
    exact ⟨_, rfl⟩
  refine ⟨(table_line_unbroken texts).1, ?_⟩
  rcases row with ⟨rest, written⟩
  rw [written]
  exact plain_started "| " rest '|' (by decide) (by decide)

theorem divider_plain (columns : List String) :
    OneLine ("|" ++ String.join (columns.map fun _ => "---|")) ∧
      Plain isHeading opensFence ("|" ++ String.join (columns.map fun _ => "---|")).toList := by
  refine ⟨?_, plain_started "|" _ '|' (by decide) (by decide)⟩
  rw [one_line_append]
  refine ⟨by simp only [report_texts_single], ?_⟩
  rw [OneLine, String.toList_join, List.mem_flatMap]
  intro broken
  obtain ⟨text, listed, within⟩ := broken
  obtain ⟨_, _, rfl⟩ := List.mem_map.mp listed
  have single : OneLine "---|" := by simp only [report_texts_single]
  exact single within

theorem omission_lines_plain (omitted : Int) : ∀ line ∈ omissionLines omitted,
    OneLine line ∧ Plain isHeading opensFence line.toList := by
  unfold omissionLines
  split_ifs
  · have plain := plain_started "(" (toString omitted ++ " more rows omitted)") '(' (by decide)
      (by decide)
    simp only [List.forall_mem_cons, List.not_mem_nil, false_implies, implies_true, blank_plain,
      String.append_assoc, one_line_append, one_line_int, report_texts_single, plain, and_self]
  · exact List.forall_mem_nil _

theorem issues_block
    (tables : TextTables)
    (maxIssues : Int)
    (response : QueryResponse) :
    PlainBlock .issues (issuesLines tables maxIssues response) := by
  obtain ⟨rest, heading⟩ := issues_heading_starts response.shown response.total
  have starts : ReportPart.issues.text.toList <+:
      (issuesHeading response.shown response.total).toList := by
    rw [heading, String.toList_append]
    exact List.prefix_append _ _
  have isHead : isHeading (issuesHeading response.shown response.total).toList = true := by
    rw [heading, isHeading, prefix_started "## " "## Issues (" rest (by decide)]
    rfl
  have unopened : opensFence (issuesHeading response.shown response.total).toList = false := by
    rw [heading, opensFence, prefix_started "```" "## Issues (" rest (by decide)]
    rfl
  have empty := plain_started "(" "no issues returned)" '(' (by decide) (by decide)
  apply plain_block_framed
  · exact ⟨one_line_heading _ _, starts, isHead, unopened⟩
  · unfold issuesTable
    cases response.issues.head? with
    | none =>
        rw [Option.map_none, Option.getD_none, List.forall_mem_singleton]
        exact ⟨by simp only [report_texts_single], empty⟩
    | some first =>
        rw [Option.map_some, Option.getD_some, List.forall_mem_append, List.forall_mem_append,
          List.forall_mem_map]
        refine ⟨⟨?_, fun issue _ => table_line_plain _⟩, omission_lines_plain _⟩
        rw [List.forall_mem_cons, List.forall_mem_singleton]
        exact ⟨table_line_plain _, divider_plain _⟩

theorem items_plain
    {Item : Type}
    (items : List Item)
    (text : Item → String)
    (single : ∀ item ∈ items, OneLine (text item)) :
    ∀ line ∈ items.map (fun item => "- " ++ text item),
      OneLine line ∧ Plain isHeading opensFence line.toList := by
  rw [List.forall_mem_map]
  intro item member
  rw [one_line_append]
  exact ⟨⟨by simp only [report_texts_single], single item member⟩, plain_item (text item)⟩

theorem chart_block
    (spec : Option ChartSpec)
    (uiInjected : Bool)
    (single : ∀ own, spec = some own → ∀ text ∈ chartTexts own uiInjected, OneLine text) :
    PlainBlock .chart (chartLines spec uiInjected) := by
  cases spec with
  | none => exact plain_block_nil _
  | some own =>
      exact plain_block_framed .chart _ _ (fixed_heading .chart)
        (items_plain _ _ (single own rfl))

theorem warnings_block (errors : List String) : PlainBlock .warnings (warningsLines errors) := by
  unfold warningsLines
  split_ifs
  · exact plain_block_nil _
  · exact plain_block_framed .warnings _ _ (fixed_heading .warnings)
      (items_plain _ _ fun error _ => one_line_cell error)

theorem facts_block : PlainBlock .facts (factsLines ++ [""]) := by
  have facts := plain_started
    "Facts above come from Jira via the AtlasMind backend. Applied interpretations "
    "are listed so a wrong assumption is caught here (design doc trust rules)." 'F' (by decide)
    (by decide)
  exact plain_block_framed .facts "---" [_] (fixed_heading .facts)
    (List.forall_mem_singleton.mpr ⟨by simp only [report_texts_single], facts⟩)

theorem titled_nil (part : ReportPart) : Titled (part, []) := by
  intro head body none
  cases none

theorem titled_heading
    (part : ReportPart)
    (body : List String) : Titled (part, part.text :: body) := by
  intro other lines same
  cases same
  obtain ⟨single, starts, isHead, _⟩ := fixed_heading part
  exact ⟨single, starts, isHead⟩

theorem report_blocks_titled
    (tables : TextTables)
    (maxIssues : Int)
    (query : String)
    (response : QueryResponse) :
    ∀ block ∈ reportBlocks tables maxIssues query response, Titled block := by
  have jql : Titled (.jql, jqlLines response.jql) := by
    unfold jqlLines
    cases truthyText response.jql with
    | none => exact titled_nil _
    | some text => exact titled_heading .jql _
  have answer : Titled (.answer, answerLines response.answer) := by
    unfold answerLines
    cases truthyText response.answer with
    | none => exact titled_nil _
    | some text => exact titled_heading .answer _
  have chart : Titled (.chart, chartLines response.chartSpec response.uiInjected) := by
    cases response.chartSpec with
    | none => exact titled_nil _
    | some spec => exact titled_heading .chart _
  simp only [reportBlocks, List.forall_mem_cons, List.not_mem_nil, false_implies, implies_true,
    and_true, jql, answer, chart, true_and]
  exact ⟨plain_block_titled _ _ (query_block query),
    plain_block_titled _ _ (interpretations_block response.appliedConventions),
    plain_block_titled _ _ (issues_block tables maxIssues response),
    plain_block_titled _ _ (warnings_block response.errors), plain_block_titled _ _ facts_block⟩

theorem titled_start
    (blocks : List (ReportPart × List String))
    (titled : ∀ block ∈ blocks, Titled block) :
    (sections isHeading opensFence closesFence false (sectionsOf blocks).flatten).1 = [] := by
  induction blocks with
  | nil => rfl
  | cons block rest ih =>
      rw [List.forall_mem_cons] at titled
      obtain ⟨part, lines⟩ := block
      rw [sectionsOf, List.flatMap_cons, ← sectionsOf, List.flatten_append, flatten_section_of]
      cases lines with
      | nil => exact ih titled.2
      | cons head body =>
          obtain ⟨single, _, isHead⟩ := titled.1 head body rfl
          rw [List.flatMap_cons, lines_of_one_line head single, List.append_assoc,
            List.singleton_append]
          exact nothing_before_heading _ _ isHead

theorem headings_of_titled
    (blocks : List (ReportPart × List String))
    (titled : ∀ block ∈ blocks, Titled block) :
    (sectionsOf blocks).map (fun lines => lines.headD []) =
      (blocks.flatMap fun block => block.2.head?.toList).map String.toList := by
  induction blocks with
  | nil => rfl
  | cons block rest ih =>
      rw [List.forall_mem_cons] at titled
      obtain ⟨part, lines⟩ := block
      rw [sectionsOf, List.flatMap_cons, ← sectionsOf, List.map_append, ih titled.2,
        List.flatMap_cons, List.map_append]
      cases lines with
      | nil => rfl
      | cons head body =>
          obtain ⟨single, _, _⟩ := titled.1 head body rfl
          have first : ((head :: body).flatMap linesOf).headD [] = head.toList := by
            rw [List.flatMap_cons, lines_of_one_line head single, List.singleton_append,
              List.headD_cons]
          rw [sectionOf, List.isEmpty_cons, if_neg Bool.false_ne_true, List.map_singleton, first]
          rfl

theorem headings_of_report
    (tables : TextTables)
    (maxIssues : Int)
    (query : String)
    (response : QueryResponse) :
    (reportBlocks tables maxIssues query response).flatMap (fun block => block.2.head?.toList) =
      headingsOf response := by
  have interpretations : (interpretationLines response.appliedConventions).head?.toList =
      if response.appliedConventions.isEmpty then [] else ["## Applied interpretations"] := by
    unfold interpretationLines
    split_ifs <;> rfl
  have warnings : (warningsLines response.errors).head?.toList =
      if response.errors.isEmpty then [] else ["## Warnings"] := by
    unfold warningsLines
    split_ifs <;> rfl
  have jql : (jqlLines response.jql).head?.toList =
      if (truthyText response.jql).isSome then ["## Generated JQL"] else [] := by
    unfold jqlLines
    cases truthyText response.jql <;> rfl
  have answer : (answerLines response.answer).head?.toList =
      if (truthyText response.answer).isSome then ["## Answer"] else [] := by
    unfold answerLines
    cases truthyText response.answer <;> rfl
  have chart : (chartLines response.chartSpec response.uiInjected).head?.toList =
      if response.chartSpec.isSome then ["## Chart specification"] else [] := by
    cases response.chartSpec <;> rfl
  simp only [reportBlocks, List.flatMap_cons, List.flatMap_nil, interpretations, warnings, jql,
    answer, chart, headingsOf, List.append_assoc]
  rfl

end AtlasMindNetra.QueryReport
