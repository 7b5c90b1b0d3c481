import AtlasMindNetra.QueryReportBlocks
import AtlasMindNetra.ResultPassing

/-!
# Reading a query report back

What a report says of its response is read back exactly if its texts are plain.
The reports that are delivered are those of the responses that name them.
-/

namespace AtlasMindNetra.QueryReport

open AtlasMindNetra.PythonValues AtlasMindNetra.ResponseModels AtlasMindNetra.LineRules
open AtlasMindNetra.DelimiterRules AtlasMindNetra.SectionRules AtlasMindNetra.ReportSynthesiser
open AtlasMindNetra.SessionTexts (sourceText)
open AtlasMindNetra.ReportStructure (one_line_cell)
open AtlasMindNetra.Orchestrator AtlasMindNetra.SessionStore AtlasMindNetra.ConventionsStore
open AtlasMindNetra.IntentClassifier AtlasMindNetra.EffectRules

set_option autoImplicit false

theorem plain_block_body
    (part : ReportPart)
    (lines : List String)
    (block : PlainBlock part lines) :
    (lines.drop 1).flatMap linesOf = (lines.drop 1).map String.toList :=
  flat_lines_one_line _ fun line member => block.single line (List.mem_of_mem_drop member)

theorem under_report
    (tables : TextTables)
    (maxIssues : Int)
    (query : String)
    (response : QueryResponse)
    (part : ReportPart)
    (lines : List String)
    (before after : List (ReportPart × List String))
    (listed : reportBlocks tables maxIssues query response = before ++ (part, lines) :: after) :
    under part (sectionsOf (reportBlocks tables maxIssues query response)) =
      (lines.drop 1).flatMap linesOf := by
  have titled := report_blocks_titled tables maxIssues query response
  have once : ((reportBlocks tables maxIssues query response).map Prod.fst).Nodup := by
    simp only [reportBlocks, List.map_cons, List.map_nil]
    decide
  rw [listed] at titled once ⊢
  exact under_block part lines before after titled once

theorem marked_texts_framed
    {Item : Type}
    (mark : String)
    (some : mark.toList ≠ [])
    (items : List Item)
    (text : Item → String) :
    markedTexts mark ([[]] ++ (items.map fun item => mark ++ text item).map String.toList ++
      [[]]) = items.map fun item => (text item).toList := by
  rw [marked_texts_append, marked_texts_append, marked_texts_blank mark some,
    marked_texts_written mark items text, List.nil_append, List.append_nil]

theorem query_read
    (query : String) :
    markedTexts "> " (((queryLines query).drop 1).flatMap linesOf) = [(cell query).toList] := by
  rw [plain_block_body _ _ (query_block query)]
  exact marked_texts_framed "> " (by decide +kernel) [query] cell

theorem chart_read
    (spec : Option ChartSpec)
    (uiInjected : Bool)
    (single : ∀ own, spec = some own → ∀ text ∈ chartTexts own uiInjected, OneLine text) :
    markedTexts "- " (((chartLines spec uiInjected).drop 1).flatMap linesOf) =
      (spec.elim [] fun own => chartTexts own uiInjected).map String.toList := by
  rw [plain_block_body _ _ (chart_block spec uiInjected single)]
  cases spec with
  | none => rfl
  | some own =>
      exact marked_texts_framed "- " (by decide +kernel) (chartTexts own uiInjected) id

theorem warnings_read
    (errors : List String) :
    (markedTexts "- " (((warningsLines errors).drop 1).flatMap linesOf)).map (unescape '\\' '|') =
      errors.map singleLine := by
  rw [plain_block_body _ _ (warnings_block errors)]
  cases errors with
  | nil => rfl
  | cons error rest =>
      have read := marked_texts_framed "- " (by decide +kernel) (error :: rest) cell
      have lines : ((warningsLines (error :: rest)).drop 1).map String.toList =
          [[]] ++ ((error :: rest).map fun item => "- " ++ cell item).map String.toList ++
            [[]] := by
        rw [warningsLines, List.isEmpty_cons, if_neg Bool.false_ne_true]
        simp
      rw [lines, read, List.map_map]
      apply List.map_congr_left
      intro item _
      rw [Function.comp_apply, cell_read_back]

theorem answer_read
    (answer : Option String)
    (plain : ∀ text, truthyText answer = some text →
      isHeading (cell text).toList = false ∧ opensFence (cell text).toList = false) :
    (((answerLines answer).drop 1).flatMap linesOf)[1]?.map (unescape '\\' '|') =
      (truthyText answer).map singleLine := by
  rw [plain_block_body _ _ (answer_block answer plain)]
  unfold answerLines
  cases truthyText answer with
  | none => rfl
  | some text => exact congrArg some (cell_read_back text)

theorem jql_lines_split (jql : String) :
    ["## Generated JQL", "", "```jql", jql, "```", ""].flatMap linesOf =
      "## Generated JQL".toList ::
        ([[]] ++ "```jql".toList :: (linesOf jql ++ "```".toList :: [[]])) := by
  have head := lines_of_one_line "## Generated JQL" (fixed_heading .jql).1
  have first := lines_of_one_line "```jql" (by simp only [report_texts_single])
  have last := lines_of_one_line "```" (by simp only [report_texts_single])
  have blank : linesOf "" = [[]] := rfl
  simp only [List.flatMap_cons, List.flatMap_nil, head, first, last, blank, List.cons_append,
    List.nil_append]

theorem jql_runs
    (inner : List (List Char))
    (last : List Char)
    (kept : ∀ line ∈ inner, closesFence line = false)
    (closed : closesFence last = true) :
    Runs isHeading opensFence closesFence false
      ([[]] ++ "```jql".toList :: (inner ++ [last])) false := by
  have blank : Runs isHeading opensFence closesFence false [[]] false :=
    plain_runs [[]] (List.forall_mem_singleton.mpr plain_blank)
  rw [runs_append]
  exact ⟨false, blank, block_runs _ last inner fence_marks.1.1 fence_marks.1.2 kept closed⟩

theorem jql_section
    (jql : Option String)
    (kept : ∀ text, truthyText jql = some text → ∀ line ∈ linesOf text, closesFence line = false) :
    ∀ own ∈ sectionOf (jqlLines jql), IsSection isHeading opensFence closesFence own := by
  unfold jqlLines
  cases given : truthyText jql with
  | none => exact List.forall_mem_nil _
  | some text =>
      intro own member
      have same := List.mem_singleton.mp member
      rw [same, jql_lines_split]
      refine ⟨_, _, rfl, (fixed_heading .jql).2.2.1, (fixed_heading .jql).2.2.2, ?_⟩
      have block := jql_runs (linesOf text) _ (kept text given) fence_marks.2
      have blank : Runs isHeading opensFence closesFence false [[]] false :=
        plain_runs [[]] (List.forall_mem_singleton.mpr plain_blank)
      have whole : [[]] ++ "```jql".toList :: (linesOf text ++ "```".toList :: [[]]) =
          [[]] ++ "```jql".toList :: (linesOf text ++ ["```".toList]) ++ [[]] := by
        simp only [List.append_assoc, List.cons_append, List.nil_append]
      rw [whole, runs_append]
      exact ⟨false, block, blank⟩

theorem jql_read_from
    (inner rest : List (List Char))
    (last : List Char)
    (kept : ∀ line ∈ inner, closesFence line = false)
    (closed : closesFence last = true) :
    fencedLines opensFence closesFence
      ([[]] ++ "```jql".toList :: (inner ++ last :: rest)) = inner :=
  fenced_lines_block [[]] inner rest _ last (List.forall_mem_singleton.mpr plain_blank.2)
    fence_marks.1.2 kept closed

theorem jql_read
    (jql : Option String)
    (kept : ∀ text, truthyText jql = some text → ∀ line ∈ linesOf text, closesFence line = false) :
    fencedLines opensFence closesFence (((jqlLines jql).drop 1).flatMap linesOf) =
      (truthyText jql).elim [] linesOf := by
  unfold jqlLines
  cases given : truthyText jql with
  | none => rfl
  | some text =>
      have split := jql_lines_split text
      have heading : OneLine "## Generated JQL" := (fixed_heading .jql).1
      rw [List.flatMap_cons, lines_of_one_line _ heading, List.singleton_append,
        List.cons.injEq] at split
      rw [List.drop_one, List.tail_cons, split.2]
      exact jql_read_from (linesOf text) [[]] _ (kept text given) fence_marks.2

theorem replace_char_append
    (old : Char)
    (new first second : String) :
    replaceChar old new (first ++ second) =
      replaceChar old new first ++ replaceChar old new second := by
  rw [replaceChar, String.toList_append, List.flatMap_append, String.ofList_append, replaceChar,
    replaceChar]

theorem cell_append
    (first second : String) : cell (first ++ second) = cell first ++ cell second := by
  simp only [cell, replace_char_append]

theorem interpretation_row_line
    (applied : AppliedConvention) :
    interpretationRow applied = tableLine (interpretationTexts applied) := by
  have quote : cell "`" = "`" := by decide
  have source : cell (sourceText applied.source) = sourceText applied.source := by
    cases applied.source <;> decide
  have opened : " | `" = " | " ++ "`" := by decide
  have closed : "` | " = "`" ++ " | " := by decide
  simp only [interpretationRow, tableLine, interpretationTexts, List.map_cons, List.map_nil,
    String.intercalate_cons_cons, String.intercalate_singleton, cell_append, quote, source,
    opened, closed, String.append_assoc]

theorem line_read_iff
    (first : String)
    (rest : List String) :
    (lineCells (tableLine (first :: rest))).map (unescape '\\' '|') =
        (first :: rest).map singleLine ↔
      ∀ text ∈ first :: rest, PlainPipes text := by
  constructor
  · intro read
    apply (line_reads_back_iff first rest).mp
    rw [read]
  · intro plain
    have reads := (line_reads_back_iff first rest).mpr plain
    have length := (line_cells_plain first rest).mpr plain
    symm
    apply reads.eq_of_length
    rw [List.length_map, List.length_map, length]

theorem interpretation_read_iff
    (applied : AppliedConvention) :
    (rowCells '\\' '|' ' ' (interpretationRow applied).toList).map (unescape '\\' '|') =
        (interpretationTexts applied).map singleLine ↔
      ∀ text ∈ interpretationTexts applied, PlainPipes text := by
  rw [interpretation_row_line]
  exact line_read_iff applied.term ["`" ++ applied.jqlHint ++ "`", sourceText applied.source]

theorem row_marks :
    "| ".toList.isPrefixOf "".toList = false ∧
      "| ".toList.isPrefixOf "| Term | JQL meaning | Source |".toList = true ∧
      "| ".toList.isPrefixOf "|---|---|---|".toList = false ∧
      "|".toList.isPrefixOf "(no issues returned)".toList = false := by
  decide +kernel

/-- Besides the header the rows of the interpretations are those that were
written. -/
theorem interpretation_rows_read
    (applied : List AppliedConvention) :
    ((((interpretationLines applied).drop 1).flatMap linesOf).filter fun line =>
        "| ".toList.isPrefixOf line).tail =
      applied.map fun own => (interpretationRow own).toList := by
  rw [plain_block_body _ _ (interpretations_block applied)]
  cases applied with
  | nil => rfl
  | cons own rest =>
      have rows : ∀ line ∈ (own :: rest).map fun each => (interpretationRow each).toList,
          "| ".toList.isPrefixOf line = true := by
        rw [List.forall_mem_map]
        intro each _
        rw [interpretation_row_line, tableLine, String.append_assoc, String.toList_append,
          List.isPrefixOf_iff_prefix]
        exact List.prefix_append _ _
      have lines : ((interpretationLines (own :: rest)).drop 1).map String.toList =
          ["".toList, "| Term | JQL meaning | Source |".toList, "|---|---|---|".toList] ++
            (own :: rest).map (fun each => (interpretationRow each).toList) ++ ["".toList] := by
        rw [interpretationLines, List.isEmpty_cons, if_neg Bool.false_ne_true]
        simp
      rw [lines, List.filter_append, List.filter_append, List.filter_eq_self.mpr rows]
      simp only [List.filter_cons, List.filter_nil, row_marks, if_true, Bool.false_eq_true,
        if_false, List.singleton_append, List.append_nil, List.tail_cons]

theorem rows_kept
    (written : List String)
    (omitted : Int)
    (barred : ∀ line ∈ written, "|".toList.isPrefixOf line.toList = true) :
    ((written ++ omissionLines omitted).map String.toList).filter
        (fun line => "|".toList.isPrefixOf line) =
      (rowsOf (written ++ omissionLines omitted)).map String.toList := by
  have blank : "|".toList.isPrefixOf "".toList = false := by decide
  have shown : ∀ line ∈ written, decide (line ≠ "") = true := by
    intro line member
    apply decide_eq_true
    intro empty
    have starts := barred line member
    rw [empty, blank] at starts
    cases starts
  have none : (omissionLines omitted).takeWhile (fun line => decide (line ≠ "")) = [] ∧
      ((omissionLines omitted).map String.toList).filter
        (fun line => "|".toList.isPrefixOf line) = [] := by
    unfold omissionLines
    split_ifs
    · have other := prefix_started "|" "(" (toString omitted ++ " more rows omitted)") (by decide)
      have start : "|".toList.isPrefixOf "(".toList = false := by decide
      refine ⟨rfl, ?_⟩
      simp only [List.map_cons, List.map_nil, List.filter_cons, List.filter_nil, blank,
        String.append_assoc, other, start, Bool.false_eq_true, if_false]
    · exact ⟨rfl, rfl⟩
  rw [rowsOf, List.takeWhile_append_of_pos shown, none.1, List.append_nil, List.map_append,
    List.filter_append, none.2, List.append_nil, List.filter_eq_self, List.forall_mem_map]
  exact barred

theorem issue_rows_read
    (tables : TextTables)
    (maxIssues : Int)
    (response : QueryResponse) :
    (((issuesLines tables maxIssues response).drop 1).flatMap linesOf).filter
        (fun line => "|".toList.isPrefixOf line) =
      (rowsOf ((issuesTable tables maxIssues response).getD [])).map String.toList := by
  have blank : "|".toList.isPrefixOf "".toList = false := by decide
  rw [plain_block_body _ _ (issues_block tables maxIssues response)]
  have lines : ((issuesLines tables maxIssues response).drop 1).map String.toList =
      ["".toList] ++ ((issuesTable tables maxIssues response).getD
        ["(no issues returned)"]).map String.toList ++ ["".toList] := by
    rw [issuesLines]
    simp
  rw [lines, List.filter_append, List.filter_append]
  simp only [List.filter_cons, List.filter_nil, blank, Bool.false_eq_true, if_false,
    List.append_nil, List.nil_append]
  unfold issuesTable
  cases response.issues.head? with
  | none =>
      simp only [Option.map_none, Option.getD_none, List.map_singleton, List.filter_cons,
        List.filter_nil, row_marks, Bool.false_eq_true, if_false]
      rfl
  | some first =>
      have bar : "|".toList.isPrefixOf "| ".toList = true ∧
          "|".toList.isPrefixOf "|".toList = true := by decide
      have line (texts : List String) :
          "|".toList.isPrefixOf (tableLine texts).toList = true := by
        rw [tableLine, String.append_assoc, prefix_started "|" "| " _ (by decide)]
        exact bar.1
      apply rows_kept
      rw [List.forall_mem_append, List.forall_mem_cons, List.forall_mem_singleton,
        List.forall_mem_map]
      refine ⟨⟨line _, ?_⟩, fun issue _ => line _⟩
      rw [prefix_started "|" "|" _ (by decide)]
      exact bar.2

theorem preamble_read
    (timestamp sessionId : String)
    (dated : OneLine timestamp)
    (single : OneLine sessionId) :
    Runs isHeading opensFence closesFence false
        ((preambleLines timestamp sessionId).flatMap linesOf) false ∧
      markedTexts "- Session: " ((preambleLines timestamp sessionId).flatMap linesOf) =
        [sessionId.toList] := by
  have lines : (preambleLines timestamp sessionId).flatMap linesOf =
      (preambleLines timestamp sessionId).map String.toList := by
    apply flat_lines_one_line
    simp only [preambleLines, List.forall_mem_cons, List.not_mem_nil, false_implies, implies_true,
      one_line_append, report_texts_single, dated, single, blank_plain, and_self]
  rw [lines]
  constructor
  · have generated := plain_item ("Generated: " ++ timestamp)
    have session := plain_item ("Session: " ++ sessionId)
    have title : Plain isHeading opensFence "# AtlasMind query report".toList :=
      ⟨by decide, by decide⟩
    rw [← String.append_assoc] at generated session
    apply plain_runs
    rw [List.forall_mem_map]
    simp only [preambleLines, List.forall_mem_cons, List.not_mem_nil, false_implies, implies_true,
      and_true, blank_plain, title, true_and]
    exact ⟨generated, session⟩
  · have mark : "- Session: ".toList ≠ [] ∧
        "- Session: ".toList.isPrefixOf "# AtlasMind query report".toList = false ∧
        "- Session: ".toList.isPrefixOf "".toList = false ∧
        "- Session: ".toList.isPrefixOf "- Generated: ".toList = false := by decide
    have generated := prefix_started "- Session: " "- Generated: " timestamp (by decide)
    have before : markedTexts "- Session: " (["# AtlasMind query report", "",
        "- Generated: " ++ timestamp].map String.toList) = [] := by
      simp only [markedTexts, List.map_cons, List.map_nil, List.filter_cons, List.filter_nil, mark,
        generated, Bool.false_eq_true, if_false]
    have split : (preambleLines timestamp sessionId).map String.toList =
        ["# AtlasMind query report", "", "- Generated: " ++ timestamp].map String.toList ++
          ([sessionId].map fun own => "- Session: " ++ own).map String.toList ++ [[]] := rfl
    rw [split, marked_texts_append, marked_texts_append, before, marked_texts_written,
      marked_texts_blank _ mark.1, List.nil_append, List.append_nil, List.map_singleton]

/-- Blocks that make sections are read back from the start of a report, however
the rest is read. -/
theorem report_sections_from
    (tables : TextTables)
    (maxIssues : Int)
    (timestamp query : String)
    (response : QueryResponse)
    (done rest : List (ReportPart × List String))
    (split : reportBlocks tables maxIssues query response = done ++ rest)
    (dated : OneLine timestamp)
    (single : OneLine response.sessionId)
    (each : ∀ part ∈ sectionsOf done, IsSection isHeading opensFence closesFence part) :
    sections isHeading opensFence closesFence false
        (linesOf (buildQueryReport tables maxIssues timestamp query response)) =
      ((preambleLines timestamp response.sessionId).flatMap linesOf,
        sectionsOf done ++ (sections isHeading opensFence closesFence false
          (sectionsOf rest).flatten).2) := by
  have titled := report_blocks_titled tables maxIssues query response
  rw [split, List.forall_mem_append] at titled
  have both : (sectionsOf (done ++ rest)).flatten =
      (sectionsOf done).flatten ++ (sectionsOf rest).flatten := by
    rw [sectionsOf, List.flatMap_append, List.flatten_append, sectionsOf, sectionsOf]
  rw [lines_of_report, split, both, sections_runs false false _ _
    (preamble_read timestamp response.sessionId dated single).1,
    sections_start _ _ each (titled_start rest titled.2), List.append_nil]

theorem report_sections
    (tables : TextTables)
    (maxIssues : Int)
    (timestamp query : String)
    (response : QueryResponse)
    (dated : OneLine timestamp)
    (plain : ReportPlain response) :
    sections isHeading opensFence closesFence false
        (linesOf (buildQueryReport tables maxIssues timestamp query response)) =
      ((preambleLines timestamp response.sessionId).flatMap linesOf,
        sectionsOf (reportBlocks tables maxIssues query response)) := by
  have each : ∀ part ∈ sectionsOf (reportBlocks tables maxIssues query response),
      IsSection isHeading opensFence closesFence part := by
    rw [sectionsOf, List.forall_mem_flatMap]
    simp only [reportBlocks, List.forall_mem_cons, List.not_mem_nil, false_implies, implies_true,
      and_true]
    exact ⟨plain_block_section _ _ (query_block query),
      plain_block_section _ _ (interpretations_block _), jql_section _ plain.jql,
      plain_block_section _ _ (answer_block _ plain.answer),
      plain_block_section _ _ (issues_block tables maxIssues response),
      plain_block_section _ _ (chart_block _ _ plain.chart),
      plain_block_section _ _ (warnings_block _), plain_block_section _ _ facts_block⟩
  have none : (sections isHeading opensFence closesFence false (sectionsOf []).flatten).2 = [] :=
    rfl
  rw [report_sections_from tables maxIssues timestamp query response _ []
    (List.append_nil _).symm dated plain.session each, none, List.append_nil]

theorem plain_report_read
    (tables : TextTables)
    (maxIssues : Int)
    (timestamp query : String)
    (response : QueryResponse)
    (dated : OneLine timestamp)
    (plain : ReportPlain response) :
    readReport (buildQueryReport tables maxIssues timestamp query response) =
      contentOf tables maxIssues query response := by
  have body (part : ReportPart) (lines : List String)
      (before after : List (ReportPart × List String)) :=
    under_report tables maxIssues query response part lines before after
  have queryBody := body .query (queryLines query) [] _ rfl
  have interpretations := body .interpretations (interpretationLines response.appliedConventions)
    [_] _ rfl
  have jql := body .jql (jqlLines response.jql) [_, _] _ rfl
  have answer := body .answer (answerLines response.answer) [_, _, _] _ rfl
  have issues := body .issues (issuesLines tables maxIssues response) [_, _, _, _] _ rfl
  have chart := body .chart (chartLines response.chartSpec response.uiInjected) [_, _, _, _, _] _
    rfl
  have warnings := body .warnings (warningsLines response.errors) [_, _, _, _, _, _] _ rfl
  have titled := report_blocks_titled tables maxIssues query response
  have session := (preamble_read timestamp response.sessionId dated plain.session).2
  have rows : (response.appliedConventions.map fun own => (interpretationRow own).toList).map
      (fun line => (rowCells '\\' '|' ' ' line).map (unescape '\\' '|')) =
        response.appliedConventions.map fun own => (interpretationTexts own).map singleLine := by
    rw [List.map_map]
    apply List.map_congr_left
    intro applied member
    rw [Function.comp_apply]
    exact (interpretation_read_iff applied).mpr (plain.interpretations applied member)
  have headings := headings_of_titled _ titled
  rw [headings_of_report] at headings
  rw [readReport, report_sections tables maxIssues timestamp query response dated plain]
  unfold readContent contentOf
  dsimp only
  rw [session, headings, queryBody, query_read, interpretations, interpretation_rows_read, rows,
    jql, jql_read _ plain.jql, answer, answer_read _ plain.answer, issues, issue_rows_read, chart,
    chart_read _ _ plain.chart, warnings, warnings_read, List.head?_cons, List.head?_cons,
    Option.map_some, cell_read_back]

theorem marked_texts_unbroken
    (mark : String)
    (lines : List (List Char))
    (unbroken : ∀ line ∈ lines, '\n' ∉ line) :
    ∀ text ∈ markedTexts mark lines, '\n' ∉ text := by
  rw [markedTexts, List.forall_mem_map]
  intro line member broken
  exact unbroken line (List.mem_of_mem_filter member) (List.mem_of_mem_drop broken)

theorem under_unbroken
    (part : ReportPart)
    (parts : List (List (List Char)))
    (unbroken : ∀ lines ∈ parts, ∀ line ∈ lines, '\n' ∉ line) :
    ∀ line ∈ under part parts, '\n' ∉ line := by
  unfold under
  cases found : parts.find? fun lines => titleOf lines == some part with
  | none => exact List.forall_mem_nil _
  | some lines =>
      intro line member
      exact unbroken lines (List.mem_of_find?_eq_some found) line (List.mem_of_mem_tail member)

theorem sections_unbroken (report : String) :
    (∀ line ∈ (sections isHeading opensFence closesFence false (linesOf report)).1,
        '\n' ∉ line) ∧
      ∀ part ∈ (sections isHeading opensFence closesFence false (linesOf report)).2,
        ∀ line ∈ part, '\n' ∉ line := by
  have lines := line_unbroken report
  constructor
  · intro line member
    exact lines line ((sections_members false _).1 line member)
  · intro part listed line member
    exact lines line ((sections_members false _).2 part listed line member)

/-- The texts that stand in their lines as they are have no line break if they
are read back. -/
theorem single_of_read
    (tables : TextTables)
    (maxIssues : Int)
    (timestamp query : String)
    (response : QueryResponse)
    (read : readReport (buildQueryReport tables maxIssues timestamp query response) =
      contentOf tables maxIssues query response) :
    OneLine response.sessionId ∧ ∀ spec, response.chartSpec = some spec →
      ∀ text ∈ chartTexts spec response.uiInjected, OneLine text := by
  have unbroken := sections_unbroken (buildQueryReport tables maxIssues timestamp query response)
  have session := congrArg ReportContent.session read
  have chart := congrArg ReportContent.chart read
  dsimp only [readReport, readContent, contentOf] at session chart
  constructor
  · have listed := List.mem_of_head? session
    exact marked_texts_unbroken "- Session: " _ unbroken.1 _ listed
  · intro spec charted text listed
    rw [charted, Option.elim_some] at chart
    have member := List.mem_map_of_mem (f := String.toList) listed
    rw [← chart] at member
    exact marked_texts_unbroken "- " _ (under_unbroken .chart _ unbroken.2) _ member

theorem under_last
    (part : ReportPart)
    (lines : List String)
    (before : List (ReportPart × List String))
    (more : List (List (List Char)))
    (titled : ∀ block ∈ before ++ [(part, lines)], Titled block)
    (other : part ∉ before.map Prod.fst)
    (some : lines ≠ []) :
    under part (sectionsOf (before ++ [(part, lines)]) ++ more) =
      (lines.drop 1).flatMap linesOf := by
  rw [List.forall_mem_append, List.forall_mem_singleton] at titled
  cases lines with
  | nil => exact absurd rfl some
  | cons head body =>
      have split : sectionsOf (before ++ [(part, head :: body)]) ++ more =
          sectionsOf before ++ ((head :: body).flatMap linesOf :: more) := by
        rw [sectionsOf, List.flatMap_append, ← sectionsOf, List.append_assoc]
        rfl
      rw [split]
      exact under_first part head body before more titled.1 titled.2 other

theorem flatten_sections_cons
    (part : ReportPart)
    (lines : List String)
    (rest : List (ReportPart × List String)) :
    (sectionsOf ((part, lines) :: rest)).flatten =
      lines.flatMap linesOf ++ (sectionsOf rest).flatten := by
  rw [sectionsOf, List.flatMap_cons, List.flatten_append, flatten_section_of, ← sectionsOf]

theorem under_start
    (part : ReportPart)
    (body rest : List (List Char))
    (runs : Runs isHeading opensFence closesFence false body false) :
    under part (sections isHeading opensFence closesFence false
        (part.text.toList :: (body ++ rest))).2 =
      body ++ (sections isHeading opensFence closesFence false rest).1 := by
  obtain ⟨_, starts, isHead, unopened⟩ := fixed_heading part
  have title (lines : List (List Char)) : titleOf (part.text.toList :: lines) = some part :=
    mark_of_marked _ ReportPart.all part_marks_separated part (part_listed part) _ starts
  rw [sections_cons _ body rest isHead unopened runs, under_cons, if_pos (title _), List.tail_cons]

/-- The blocks before the JQL, which are plain in every report. -/
abbrev openingBlocks (query : String) (response : QueryResponse) :
    List (ReportPart × List String) :=
  [(.query, queryLines query)] ++
    [(.interpretations, interpretationLines response.appliedConventions)]

abbrev blocksToJql (query : String) (response : QueryResponse) :
    List (ReportPart × List String) :=
  openingBlocks query response ++ [(.jql, jqlLines response.jql)]

section Converse

variable (tables : TextTables) (maxIssues : Int) (timestamp query : String)
variable (response : QueryResponse)
variable (dated : OneLine timestamp)
variable (read : readReport (buildQueryReport tables maxIssues timestamp query response) =
  contentOf tables maxIssues query response)

include dated read

theorem read_from
    (done rest : List (ReportPart × List String))
    (split : reportBlocks tables maxIssues query response = done ++ rest)
    (each : ∀ part ∈ sectionsOf done, IsSection isHeading opensFence closesFence part) :
    readContent ((preambleLines timestamp response.sessionId).flatMap linesOf)
        (sectionsOf done ++ (sections isHeading opensFence closesFence false
          (sectionsOf rest).flatten).2) = contentOf tables maxIssues query response := by
  have single := (single_of_read tables maxIssues timestamp query response read).1
  have whole := report_sections_from tables maxIssues timestamp query response done rest split dated
    single each
  rw [readReport, whole] at read
  exact read

omit dated read in
theorem opening_sections :
    ∀ part ∈ sectionsOf (openingBlocks query response),
      IsSection isHeading opensFence closesFence part := by
  rw [sectionsOf, List.forall_mem_flatMap, List.forall_mem_append, List.forall_mem_singleton,
    List.forall_mem_singleton]
  exact ⟨plain_block_section _ _ (query_block query),
    plain_block_section _ _ (interpretations_block _)⟩

omit dated read in
theorem opening_titled : ∀ block ∈ openingBlocks query response, Titled block := by
  rw [List.forall_mem_append, List.forall_mem_singleton, List.forall_mem_singleton]
  exact ⟨plain_block_titled _ _ (query_block query),
    plain_block_titled _ _ (interpretations_block _)⟩

theorem interpretations_of_read :
    ∀ applied ∈ response.appliedConventions,
      ∀ text ∈ interpretationTexts applied, PlainPipes text := by
  intro applied member
  have written : interpretationLines response.appliedConventions ≠ [] := by
    unfold interpretationLines
    split_ifs with empty
    · rw [List.isEmpty_iff.mp empty] at member
      cases member
    · exact List.cons_ne_nil _ _
  have rows := congrArg ReportContent.interpretations
    (read_from tables maxIssues timestamp query response dated read _ _ rfl
      (opening_sections query response))
  have other :
      ReportPart.interpretations ∉ [(ReportPart.query, queryLines query)].map Prod.fst := by
    simp
  dsimp only [readContent, contentOf] at rows
  rw [under_last .interpretations _ _ _ (opening_titled query response) other written,
    interpretation_rows_read, List.map_map, List.map_inj_left] at rows
  have row := rows applied member
  rw [Function.comp_apply] at row
  exact (interpretation_read_iff applied).mp row

/-- The JQL is read up to its first line that closes the block, so that it has
none. -/
theorem jql_of_read :
    ∀ jql, truthyText response.jql = some jql → ∀ line ∈ linesOf jql, closesFence line = false := by
  intro jql given
  have ends : (∀ line ∈ linesOf jql, closesFence line = false) ∨ _ := first_closing (linesOf jql)
  rcases ends with none | found
  · exact none
  · obtain ⟨inner, last, more, split, kept, closed⟩ := found
    have lines := congrArg ReportContent.jql
      (read_from tables maxIssues timestamp query response dated read
        (openingBlocks query response) ((.jql, jqlLines response.jql) :: [_, _, _, _, _]) rfl
        (opening_sections query response))
    have shown : jqlLines response.jql = ["## Generated JQL", "", "```jql", jql, "```", ""] := by
      rw [jqlLines, given]
    have block (after : List (List Char)) : (jqlLines response.jql).flatMap linesOf ++ after =
        ReportPart.jql.text.toList :: ([[]] ++ "```jql".toList :: (inner ++ [last]) ++
          (more ++ "```".toList :: [] :: after)) := by
      rw [shown, jql_lines_split, split]
      simp only [ReportPart.text, List.append_assoc, List.cons_append, List.nil_append]
    have other : ReportPart.jql ∉ (openingBlocks query response).map Prod.fst := by
      simp
    have whole (after : List (List Char)) : [[]] ++ "```jql".toList :: (inner ++ [last]) ++ after =
        [[]] ++ "```jql".toList :: (inner ++ last :: after) := by
      simp only [List.append_assoc, List.cons_append, List.nil_append]
    dsimp only [readContent, contentOf] at lines
    rw [under_other .jql _ _ (opening_titled query response) other, flatten_sections_cons, block,
      under_start .jql _ _ (jql_runs inner last kept closed), whole,
      jql_read_from inner _ last kept closed, given, Option.elim_some, split] at lines
    have length := congrArg List.length lines
    rw [List.length_append, List.length_cons] at length
    omega

omit dated in
theorem unclosed_after_answer :
    ∀ line ∈ [] :: (sectionsOf [(.issues, issuesLines tables maxIssues response),
        (.chart, chartLines response.chartSpec response.uiInjected),
        (.warnings, warningsLines response.errors), (.facts, factsLines ++ [""])]).flatten,
      closesFence line = false := by
  have single := (single_of_read tables maxIssues timestamp query response read).2
  have unopened : ∀ line ∈ (sectionsOf [(.issues, issuesLines tables maxIssues response),
      (.chart, chartLines response.chartSpec response.uiInjected),
      (.warnings, warningsLines response.errors), (.facts, factsLines ++ [""])]).flatten,
      opensFence line = false := by
    rw [flatten_sections_of]
    simp only [List.flatMap_cons, List.flatMap_nil, List.flatMap_append, List.append_nil,
      List.forall_mem_append]
    have facts := plain_block_unopened _ _ facts_block
    rw [List.flatMap_append, List.forall_mem_append] at facts
    exact ⟨plain_block_unopened _ _ (issues_block tables maxIssues response),
      plain_block_unopened _ _ (chart_block _ _ single),
      plain_block_unopened _ _ (warnings_block _), facts⟩
  rw [List.forall_mem_cons]
  exact ⟨by decide, fun line member => closes_opens line (unopened line member)⟩

/-- An answer that starts a section is not read from its own, and one that
starts a block hides the issues. -/
theorem answer_of_read :
    ∀ answer, truthyText response.answer = some answer →
      isHeading (cell answer).toList = false ∧ opensFence (cell answer).toList = false := by
  have jql := jql_of_read tables maxIssues timestamp query response dated read
  intro answer given
  have done : ∀ part ∈ sectionsOf (blocksToJql query response),
      IsSection isHeading opensFence closesFence part := by
    rw [sectionsOf, List.flatMap_append, ← sectionsOf, List.forall_mem_append]
    refine ⟨opening_sections query response, ?_⟩
    rw [List.flatMap_singleton]
    exact jql_section _ jql
  have titled : ∀ block ∈ blocksToJql query response, Titled block := by
    have all := report_blocks_titled tables maxIssues query response
    intro block member
    exact all block (List.mem_append_left [_, _, _, _, _] member)
  have shown : answerLines response.answer = ["## Answer", "", cell answer, ""] := by
    rw [answerLines, given]
  have block (after : List (List Char)) : (answerLines response.answer).flatMap linesOf ++ after =
      ReportPart.answer.text.toList :: ([[]] ++ ((cell answer).toList :: [] :: after)) := by
    have head := lines_of_one_line "## Answer" (fixed_heading .answer).1
    have line := lines_of_one_line (cell answer) (one_line_cell answer)
    have blank : linesOf "" = [[]] := rfl
    rw [shown]
    simp only [List.flatMap_cons, List.flatMap_nil, head, line, blank, ReportPart.text,
      List.cons_append, List.nil_append]
  have blank : Runs isHeading opensFence closesFence false [[]] false :=
    plain_runs [[]] (List.forall_mem_singleton.mpr plain_blank)
  have whole := read_from tables maxIssues timestamp query response dated read _
    ((.answer, answerLines response.answer) :: [_, _, _, _]) rfl done
  have unheaded : isHeading (cell answer).toList = false := by
    cases headed : isHeading (cell answer).toList with
    | false => rfl
    | true =>
        have other : ReportPart.answer ∉ (blocksToJql query response).map Prod.fst := by
          simp
        have own := congrArg ReportContent.answer whole
        dsimp only [readContent, contentOf] at own
        rw [under_other .answer _ _ titled other, flatten_sections_cons, block,
          under_start .answer _ _ blank, nothing_before_heading _ _ headed, given] at own
        cases own
  refine ⟨unheaded, ?_⟩
  cases fenced : opensFence (cell answer).toList with
  | false => rfl
  | true =>
      have rest := unclosed_after_answer tables maxIssues timestamp query response read
      have heads := congrArg List.length (congrArg ReportContent.headings whole)
      have before := congrArg List.length (headings_of_titled _ titled)
      have first : (answerLines response.answer).head?.toList.length = 1 := by
        rw [shown]
        rfl
      have next : (issuesLines tables maxIssues response).head?.toList.length = 1 := rfl
      have blocks : reportBlocks tables maxIssues query response =
          blocksToJql query response ++ ((.answer, answerLines response.answer) ::
            (.issues, issuesLines tables maxIssues response) :: [_, _, _]) := rfl
      have total : ∃ more, (headingsOf response).length =
          ((blocksToJql query response).flatMap fun block => block.2.head?.toList).length +
            (1 + (1 + more)) := by
        rw [← headings_of_report tables maxIssues query, blocks, List.flatMap_append,
          List.length_append, List.flatMap_cons, List.length_append, first, List.flatMap_cons,
          List.length_append, next]
        exact ⟨_, rfl⟩
      obtain ⟨more, counted⟩ := total
      obtain ⟨_, _, isHead, unopened⟩ := fixed_heading .answer
      dsimp only [readContent, contentOf] at heads
      rw [flatten_sections_cons, block, sections_cons _ _ _ isHead unopened blank,
        unclosed_from _ _ unheaded fenced rest, List.map_append, List.length_append, before,
        List.length_map, List.length_map, List.length_map, counted, List.length_singleton] at heads
      omega

end Converse

/-- A report is read back exactly if the texts in it are plain. -/
theorem report_read_iff
    (tables : TextTables)
    (maxIssues : Int)
    (timestamp query : String)
    (response : QueryResponse)
    (dated : OneLine timestamp) :
    readReport (buildQueryReport tables maxIssues timestamp query response) =
        contentOf tables maxIssues query response ↔ ReportPlain response := by
  constructor
  · intro read
    have single := single_of_read tables maxIssues timestamp query response read
    exact
      { session := single.1
        interpretations :=
          interpretations_of_read tables maxIssues timestamp query response dated read
        jql := jql_of_read tables maxIssues timestamp query response dated read
        answer := answer_of_read tables maxIssues timestamp query response dated read
        chart := single.2 }
  · exact plain_report_read tables maxIssues timestamp query response dated

def ReportedAt (tables : TextTables) (maxIssues : Int) (backend : BackendSide) (query : String)
    (response : QueryResponse) (location : String) : Prop :=
  ∃ content, backend.deliver (reportId backend response.sessionId) content = .ok location ∧
    (readReport content = contentOf tables maxIssues query response ↔ ReportPlain response)

section Delivered

variable (orch : OrchestratorConfig) (env : QueryEnvironment) (call : QueryCall)
variable (tables : TextTables) (maxIssues : Int) (timestamp : String)
variable (dated : OneLine timestamp)
variable (builds : env.backend.buildQueryReport = fun query response =>
  .ok (buildQueryReport tables maxIssues timestamp query response))

include dated builds

theorem with_report_reported
    (query : String)
    (response : QueryResponse)
    (unreported : response.reportPath = none)
    (start : CallState) :
    Ensures (withReport orch env.backend query response) start
      (fun written final => final = start ∧ ∀ location, written.reportPath = some location →
        ReportedAt tables maxIssues env.backend query written location)
      (fun _ _ => True) := by
  have reads := report_read_iff tables maxIssues timestamp query response dated
  have plain (location : String) (url : Option String) :
      ReportPlain { response with reportPath := some location, viewUrl := url } ↔
        ReportPlain response :=
    ⟨fun own => ⟨own.session, own.interpretations, own.jql, own.answer, own.chart⟩,
      fun own => ⟨own.session, own.interpretations, own.jql, own.answer, own.chart⟩⟩
  unfold withReport
  rw [ensures_ite]
  constructor
  · intro _
    dsimp only
    cases delivered : env.backend.buildQueryReport query response >>=
        env.backend.deliver (reportId env.backend response.sessionId) with
    | ok location =>
        rw [builds] at delivered
        refine ⟨rfl, ?_⟩
        intro named same
        cases same
        exact ⟨_, delivered, reads.trans (plain _ _).symm⟩
    | error error =>
        dsimp only
        rw [ensures_ite]
        refine ⟨fun _ => ⟨rfl, ?_⟩, fun _ => trivial⟩
        intro named same
        cases unreported.symm.trans same
  · intro _
    refine ⟨rfl, ?_⟩
    intro named same
    cases unreported.symm.trans same

theorem respond_reported
    (query : String)
    (active : ActiveTerms)
    (errors : List String)
    (sessionId : String)
    (outcome : Except PyError LiteQueryResult)
    (start : CallState) :
    Ensures (respond orch env.backend call query active errors sessionId outcome) start
      (fun written final => AfterDisplay start final ∧
        ∀ location, written.reportPath = some location →
          ReportedAt tables maxIssues env.backend query written location)
      (fun _ _ => True) := by
  have reported (response : QueryResponse) (unreported : response.reportPath = none)
      (middle : CallState) (displayed : AfterDisplay start middle) :
      Ensures (withReport orch env.backend query response) middle
        (fun written final => AfterDisplay start final ∧
          ∀ location, written.reportPath = some location →
            ReportedAt tables maxIssues env.backend query written location)
        (fun _ _ => True) := by
    apply ensures_mono (with_report_reported orch env tables maxIssues timestamp dated builds query
      response unreported middle)
    · intro written final held
      obtain ⟨same, located⟩ := held
      rw [same]
      exact ⟨displayed, located⟩
    · intro _ _ _
      trivial
  cases outcome with
  | error error =>
      cases error with
      | liteBackend message =>
          have unreported :
              (failureResponse sessionId active errors message).reportPath = none := by
            unfold failureResponse
            split_ifs <;> rfl
          exact reported _ unreported start (after_display_refl start)
      | _ => trivial
  | ok result =>
      simp only [respond, ensures_ite, ensures_bind]
      constructor
      · intro _
        exact reported _ rfl start (after_display_refl start)
      · intro _
        apply ensures_mono (show_result_frame env.backend call.showInUi result.jql errors start)
        · intro shown middle held
          obtain ⟨displayed, _⟩ := held
          exact reported _ rfl middle displayed
        · intro _ _ _
          trivial

/-- The query of the call, as far as the backend was asked, is the one that is
reported. -/
def Reported (response : QueryResponse) (final : CallState) : Prop :=
  ∀ query enriched limit, .backendQueried query enriched limit ∈ final.events →
    ∀ location, response.reportPath = some location →
      ReportedAt tables maxIssues env.backend query response location

theorem dispatch_reported
    (query : String)
    (active : ActiveTerms)
    (errors : List String)
    (start : CallState)
    (unsent : AllEvents (fun event => event.isBackendQuery = false) start) :
    Ensures (dispatch orch env.backend call query active errors) start
      (Reported env tables maxIssues) (fun _ _ => True) := by
  rw [ensures_dispatch]
  apply ensures_mono (respond_reported orch env call tables maxIssues timestamp dated builds query
    active errors _ _ _)
  · intro response final held asked enriched limit queried
    obtain ⟨⟨shown, rfl⟩, located⟩ := held
    rcases List.mem_append.mp queried with before | after
    · rcases List.mem_append.mp before with earlier | last
      · rcases List.mem_append.mp earlier with first | moved
        · cases unsent _ first
        · cases List.mem_singleton.mp moved
      · cases List.mem_singleton.mp last
        exact located
    · rcases List.mem_map.mp after with ⟨_, _, same⟩
      cases same
  · intro _ _ _
    trivial

end Delivered

/-- Whenever a call returns a response that says where its report is, the report
was delivered there, and what the response says is read back from it exactly if
the texts of the response are plain. -/
theorem delivered_report_reads_back
    (orch : OrchestratorConfig)
    (store : SessionBackend)
    (world : World)
    (call : QueryCall)
    (env : QueryEnvironment)
    (tables : TextTables)
    (maxIssues : Int)
    (timestamp : String)
    (dated : OneLine timestamp)
    (builds : env.backend.buildQueryReport = fun query response =>
      .ok (buildQueryReport tables maxIssues timestamp query response))
    (response : QueryResponse)
    (returned : (queryStep orch store world call env).2.outcome = .ok response)
    (query enriched : String)
    (limit : Option Int)
    (queried : .backendQueried query enriched limit ∈
      (queryStep orch store world call env).2.events)
    (location : String)
    (located : response.reportPath = some location) :
    ∃ content,
      env.backend.deliver (reportId env.backend response.sessionId) content = .ok location ∧
        (readReport content = contentOf tables maxIssues query response ↔
          ReportPlain response) := by
  have reported := (query_step_iff orch store world call env fun _ record =>
    ∀ response, record.outcome = .ok response → ∀ query enriched limit,
      .backendQueried query enriched limit ∈ record.events →
        ∀ location, response.reportPath = some location →
          ReportedAt tables maxIssues env.backend query response location).mpr ?_
  · exact reported response returned query enriched limit queried location located
  · apply ensures_mono (handle_query_ends orch env call unsent_allows_questions
      (fun _ _ => rfl) (Reported env tables maxIssues) _
      (fun query active errors st unsent => dispatch_reported orch env call tables maxIssues
        timestamp dated builds query active errors st unsent) _ rfl)
    · intro response final shows other same
      cases same
      exact shows
    · intro error final _ other same
      cases same
    · intro response final unsent query enriched limit queried
      cases unsent _ queried

def reportingOrchestrator : OrchestratorConfig :=
  { sampleOrchestrator with settings := { deliveryEnabled := true } }

def reportingEnvironment : QueryEnvironment :=
  { sampleEnvironment with
    backend :=
      { sampleEnvironment.backend with
        query := fun _ _ => .ok { jql := some "project = A\nORDER BY key", total := 1, shown := 1 }
        buildQueryReport := fun query response =>
          .ok (buildQueryReport asciiTables 50 "2026-01-05T09:30:00+00:00" query response)
        deliver := fun reportId _ => .ok ("briefings/" ++ reportId ++ ".md")
        reportStamp := "20260105_093000"
        reportNonce := "0f3a9c12" } }

def reportedResponse : QueryResponse where
  sessionId := "s"
  jql := some "project = A\nORDER BY key"
  total := 1
  shown := 1
  reportPath := some "briefings/20260105_093000_s_0f3a9c12.md"

theorem reported_response_plain : ReportPlain reportedResponse where
  session := by decide
  interpretations := List.forall_mem_nil _
  jql := by
    intro jql given
    cases given
    decide +kernel
  answer := by
    intro answer given
    cases given
  chart := by
    intro spec charted
    cases charted

/-- The JQL of two lines is read back from the delivered report. -/
theorem sample_report_reads_back :
    ∃ content,
      reportingEnvironment.backend.deliver "20260105_093000_s_0f3a9c12" content =
          .ok "briefings/20260105_093000_s_0f3a9c12.md" ∧
        readReport content = contentOf asciiTables 50 "what is a blocker" reportedResponse := by
  obtain ⟨content, delivered, reads⟩ := delivered_report_reads_back reportingOrchestrator .inMemory
    {} askGeneral reportingEnvironment asciiTables 50 "2026-01-05T09:30:00+00:00"
    (by decide +kernel) rfl reportedResponse (by decide +kernel) "what is a blocker"
    "what is a blocker" none (by decide +kernel) _ rfl
  exact ⟨content, delivered, reads.mpr reported_response_plain⟩

end AtlasMindNetra.QueryReport
