import AtlasMindNetra.DelimiterRules
import AtlasMindNetra.ReportSynthesiser

/-!
# The issues of a query report

`_issues_table`, `_default_columns` and `_issue_value` of
`core/report_synthesiser.py`. A pipe of a value is escaped by a backslash, but
a backslash is not. A value that has a backslash before a pipe therefore ends
its cell at that pipe.
-/

namespace AtlasMindNetra.ReportSynthesiser

open AtlasMindNetra.PythonValues AtlasMindNetra.ResponseModels AtlasMindNetra.LineRules
open AtlasMindNetra.DelimiterRules

set_option autoImplicit false

/-- `_default_columns` with `_MAX_DEFAULT_COLUMNS` -/
def defaultColumns (issue : IssueRow) : List String := issue.keys.take 8

def issueValue (tables : TextTables) (issue : IssueRow) (column : String) : String :=
  let lower := tables.lower column
  let held := [column, lower, replaceChar ' ' "" lower].filterMap issue.get?
  match held.find? (· ≠ .null) with
  | some value => value.render
  | none => ""

def tableLine (texts : List String) : String :=
  "| " ++ String.intercalate " | " (texts.map cell) ++ " |"

def omissionLines (omitted : Int) : List String :=
  if 0 < omitted then ["", "(" ++ toString omitted ++ " more rows omitted)"] else []

/-- `display_fields or _default_columns(issues[0])` -/
def tableColumns (response : QueryResponse) (first : IssueRow) : List String :=
  if response.displayFields.isEmpty then defaultColumns first else response.displayFields

/-- `_issues_table`; without issues `issues[0]` raises. -/
def issuesTable (tables : TextTables) (maxIssues : Int) (response : QueryResponse) :
    Option (List String) :=
  response.issues.head?.map fun first =>
    let columns := tableColumns response first
    [tableLine columns, "|" ++ String.join (columns.map fun _ => "---|")] ++
      (sliceTo maxIssues response.issues).map
        (fun issue => tableLine (columns.map (issueValue tables issue))) ++
      omissionLines (response.issues.length - maxIssues)

def singleLine (value : String) : List Char :=
  value.toList.map fun char => if char = '\r' ∨ char = '\n' then ' ' else char

def lineCells (line : String) : List (List Char) := rowCells '\\' '|' ' ' line.toList

def rowsOf (body : List String) : List String := body.takeWhile (· ≠ "")

/-- The row is a single line with as many cells as the header, and the cell of
every column is read back as the value of the issue. -/
structure ShowsIssue (tables : TextTables) (columns : List String) (header : String)
    (issue : IssueRow) (line : String) : Prop where
  single : '\n' ∉ line.toList ∧ '\r' ∉ line.toList
  asHeader : (lineCells line).length = (lineCells header).length
  values : ∀ (index : Nat) (column : String), columns[index]? = some column →
    ((lineCells line)[index]?).map (unescape '\\' '|') =
      some (singleLine (issueValue tables issue column))

/-- Every row shows its issue, and the rows and those stated to be omitted are
as many as the issues. -/
def KeepsColumns (tables : TextTables) (maxIssues : Int) (response : QueryResponse) : Prop :=
  ∃ first header rule body,
    response.issues.head? = some first ∧
    issuesTable tables maxIssues response = some (header :: rule :: body) ∧
    (∃ omitted : Nat, body = rowsOf body ++ omissionLines omitted ∧
      (rowsOf body).length + omitted = response.issues.length) ∧
    ∀ (index : Nat) (line : String), (rowsOf body)[index]? = some line → ∃ issue,
      response.issues[index]? = some issue ∧
        ShowsIssue tables (tableColumns response first) header issue line

/-- No pipe of the text stands directly after an odd number of backslashes. -/
def PlainPipes (text : String) : Prop := Unexposed '\\' '|' text.toList

def PlainTable (tables : TextTables) (maxIssues : Nat) (response : QueryResponse) : Prop :=
  ∀ first, response.issues.head? = some first → ∀ issue ∈ response.issues.take maxIssues,
    ∀ column ∈ tableColumns response first,
      PlainPipes column ∧ PlainPipes (issueValue tables issue column)

theorem replace_with_one
    (old new : Char)
    (text : String) :
    (replaceChar old (String.ofList [new]) text).toList =
      text.toList.map fun char => if char = old then new else char := by
  rw [replaceChar, String.toList_ofList, String.toList_ofList, List.map_eq_flatMap]
  congr 1
  funext char
  split_ifs <;> rfl

theorem cell_chars (value : String) : (cell value).toList = escape '\\' '|' (singleLine value) := by
  have escaped : "\\|".toList = ['\\', '|'] := by decide
  have blank : " " = String.ofList [' '] := by decide
  rw [cell, replaceChar, String.toList_ofList, escaped, blank, replace_with_one, replace_with_one,
    List.map_map, escape]
  congr 1
  apply List.map_congr_left
  intro char _
  rw [Function.comp_apply]
  split_ifs <;> simp_all

theorem table_line_cons
    (first second : String)
    (rest : List String) :
    tableLine (first :: second :: rest) =
      "| " ++ cell first ++ " " ++ tableLine (second :: rest) := by
  have gap : " | " = " " ++ "| " := by decide
  simp only [tableLine, List.map_cons, String.intercalate_cons_cons, String.append_assoc, gap]

theorem table_line_chars
    (first : String)
    (rest : List String) :
    (tableLine (first :: rest)).toList =
      row '\\' '|' ' ' ((first :: rest).map singleLine) := by
  have start : "| ".toList = ['|', ' '] := by decide
  have stop : " |".toList = [' ', '|'] := by decide
  have gap : " ".toList = [' '] := by decide
  induction rest generalizing first with
  | nil =>
      simp only [tableLine, List.map_cons, List.map_nil, String.intercalate_singleton,
        String.toList_append, cell_chars, start, stop, row, paddedCell, List.flatMap_cons,
        List.flatMap_nil, List.append_nil, List.cons_append, List.nil_append, List.append_assoc]
  | cons second rest ih =>
      rw [table_line_cons, String.toList_append, String.toList_append, String.toList_append, ih,
        cell_chars, start, gap]
      simp [row, paddedCell]

theorem single_line_unbroken
    (value : String) : '\n' ∉ singleLine value ∧ '\r' ∉ singleLine value := by
  simp only [singleLine, List.mem_map, not_exists, not_and]
  constructor
  · intro char _
    split_ifs with breaks
    · decide
    · exact fun same => breaks (Or.inr same)
  · intro char _
    split_ifs with breaks
    · decide
    · exact fun same => breaks (Or.inl same)

theorem table_line_unbroken
    (texts : List String) :
    '\n' ∉ (tableLine texts).toList ∧ '\r' ∉ (tableLine texts).toList := by
  cases texts with
  | nil => decide
  | cons first rest =>
      rw [table_line_chars]
      have unbroken (char : Char) (fixed : char ≠ '\\' ∧ char ≠ '|' ∧ char ≠ ' ')
          (single : ∀ value, char ∉ singleLine value) :
          char ∉ row '\\' '|' ' ' ((first :: rest).map singleLine) := by
        intro member
        rcases mem_row _ char member with isMark | isSeparator | isPad | ⟨text, listed, inText⟩
        · exact fixed.1 isMark
        · exact fixed.2.1 isSeparator
        · exact fixed.2.2 isPad
        · rcases List.mem_map.mp listed with ⟨value, -, rfl⟩
          exact single value inText
      constructor
      · exact unbroken '\n' (by decide) fun value => (single_line_unbroken value).1
      · exact unbroken '\r' (by decide) fun value => (single_line_unbroken value).2

theorem plain_pipes_iff
    (text : String) : PlainPipes text ↔ exposed '\\' '|' false (singleLine text) = 0 := by
  rw [PlainPipes, unexposed_iff, singleLine, exposed_map]
  · intro char
    split_ifs with breaks
    · rcases breaks with rfl | rfl <;> decide
    · rfl
  · intro char
    split_ifs with breaks
    · rcases breaks with rfl | rfl <;> decide
    · rfl

instance (text : String) : Decidable (PlainPipes text) :=
  decidable_of_iff _ (plain_pipes_iff text).symm

theorem pipe_marks : '\\' ≠ '|' ∧ ' ' ≠ '|' ∧ ' ' ≠ '\\' := by decide

theorem line_cells_length
    (first : String)
    (rest : List String) :
    (lineCells (tableLine (first :: rest))).length = (first :: rest).length +
      ((first :: rest).map fun text => exposed '\\' '|' false (singleLine text)).sum := by
  rw [lineCells, table_line_chars, row_cells_length pipe_marks.1 pipe_marks.2, List.length_map,
    List.map_map]
  rfl

/-- A line has as many cells as texts if all their pipes are plain. -/
theorem line_cells_plain
    (first : String)
    (rest : List String) :
    (lineCells (tableLine (first :: rest))).length = (first :: rest).length ↔
      ∀ text ∈ first :: rest, PlainPipes text := by
  rw [line_cells_length, Nat.add_eq_left, List.sum_eq_zero_iff_forall_eq_nat, List.forall_mem_map]
  simp only [plain_pipes_iff]

theorem line_reads_back_iff
    (first : String)
    (rest : List String) :
    (first :: rest).map singleLine <+:
        (lineCells (tableLine (first :: rest))).map (unescape '\\' '|') ↔
      ∀ text ∈ first :: rest, PlainPipes text := by
  rw [lineCells, table_line_chars, row_reads_back_iff pipe_marks.1 pipe_marks.2,
    List.forall_mem_map]
  simp only [plain_pipes_iff]

theorem values_read_iff
    (columns : List String)
    (value : String → String)
    (line : String) :
    (∀ (index : Nat) (column : String), columns[index]? = some column →
        ((lineCells line)[index]?).map (unescape '\\' '|') = some (singleLine (value column))) ↔
      (columns.map value).map singleLine <+: (lineCells line).map (unescape '\\' '|') := by
  rw [List.prefix_iff_getElem?]
  simp only [List.length_map, List.getElem?_map, List.getElem_map]
  constructor
  · intro read index inside
    exact read index columns[index] (List.getElem?_eq_getElem inside)
  · intro read index column held
    rcases List.getElem?_eq_some_iff.mp held with ⟨inside, rfl⟩
    exact read index inside

/-- The row of an issue keeps its columns if all pipes of its line and of the
header are plain. -/
theorem shows_issue_iff
    (tables : TextTables)
    (columns : List String)
    (issue : IssueRow) :
    ShowsIssue tables columns (tableLine columns) issue
        (tableLine (columns.map (issueValue tables issue))) ↔
      ∀ column ∈ columns, PlainPipes column ∧ PlainPipes (issueValue tables issue column) := by
  cases columns with
  | nil => exact iff_of_true ⟨table_line_unbroken [], rfl, nofun⟩ nofun
  | cons first rest =>
      have header := line_cells_plain first rest
      have line := line_cells_plain (issueValue tables issue first)
        (rest.map (issueValue tables issue))
      have back := line_reads_back_iff (issueValue tables issue first)
        (rest.map (issueValue tables issue))
      rw [← List.map_cons, List.forall_mem_map] at line back
      rw [← values_read_iff] at back
      rw [List.length_map] at line
      constructor
      · rintro ⟨_, asHeader, values⟩
        have plain := back.mp values
        have columnsPlain := header.mp (asHeader.symm.trans (line.mpr plain))
        exact fun column listed => ⟨columnsPlain column listed, plain column listed⟩
      · intro plain
        have columnsPlain := header.mpr fun column listed => (plain column listed).1
        have values := line.mpr fun column listed => (plain column listed).2
        exact
          { single := table_line_unbroken _
            asHeader := values.trans columnsPlain.symm
            values := back.mpr fun column listed => (plain column listed).2 }

theorem table_line_ne_empty (texts : List String) : tableLine texts ≠ "" := by
  intro empty
  have chars := congrArg String.toList empty
  simp [tableLine] at chars

theorem rows_of_lines
    (lines : List (List String))
    (omitted : Int) :
    rowsOf (lines.map tableLine ++ omissionLines omitted) = lines.map tableLine := by
  have none : rowsOf (omissionLines omitted) = [] := by
    rw [omissionLines]
    split_ifs <;> rfl
  rw [rowsOf, List.takeWhile_append_of_pos]
  · rw [← rowsOf, none, List.append_nil]
  · rw [List.forall_mem_map]
    exact fun texts _ => decide_eq_true (table_line_ne_empty texts)

theorem omission_lines_natural
    (issues shown : Nat) :
    omissionLines ((issues : Int) - shown) = omissionLines ((issues - shown : Nat) : Int) := by
  by_cases all : issues ≤ shown
  · rw [omissionLines, omissionLines, if_neg (by omega), if_neg (by omega)]
  · rw [Int.natCast_sub (by omega)]

theorem listed_of_shown
    {Item : Type}
    (items : List Item)
    (shown index : Nat)
    (item : Item)
    (held : (items.take shown)[index]? = some item) : items[index]? = some item := by
  rw [List.getElem?_take] at held
  split_ifs at held
  exact held

def shownTexts (tables : TextTables) (maxIssues : Nat) (columns : List String)
    (issues : List IssueRow) : List (List String) :=
  (issues.take maxIssues).map fun issue => columns.map (issueValue tables issue)

theorem issues_table_lines
    (tables : TextTables)
    (maxIssues : Nat)
    (response : QueryResponse)
    (first : IssueRow)
    (head : response.issues.head? = some first) :
    issuesTable tables maxIssues response =
      some (tableLine (tableColumns response first) ::
        ("|" ++ String.join ((tableColumns response first).map fun _ => "---|")) ::
        ((shownTexts tables maxIssues (tableColumns response first) response.issues).map
            tableLine ++
          omissionLines (response.issues.length - maxIssues : Nat))) := by
  rw [issuesTable, head, sliceTo, if_neg (Int.not_lt.mpr (Int.natCast_nonneg maxIssues)),
    omission_lines_natural, shownTexts, List.map_map]
  rfl

/-- The table keeps its columns exactly if neither a column of it nor a value
in a shown row has a pipe directly after an odd number of backslashes. -/
theorem issues_table_keeps_columns_iff
    (tables : TextTables)
    (maxIssues : Nat)
    (response : QueryResponse)
    (hasIssues : response.issues ≠ []) :
    KeepsColumns tables maxIssues response ↔ PlainTable tables maxIssues response := by
  rcases List.exists_cons_of_ne_nil hasIssues with ⟨first, others, issues⟩
  have head : response.issues.head? = some first := by rw [issues, List.head?_cons]
  have table := issues_table_lines tables maxIssues response first head
  unfold PlainTable KeepsColumns
  simp only [head, Option.some.injEq, forall_eq']
  constructor
  · rintro ⟨found, header, rule, body, rfl, written, -, rows⟩ issue shown
    rw [table] at written
    simp only [Option.some.injEq, List.cons.injEq] at written
    rcases written with ⟨rfl, rfl, rfl⟩
    rw [rows_of_lines] at rows
    rcases List.mem_iff_getElem?.mp shown with ⟨index, held⟩
    rcases rows index _ (by rw [shownTexts, List.map_map, List.getElem?_map, held]; rfl)
      with ⟨other, listed, shows⟩
    have same := listed.symm.trans (listed_of_shown _ _ _ _ held)
    rw [Option.some.inj same] at shows
    exact (shows_issue_iff tables _ issue).mp shows
  · intro plain
    refine ⟨first, _, _, _, rfl, table, ⟨response.issues.length - maxIssues, ?_, ?_⟩, ?_⟩
    · rw [rows_of_lines]
    · rw [rows_of_lines, List.length_map, shownTexts, List.length_map, List.length_take]
      omega
    · rw [rows_of_lines]
      intro index line held
      rw [shownTexts, List.map_map, List.getElem?_map, Option.map_eq_some_iff] at held
      rcases held with ⟨issue, held, rfl⟩
      have shown := List.mem_of_getElem? held
      exact ⟨issue, listed_of_shown _ _ _ _ held,
        (shows_issue_iff tables _ issue).mpr (plain issue shown)⟩

def summaryResponse (summary : String) : QueryResponse where
  sessionId := "s1"
  displayFields := ["summary"]
  issues := [(∅ : IssueRow).set "summary" (.str summary)]

/-- A pipe by itself is escaped. -/
theorem piped_summary_keeps_columns :
    KeepsColumns asciiTables (50 : Nat) (summaryResponse "Firmware | v2") := by
  apply (issues_table_keeps_columns_iff asciiTables 50 _ (List.cons_ne_nil _ _)).mpr
  intro first head
  cases head
  decide +kernel

/-- A backslash before the pipe escapes the backslash that was to escape the
pipe, so the row has two cells under one column. -/
theorem slashed_summary_splits :
    issuesTable asciiTables (50 : Nat) (summaryResponse "C:\\|D:") =
        some ["| summary |", "|---|", "| C:\\\\|D: |"] ∧
      ¬ KeepsColumns asciiTables (50 : Nat) (summaryResponse "C:\\|D:") := by
  have table : issuesTable asciiTables (50 : Nat) (summaryResponse "C:\\|D:") =
      some ["| summary |", "|---|", "| C:\\\\|D: |"] := by decide +kernel
  apply And.intro table
  rintro ⟨first, header, rule, body, -, written, -, rows⟩
  rw [table] at written
  simp only [Option.some.injEq, List.cons.injEq] at written
  rcases written with ⟨rfl, rfl, rfl⟩
  rcases rows 0 _ rfl with ⟨issue, -, shows⟩
  exact absurd shows.asHeader (by decide +kernel)

end AtlasMindNetra.ReportSynthesiser
