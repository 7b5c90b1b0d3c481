import AtlasMindNetra.CqlBuilder
import AtlasMindNetra.LineRules
import AtlasMindNetra.Orchestrator

/-!
# The components that ask a language model

`core/clarifier.py` and `core/query_intent_analyser.py`. Each writes a prompt and
has an agent answer it with an output of a declared type. What an agent makes
of a prompt is a parameter. Of the errors that an agent raises two classes are
declared: the clarifier turns them into its own error, and the intent analyser
goes on as if there were nothing to look for in Confluence.
-/

namespace AtlasMindNetra.ModelAgents

open AtlasMindNetra.PythonValues AtlasMindNetra.ResponseModels AtlasMindNetra.LineRules
open AtlasMindNetra.ConventionsStore AtlasMindNetra.Orchestrator
open AtlasMindNetra.CqlBuilder (QueryIntent)

set_option autoImplicit false

/-- `Agent.run` for one prompt. -/
abbrev Agent (Output : Type) := String → Except AgentError Output

/-- The agent raises nothing but `AgentRunError` and `UserError`. -/
def Declared {Output : Type} (agent : Agent Output) : Prop :=
  ∀ prompt message, agent prompt ≠ .error (.other message)

/-- A block of a prompt: a title over its lines, or one line when there are none. -/
def block (none title : String) (lines : List String) : String :=
  if lines.isEmpty then none else title ++ "\n" ++ String.intercalate "\n" lines

def fieldLine (field : JiraField) : String := "- " ++ field.name ++ " (" ++ field.id ++ ")"

def fieldsBlock (fields : List JiraField) : String :=
  block "JIRA FIELDS AVAILABLE: (metadata unavailable - use standard Jira field names)"
    "JIRA FIELDS AVAILABLE:" (fields.map fieldLine)

def conventionLine (convention : Convention) : String :=
  "- " ++ convention.term ++ " -> " ++ convention.jqlHint ++
    " (project: " ++ convention.project ++ ")"

def conventionsBlock (conventions : List Convention) : String :=
  block "KNOWN TEAM CONVENTIONS (skip these): none" "KNOWN TEAM CONVENTIONS (skip these):"
    (conventions.map conventionLine)

def patternsText (entry : VocabEntry) : String :=
  String.intercalate "; " (entry.jqlPatterns.entries.map fun pattern =>
    pattern.1 ++ ": " ++ pattern.2)

def vocabLine (entry : String × VocabEntry) : String :=
  let patterns := patternsText entry.2
  let suffix := if patterns = "" then "" else " | patterns: " ++ patterns
  "- " ++ entry.1 ++ ": " ++ entry.2.ambiguity ++ suffix

def vocabBlock (vocab : OrderedDict String VocabEntry) : String :=
  block "DISAMBIGUATION VOCAB: none" "DISAMBIGUATION VOCAB:" (vocab.entries.map vocabLine)

def questionPrompt (request : FormulateRequest) : String :=
  String.intercalate "\n"
    ["OPERATION: FORMULATE QUESTION",
      fieldsBlock request.fields,
      conventionsBlock request.conventions,
      "AMBIGUOUS TERMS DETECTED: " ++ String.intercalate ", " request.terms,
      vocabBlock request.vocab,
      "USER QUERY: " ++ request.query,
      "-> Ask one targeted question covering all detected terms."]

def answerPrompt (request : ResolveRequest) : String :=
  String.intercalate "\n"
    ["OPERATION: RESOLVE ANSWER",
      "AMBIGUOUS TERMS: " ++ String.intercalate ", " request.terms,
      vocabBlock request.vocab,
      "ORIGINAL QUERY: " ++ request.query,
      "USER ANSWER: " ++ request.answer,
      "-> Resolve every listed term to a resolution_key and a JQL fragment."]

def clarifierFailure (task : String) : AgentError → PyError
  | .agentRun message | .user message => .clarification ("failed to " ++ task ++ ": " ++ message)
  | .other message => .other message

def formulateQuestion (agent : Agent ClarificationNeeded) (request : FormulateRequest) :
    Except PyError ClarificationNeeded :=
  (agent (questionPrompt request)).mapError (clarifierFailure "formulate question")

def resolveAnswer (agent : Agent ResolvedTerms) (request : ResolveRequest) :
    Except PyError ResolvedTerms :=
  (agent (answerPrompt request)).mapError (clarifierFailure "resolve answer")

/-- `QueryIntentAnalyser.analyse` -/
def analyseIntent (agent : Agent QueryIntent) (query : String) : Except PyError QueryIntent :=
  match agent ("QUERY: " ++ query ++ "\n\nExtract structured intent.") with
  | .ok intent => .ok intent
  | .error (.agentRun _) | .error (.user _) => .ok { intentType := .general }
  | .error (.other message) => .error (.other message)

def blockLines (none title : String) (lines : List String) : List String :=
  if lines.isEmpty then [none] else title :: lines

theorem lines_of_block
    (none title : String)
    (lines : List String) :
    linesOf (block none title lines) = (blockLines none title lines).flatMap linesOf := by
  unfold block blockLines
  cases lines with
  | nil => exact (List.append_nil _).symm
  | cons head rest =>
      simp only [List.isEmpty_cons, Bool.false_eq_true, if_false, lines_of_break, lines_of_joined,
        List.flatMap_cons]

theorem block_lines_single
    (none title : String)
    (lines : List String)
    (fixed : OneLine none ∧ OneLine title) :
    (∀ line, line ∈ blockLines none title lines → OneLine line) ↔
      ∀ line, line ∈ lines → OneLine line := by
  unfold blockLines
  cases lines with
  | nil => simp [fixed.1]
  | cons head rest =>
      rw [List.isEmpty_cons, if_neg Bool.false_ne_true, List.forall_mem_cons]
      exact and_iff_right fixed.2

def fieldsLines (fields : List JiraField) : List String :=
  blockLines "JIRA FIELDS AVAILABLE: (metadata unavailable - use standard Jira field names)"
    "JIRA FIELDS AVAILABLE:" (fields.map fieldLine)

def conventionsLines (conventions : List Convention) : List String :=
  blockLines "KNOWN TEAM CONVENTIONS (skip these): none" "KNOWN TEAM CONVENTIONS (skip these):"
    (conventions.map conventionLine)

def vocabLines (vocab : OrderedDict String VocabEntry) : List String :=
  blockLines "DISAMBIGUATION VOCAB: none" "DISAMBIGUATION VOCAB:" (vocab.entries.map vocabLine)

/-- The lines that a prompt for a question is meant to have. -/
def questionLines (request : FormulateRequest) : List String :=
  ["OPERATION: FORMULATE QUESTION"] ++ fieldsLines request.fields ++
    conventionsLines request.conventions ++
    ["AMBIGUOUS TERMS DETECTED: " ++ String.intercalate ", " request.terms] ++
    vocabLines request.vocab ++
    ["USER QUERY: " ++ request.query,
      "-> Ask one targeted question covering all detected terms."]

/-- The lines that a prompt for the resolution of an answer is meant to have. -/
def answerLines (request : ResolveRequest) : List String :=
  ["OPERATION: RESOLVE ANSWER",
    "AMBIGUOUS TERMS: " ++ String.intercalate ", " request.terms] ++
    vocabLines request.vocab ++
    ["ORIGINAL QUERY: " ++ request.query,
      "USER ANSWER: " ++ request.answer,
      "-> Resolve every listed term to a resolution_key and a JQL fragment."]

def fieldTexts (field : JiraField) : List String := [field.name, field.id]

def conventionTexts (convention : Convention) : List String :=
  [convention.term, convention.jqlHint, convention.project]

/-- The templates for questions are not part of a prompt. -/
def vocabTexts (entry : String × VocabEntry) : List String :=
  [entry.1, entry.2.ambiguity] ++
    entry.2.jqlPatterns.entries.flatMap fun pattern => [pattern.1, pattern.2]

def questionTexts (request : FormulateRequest) : List String :=
  request.fields.flatMap fieldTexts ++ request.conventions.flatMap conventionTexts ++
    request.terms ++ request.vocab.entries.flatMap vocabTexts ++ [request.query]

def answerTexts (request : ResolveRequest) : List String :=
  request.terms ++ request.vocab.entries.flatMap vocabTexts ++ [request.query, request.answer]

theorem mapped_lines_single
    {Item : Type}
    (line : Item → String)
    (texts : Item → List String)
    (single : ∀ item, OneLine (line item) ↔ ∀ text, text ∈ texts item → OneLine text)
    (items : List Item) :
    (∀ written, written ∈ items.map line → OneLine written) ↔
      ∀ text, text ∈ items.flatMap texts → OneLine text := by
  induction items with
  | nil => simp
  | cons item rest ih =>
      rw [List.map_cons, List.forall_mem_cons, ih, single, List.flatMap_cons, List.forall_mem_append]

theorem field_line_single
    (field : JiraField) :
    OneLine (fieldLine field) ↔ ∀ text, text ∈ fieldTexts field → OneLine text := by
  have marks : OneLine "- " ∧ OneLine " (" ∧ OneLine ")" := by decide
  simp only [fieldLine, fieldTexts, one_line_append, marks, List.forall_mem_cons,
    List.not_mem_nil, false_imp_iff, implies_true, true_and, and_true]

theorem convention_line_single
    (convention : Convention) :
    OneLine (conventionLine convention) ↔
      ∀ text, text ∈ conventionTexts convention → OneLine text := by
  have marks : OneLine "- " ∧ OneLine " -> " ∧ OneLine " (project: " ∧ OneLine ")" := by decide
  simp only [conventionLine, conventionTexts, one_line_append, marks, List.forall_mem_cons,
    List.not_mem_nil, false_imp_iff, implies_true, true_and, and_true, and_assoc]

theorem patterns_single
    (entry : VocabEntry) :
    OneLine (patternsText entry) ↔ ∀ text,
      text ∈ (entry.jqlPatterns.entries.flatMap fun pattern => [pattern.1, pattern.2]) →
        OneLine text := by
  have marks : OneLine "; " ∧ OneLine ": " := by decide
  unfold patternsText
  rw [one_line_intercalate _ _ marks.1]
  apply mapped_lines_single
  intro pattern
  simp only [one_line_append, marks, List.forall_mem_cons, List.not_mem_nil, false_imp_iff,
    implies_true, and_true]

theorem vocab_line_single
    (entry : String × VocabEntry) :
    OneLine (vocabLine entry) ↔ ∀ text, text ∈ vocabTexts entry → OneLine text := by
  have marks : OneLine "- " ∧ OneLine ": " ∧ OneLine " | patterns: " ∧ OneLine "" := by decide
  -- The patterns are left out only when their text is empty, which is one line.
  have suffix : OneLine (if patternsText entry.2 = "" then ""
      else " | patterns: " ++ patternsText entry.2) ↔ OneLine (patternsText entry.2) := by
    split_ifs with absent
    · rw [absent]
    · rw [one_line_append]
      exact and_iff_right marks.2.2.1
  simp only [vocabLine, vocabTexts, one_line_append, suffix, patterns_single, marks,
    List.forall_mem_append, List.forall_mem_cons, List.not_mem_nil, false_imp_iff, implies_true,
    true_and, and_true]

theorem vocab_lines_single
    (vocab : OrderedDict String VocabEntry) :
    (∀ line, line ∈ vocabLines vocab → OneLine line) ↔
      ∀ text, text ∈ vocab.entries.flatMap vocabTexts → OneLine text := by
  unfold vocabLines
  rw [block_lines_single _ _ _ (by decide)]
  exact mapped_lines_single vocabLine vocabTexts vocab_line_single vocab.entries

theorem question_lines_single
    (request : FormulateRequest) :
    (∀ line, line ∈ questionLines request → OneLine line) ↔
      ∀ text, text ∈ questionTexts request → OneLine text := by
  have marks : OneLine "OPERATION: FORMULATE QUESTION" ∧ OneLine "AMBIGUOUS TERMS DETECTED: " ∧
      OneLine "USER QUERY: " ∧
      OneLine "-> Ask one targeted question covering all detected terms." ∧ OneLine ", " := by
    decide
  have fields : (∀ line, line ∈ fieldsLines request.fields → OneLine line) ↔
      ∀ text, text ∈ request.fields.flatMap fieldTexts → OneLine text := by
    unfold fieldsLines
    rw [block_lines_single _ _ _ (by decide)]
    exact mapped_lines_single fieldLine fieldTexts field_line_single request.fields
  have conventions : (∀ line, line ∈ conventionsLines request.conventions → OneLine line) ↔
      ∀ text, text ∈ request.conventions.flatMap conventionTexts → OneLine text := by
    unfold conventionsLines
    rw [block_lines_single _ _ _ (by decide)]
    exact mapped_lines_single conventionLine conventionTexts convention_line_single
      request.conventions
  simp only [questionLines, questionTexts, List.forall_mem_append, List.forall_mem_cons,
    List.not_mem_nil, false_imp_iff, implies_true, fields, conventions, vocab_lines_single,
    one_line_append, one_line_intercalate, marks, true_and, and_true]

theorem answer_lines_single
    (request : ResolveRequest) :
    (∀ line, line ∈ answerLines request → OneLine line) ↔
      ∀ text, text ∈ answerTexts request → OneLine text := by
  have marks : OneLine "OPERATION: RESOLVE ANSWER" ∧ OneLine "AMBIGUOUS TERMS: " ∧
      OneLine "ORIGINAL QUERY: " ∧ OneLine "USER ANSWER: " ∧
      OneLine "-> Resolve every listed term to a resolution_key and a JQL fragment." ∧
      OneLine ", " := by
    decide
  simp only [answerLines, answerTexts, List.forall_mem_append, List.forall_mem_cons,
    List.not_mem_nil, false_imp_iff, implies_true, vocab_lines_single, one_line_append,
    one_line_intercalate, marks, true_and, and_true]

/-- A prompt for a question has the lines that it is meant to have exactly if
each text in it is a single line. -/
theorem question_prompt_kept_iff
    (request : FormulateRequest) :
    linesOf (questionPrompt request) = (questionLines request).map String.toList ↔
      ∀ text, text ∈ questionTexts request → OneLine text := by
  have lines : linesOf (questionPrompt request) = (questionLines request).flatMap linesOf := by
    simp only [questionPrompt, questionLines, fieldsBlock, conventionsBlock, vocabBlock,
      fieldsLines, conventionsLines, vocabLines, lines_of_joined, lines_of_block,
      List.flatMap_cons, List.flatMap_nil, List.flatMap_append, List.append_assoc,
      List.append_nil]
  rw [lines, flat_lines_iff, question_lines_single]

theorem answer_prompt_kept_iff
    (request : ResolveRequest) :
    linesOf (answerPrompt request) = (answerLines request).map String.toList ↔
      ∀ text, text ∈ answerTexts request → OneLine text := by
  have lines : linesOf (answerPrompt request) = (answerLines request).flatMap linesOf := by
    simp only [answerPrompt, answerLines, vocabBlock, vocabLines, lines_of_joined,
      lines_of_block, List.flatMap_cons, List.flatMap_nil, List.flatMap_append,
      List.append_assoc, List.append_nil]
  rw [lines, flat_lines_iff, answer_lines_single]

end AtlasMindNetra.ModelAgents
