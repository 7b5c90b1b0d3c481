import AtlasMindNetra.PatternRules
import AtlasMindNetra.PythonValues

/-!
# Issue keys in a text

`confluence/extraction/issue_key_parser.py`. The pattern is the one of the
source, with its group around all of it but the boundaries. The `\d` and `\w`
classes are tables; of a text in ASCII only their ASCII part is read.
-/

namespace AtlasMindNetra.IssueKeyParser

open AtlasMindNetra.PythonValues AtlasMindNetra.PatternRules

set_option autoImplicit false

section Keys

variable (tables : TextTables) (isDecimal : Char → Bool)

/-- `[A-Z0-9]` -/
def isProjectChar (char : Char) : Bool := char.isUpper || char.isDigit

/-- `[A-Z][A-Z0-9]*_?[A-Z0-9]+-\d+` -/
def keyPattern : Pattern Char :=
  .seq (.symbol Char.isUpper) (.seq (.many isProjectChar)
    (.seq (.optional (.symbol (· == '_'))) (.seq (.oneOrMore isProjectChar)
      (.seq (.symbol (· == '-')) (.oneOrMore isDecimal)))))

def jiraKeyRe : Pattern Char :=
  .delimited tables.isWord (keyPattern isDecimal)

def falsePositives : List String :=
  ["HTTP-200", "HTTP-201", "HTTP-400", "HTTP-401", "HTTP-403", "HTTP-404", "HTTP-422", "HTTP-500",
    "HTTP-503", "CSS-1", "CSS-2", "CSS-3", "API-1", "API-2", "RFC-7231", "RFC-6749", "ISO-8601",
    "UTF-8", "UTF-16", "SHA-256", "MD-5"]

def seeKey (seen : OrderedDict String Unit) (key : String) : OrderedDict String Unit :=
  if key ∉ falsePositives ∧ seen.contains key = false then seen.set key () else seen

def seenKeys (founds : List (Occurrence Char)) : OrderedDict String Unit :=
  founds.foldl (fun seen found => seeKey seen (String.ofList found.text)) ∅

def extractIssueKeys (text : String) : List String :=
  (seenKeys (scan (jiraKeyRe tables isDecimal) text.toList)).keys

end Keys

/-- An upper-case letter, upper-case letters and digits with at most one inner
underscore, at least two characters in all. -/
structure IsProject (project : List Char) : Prop where
  starts : ∃ first rest, project = first :: rest ∧ first.isUpper = true
  long : 2 ≤ project.length
  plain : ∀ char ∈ project, isProjectChar char = true ∨ char = '_'
  single : project.count '_' ≤ 1
  inner : project.getLast? ≠ some '_'

def IsIssueKey (key : List Char) : Prop :=
  ∃ project number, key = project ++ '-' :: number ∧ IsProject project ∧ number ≠ [] ∧
    ∀ char ∈ number, char.isDigit = true

def isAsciiWord (char : Char) : Bool := char.isAlphanum || char == '_'

/-- The key stands in the text with no word character on either side. -/
def StandsIn (text before key : List Char) : Prop :=
  ∃ after, text = before ++ key ++ after ∧ IsIssueKey key ∧
    before.getLast?.any isAsciiWord = false ∧ after.head?.any isAsciiWord = false

def StandsFirst (text : List Char) (first second : String) : Prop :=
  ∃ before, StandsIn text before first.toList ∧
    ∀ other, StandsIn text other second.toList → before.length < other.length

theorem project_char_plain
    (char : Char)
    (inClass : isProjectChar char = true) : char ≠ '_' ∧ char ≠ '-' := by
  constructor
  · rintro rfl
    exact absurd inClass (by decide)
  · rintro rfl
    exact absurd inClass (by decide)

theorem upper_is_project_char
    (char : Char)
    (isUpper : char.isUpper = true) : isProjectChar char = true := by
  rw [isProjectChar, isUpper, Bool.true_or]

theorem upper_is_word
    (char : Char)
    (isUpper : char.isUpper = true) : isAsciiWord char = true := by
  have isAlpha : char.isAlpha = (char.isUpper || char.isLower) := rfl
  simp [isAsciiWord, Char.isAlphanum, isAlpha, isUpper]

theorem digit_is_word
    (char : Char)
    (isDigit : char.isDigit = true) : isAsciiWord char = true := by
  simp [isAsciiWord, Char.isAlphanum, isDigit]

theorem digit_not_upper
    (char : Char)
    (isDigit : char.isDigit = true) : ¬ char.isUpper = true := by
  have isUpper : char.isUpper = decide (65 ≤ char.val ∧ char.val ≤ 90) := rfl
  rw [isUpper]
  simp only [Char.isDigit, Bool.and_eq_true, decide_eq_true_eq] at *
  rintro ⟨low, -⟩
  exact absurd (UInt32.le_trans low isDigit.2) (by decide)

theorem project_parts
    (project : List Char)
    (isProject : IsProject project) :
    ∃ first run line last, project = first :: (run ++ (line ++ last)) ∧
      first.isUpper = true ∧ (∀ char ∈ run, isProjectChar char = true) ∧
      (line = ['_'] ∨ line = []) ∧ last ≠ [] ∧ ∀ char ∈ last, isProjectChar char = true := by
  rcases isProject with ⟨⟨first, rest, rfl, isUpper⟩, long, plain, single, inner⟩
  have inClass (char : Char) (member : char ∈ first :: rest) (other : char ≠ '_') :
      isProjectChar char = true := (plain char member).resolve_right other
  by_cases lined : '_' ∈ rest
  · rcases List.append_of_mem lined with ⟨run, last, rfl⟩
    rw [← List.cons_append, List.count_append, List.count_cons_self] at single
    have runPlain : '_' ∉ run := by
      intro member
      have some := List.count_pos_iff.mpr (List.mem_cons_of_mem first member)
      omega
    have lastPlain : '_' ∉ last := by
      intro member
      have some := List.count_pos_iff.mpr member
      omega
    refine ⟨first, run, ['_'], last, rfl, isUpper, ?_, Or.inl rfl, ?_, ?_⟩
    · intro char member
      apply inClass char (List.mem_cons_of_mem _ (List.mem_append_left _ member))
      exact fun same => runPlain (same ▸ member)
    · rintro rfl
      rw [← List.cons_append] at inner
      exact inner List.getLast?_concat
    · intro char member
      apply inClass char (List.mem_cons_of_mem _ (List.mem_append_right _
        (List.mem_cons_of_mem _ member)))
      exact fun same => lastPlain (same ▸ member)
  · refine ⟨first, [], [], rest, rfl, isUpper, nofun, Or.inr rfl, ?_, ?_⟩
    · rintro rfl
      exact absurd long (Nat.not_succ_le_self 1)
    · intro char member
      apply inClass char (List.mem_cons_of_mem _ member)
      exact fun same => lined (same ▸ member)

theorem project_of_parts
    (first : Char)
    (run line last : List Char)
    (isUpper : first.isUpper = true)
    (runPlain : ∀ char ∈ run, isProjectChar char = true)
    (lineIs : line = ['_'] ∨ line = [])
    (nonempty : last ≠ [])
    (lastPlain : ∀ char ∈ last, isProjectChar char = true) :
    IsProject (first :: (run ++ (line ++ last))) := by
  have none (part : List Char) (inClass : ∀ char ∈ part, isProjectChar char = true) :
      part.count '_' = 0 := by
    rw [List.count_eq_zero]
    exact fun member => (project_char_plain _ (inClass _ member)).1 rfl
  have firstPlain := project_char_plain first (upper_is_project_char first isUpper)
  have lastLength := List.length_pos_of_ne_nil nonempty
  constructor
  · exact ⟨first, _, rfl, isUpper⟩
  · simp only [List.length_cons, List.length_append]
    omega
  · intro char member
    simp only [List.mem_cons, List.mem_append] at member
    rcases member with rfl | inRun | inLine | inLast
    · exact Or.inl (upper_is_project_char char isUpper)
    · exact Or.inl (runPlain char inRun)
    · rcases lineIs with rfl | rfl
      · exact Or.inr (List.mem_singleton.mp inLine)
      · cases inLine
    · exact Or.inl (lastPlain char inLast)
  · rw [List.count_cons_of_ne firstPlain.1, List.count_append, List.count_append,
      none run runPlain, none last lastPlain]
    rcases lineIs with rfl | rfl <;> decide
  · intro atEnd
    rw [← List.append_assoc, ← List.cons_append,
      List.getLast?_append_of_ne_nil _ nonempty] at atEnd
    exact (project_char_plain _ (lastPlain _ (List.mem_of_getLast? atEnd))).1 rfl

theorem is_project_iff
    (project : List Char) :
    IsProject project ↔ ∃ first run line last, project = first :: (run ++ (line ++ last)) ∧
      first.isUpper = true ∧ (∀ char ∈ run, isProjectChar char = true) ∧
      (line = ['_'] ∨ line = []) ∧ last ≠ [] ∧ ∀ char ∈ last, isProjectChar char = true := by
  constructor
  · exact project_parts project
  · rintro ⟨first, run, line, last, rfl, isUpper, runPlain, lineIs, nonempty, lastPlain⟩
    exact project_of_parts first run line last isUpper runPlain lineIs nonempty lastPlain

theorem fits_key_iff
    (isDecimal : Char → Bool)
    (before key after : List Char) :
    Fits (keyPattern isDecimal) before key after ↔
      ∃ project number, key = project ++ '-' :: number ∧ IsProject project ∧ number ≠ [] ∧
        ∀ char ∈ number, isDecimal char = true := by
  simp only [keyPattern, Fits, Pattern.oneOrMore, Pattern.optional, is_project_iff]
  constructor
  · rintro ⟨_, _, rfl, ⟨first, rfl, isUpper⟩, run, _, rfl, runPlain, line, _, rfl, lineIs,
      _, _, rfl, ⟨_, more, rfl, ⟨next, rfl, nextPlain⟩, morePlain⟩, _, _, rfl,
      ⟨dash, rfl, isDash⟩, _, digits, rfl, ⟨digit, rfl, isDigit⟩, areDigits⟩
    refine ⟨first :: (run ++ (line ++ next :: more)), digit :: digits, ?_,
      ⟨first, run, line, next :: more, rfl, isUpper, runPlain, ?_, List.cons_ne_nil _ _,
        List.forall_mem_cons.mpr ⟨nextPlain, morePlain⟩⟩, List.cons_ne_nil _ _,
      List.forall_mem_cons.mpr ⟨isDigit, areDigits⟩⟩
    · rw [beq_iff_eq.mp isDash]
      simp
    · rcases lineIs with ⟨char, rfl, isLine⟩ | rfl
      · exact Or.inl (by rw [beq_iff_eq.mp isLine])
      · exact Or.inr rfl
  · rintro ⟨project, number, rfl, ⟨first, run, line, last, rfl, isUpper, runPlain, lineIs,
      nonempty, lastPlain⟩, some, areDigits⟩
    rcases List.exists_cons_of_ne_nil nonempty with ⟨next, more, rfl⟩
    rcases List.exists_cons_of_ne_nil some with ⟨digit, digits, rfl⟩
    rw [List.forall_mem_cons] at lastPlain areDigits
    refine ⟨[first], _, ?_, ⟨first, rfl, isUpper⟩, run, _, rfl, runPlain, line, _, rfl, ?_,
      next :: more, _, rfl, ⟨[next], more, rfl, ⟨next, rfl, lastPlain.1⟩, lastPlain.2⟩, ['-'], _,
      rfl, ⟨'-', rfl, rfl⟩, [digit], digits, rfl, ⟨digit, rfl, areDigits.1⟩, areDigits.2⟩
    · simp
    · rcases lineIs with rfl | rfl
      · exact Or.inl ⟨'_', rfl, rfl⟩
      · exact Or.inr rfl

/-- What the classes are on ASCII. -/
structure AsciiClasses (tables : TextTables) (isDecimal : Char → Bool) : Prop where
  word : ∀ char : Char, char.toNat < 128 → tables.isWord char = isAsciiWord char
  decimal : ∀ char : Char, char.toNat < 128 → isDecimal char = char.isDigit

def IsAscii (text : List Char) : Prop := ∀ char ∈ text, char.toNat < 128

instance (text : List Char) : Decidable (IsAscii text) := List.decidableBAll _ text

section Ascii

variable {tables : TextTables} {isDecimal : Char → Bool} (classes : AsciiClasses tables isDecimal)

include classes

theorem any_word_ascii
    (char : Option Char)
    (ascii : ∀ own ∈ char, own.toNat < 128) :
    char.any tables.isWord = char.any isAsciiWord := by
  cases char with
  | none => rfl
  | some own => exact classes.word own (ascii own rfl)

theorem key_starts_word
    (project after : List Char)
    (isProject : IsProject project)
    (ascii : IsAscii project) : (project ++ after).head?.any tables.isWord = true := by
  rcases isProject.starts with ⟨first, rest, rfl, isUpper⟩
  have word := classes.word first (ascii first List.mem_cons_self)
  exact word.trans (upper_is_word first isUpper)

theorem key_ends_word
    (before number : List Char)
    (some : number ≠ [])
    (digits : ∀ char ∈ number, char.isDigit = true)
    (ascii : IsAscii number) : (before ++ number).getLast?.any tables.isWord = true := by
  rw [List.getLast?_append_of_ne_nil _ some]
  cases last : number.getLast? with
  | none => exact absurd (List.getLast?_eq_none_iff.mp last) some
  | some own =>
      have member := List.mem_of_getLast? last
      have word := classes.word own (ascii own member)
      exact word.trans (digit_is_word own (digits own member))

theorem occurs_iff
    (whole before text : List Char)
    (ascii : IsAscii whole) :
    Occurs (jiraKeyRe tables isDecimal) whole before text ↔ StandsIn whole before text := by
  unfold Occurs StandsIn
  apply exists_congr
  intro after
  apply and_congr_right
  rintro rfl
  have asciiPart (part : List Char) (within : part ⊆ before ++ text ++ after) : IsAscii part :=
    fun char member => ascii char (within member)
  have beforeAscii := asciiPart before (List.subset_append_of_subset_left _
    (List.subset_append_left _ _))
  have textAscii := asciiPart text (List.subset_append_of_subset_left _
    (List.subset_append_right _ _))
  have afterAscii := asciiPart after (List.subset_append_right _ _)
  have isKey : Fits (keyPattern isDecimal) before text after ↔ IsIssueKey text := by
    rw [fits_key_iff]
    unfold IsIssueKey
    apply exists_congr
    intro project
    apply exists_congr
    intro number
    apply and_congr_right
    rintro rfl
    have digits : (∀ char ∈ number, isDecimal char = true) ↔
        ∀ char ∈ number, char.isDigit = true := by
      apply forall₂_congr
      intro char member
      rw [classes.decimal char (textAscii char (List.mem_append_right _
        (List.mem_cons_of_mem _ member)))]
    rw [digits]
  rw [jiraKeyRe, fits_delimited_iff, isKey]
  apply and_congr_right
  rintro ⟨project, number, rfl, isProject, some, digits⟩
  have starts := key_starts_word classes project ('-' :: number ++ after) isProject fun char member =>
    textAscii char (List.mem_append_left _ member)
  rw [← List.append_assoc] at starts
  have ends := key_ends_word classes (before ++ project ++ ['-']) number some digits
    fun char member => textAscii char (List.mem_append_right _ (List.mem_cons_of_mem _ member))
  have shape : before ++ project ++ ['-'] ++ number = before ++ (project ++ '-' :: number) := by
    simp
  rw [shape] at ends
  rw [boundary_before_word _ _ _ starts, boundary_after_word _ _ _ ends,
    any_word_ascii classes, any_word_ascii classes]
  · exact fun own held => afterAscii own (List.mem_of_head? held)
  · exact fun own held => beforeAscii own (List.mem_of_getLast? held)

end Ascii

theorem project_char_of_key
    (char : Char)
    (plain : isProjectChar char = true ∨ char = '_') :
    (char != '-') = true ∧ isAsciiWord char = true := by
  constructor
  · rw [bne_iff_ne]
    rcases plain with inClass | rfl
    · exact (project_char_plain char inClass).2
    · decide
  · rcases plain with inClass | rfl
    · rw [isProjectChar, Bool.or_eq_true] at inClass
      rcases inClass with isUpper | isDigit
      · exact upper_is_word char isUpper
      · exact digit_is_word char isDigit
    · decide

theorem digit_stops
    (after : List Char)
    (noWord : after.head?.any isAsciiWord = false) : after.head?.any Char.isDigit = false := by
  cases after with
  | nil => rfl
  | cons char rest =>
      rw [List.head?_cons, Option.any_some, ← Bool.not_eq_true] at *
      exact fun isDigit => noWord (digit_is_word char isDigit)

theorem key_determined
    (whole before first second : List Char)
    (stands : StandsIn whole before first)
    (other : StandsIn whole before second) : first = second := by
  rcases stands with ⟨after, split, ⟨project, number, rfl, isProject, -, digits⟩, -, behind⟩
  rcases other with ⟨afterOther, splitOther, ⟨projectOther, numberOther, rfl, isProjectOther, -,
    digitsOther⟩, -, behindOther⟩
  rw [split] at splitOther
  simp only [List.append_assoc, List.append_cancel_left_eq, List.cons_append] at splitOther
  have sameProject : project = projectOther := by
    apply run_determined (· != '-') _ _ _ _ splitOther
    · exact fun char member => (project_char_of_key char (isProject.plain char member)).1
    · exact fun char member => (project_char_of_key char (isProjectOther.plain char member)).1
    · rfl
    · rfl
  rw [sameProject, List.append_cancel_left_eq, List.cons.injEq] at splitOther
  have sameNumber : number = numberOther :=
    run_determined Char.isDigit _ _ _ _ splitOther.2 digits digitsOther (digit_stops _ behind)
      (digit_stops _ behindOther)
  rw [sameProject, sameNumber]

/-- No key starts within another: behind its only character that is no word
character there are digits only. -/
theorem key_disjoint
    (whole before start : List Char)
    (symbol : Char)
    (rest other : List Char)
    (stands : StandsIn whole before (start ++ symbol :: rest))
    (within : StandsIn whole (before ++ start) other) : start = [] := by
  rcases stands with ⟨after, split, ⟨project, number, key, isProject, -, digits⟩, -, -⟩
  rcases within with
    ⟨afterOther, splitOther, ⟨projectOther, numberOther, rfl, isProjectOther, -, -⟩, ahead, -⟩
  rcases isProjectOther.starts with ⟨first, more, rfl, isUpper⟩
  cases last : start.getLast? with
  | none => exact List.getLast?_eq_none_iff.mp last
  | some own =>
      exfalso
      rcases List.getLast?_eq_some_iff.mp last with ⟨init, rfl⟩
      have notWord : isAsciiWord own = false := by
        rw [List.getLast?_append, last] at ahead
        exact ahead
      have dashFree : '-' ∉ project ∧ '-' ∉ number := by
        constructor
        · intro member
          exact absurd (project_char_of_key _ (isProject.plain _ member)).1 (by decide)
        · intro member
          exact absurd (digits _ member) (by decide)
      have isDash : own = '-' := by
        have member : own ∈ project ++ '-' :: number := by
          rw [← key]
          simp
        rw [List.mem_append, List.mem_cons] at member
        rcases member with inProject | isDash | inNumber
        · rw [(project_char_of_key own (isProject.plain own inProject)).2] at notWord
          cases notWord
        · exact isDash
        · rw [digit_is_word own (digits own inNumber)] at notWord
          cases notWord
      rw [isDash, List.append_assoc, List.singleton_append] at key
      have sameNumber := ((List.append_cons_inj_of_notMem dashFree.1 dashFree.2).mp key.symm).2.2
      rw [split] at splitOther
      simp only [List.append_assoc, List.append_cancel_left_eq, List.cons_append,
        List.nil_append, List.cons.injEq, true_and] at splitOther
      have isDigit : symbol.isDigit = true := by
        apply digits
        rw [sameNumber]
        exact List.mem_cons_self
      rw [splitOther.1] at isDigit
      exact digit_not_upper first isDigit isUpper

theorem keys_apart
    {tables : TextTables}
    {isDecimal : Char → Bool}
    (classes : AsciiClasses tables isDecimal)
    (whole : List Char)
    (ascii : IsAscii whole) : Apart (jiraKeyRe tables isDecimal) whole := by
  have stands (before text : List Char) := occurs_iff classes whole before text ascii
  constructor
  · intro before text occurs
    rcases (stands before text).mp occurs with ⟨-, -, ⟨project, number, rfl, -⟩, -⟩
    exact List.append_ne_nil_of_right_ne_nil _ (List.cons_ne_nil _ _)
  · intro before text other occurs otherOccurs
    exact key_determined whole before text other ((stands _ _).mp occurs)
      ((stands _ _).mp otherOccurs)
  · intro before start symbol rest other occurs otherOccurs
    exact key_disjoint whole before start symbol rest other ((stands _ _).mp occurs)
      ((stands _ _).mp otherOccurs)

theorem see_key_keys
    (seen : OrderedDict String Unit)
    (key : String) :
    (seeKey seen key).keys =
      if key ∉ falsePositives ∧ key ∉ seen.keys then seen.keys ++ [key] else seen.keys := by
  have contained : seen.contains key = false ↔ key ∉ seen.keys := by
    rw [OrderedDict.contains, ← Bool.not_eq_true, Option.isSome_iff_exists,
      OrderedDict.mem_keys_iff]
  simp only [seeKey, contained]
  split_ifs with new
  · exact (OrderedDict.keys_assign key () seen.entries).trans (if_neg new.2)
  · rfl

theorem seen_keys_snoc
    (founds : List (Occurrence Char))
    (last : Occurrence Char) :
    seenKeys (founds ++ [last]) = seeKey (seenKeys founds) (String.ofList last.text) := by
  rw [seenKeys, List.foldl_append, List.foldl_cons, List.foldl_nil, ← seenKeys]

theorem mem_seen_keys
    (founds : List (Occurrence Char))
    (key : String) :
    key ∈ (seenKeys founds).keys ↔
      (∃ found ∈ founds, found.text = key.toList) ∧ key ∉ falsePositives := by
  induction founds using List.reverseRecOn with
  | nil => simp [seenKeys, OrderedDict.keys, EmptyCollection.emptyCollection]
  | append_singleton founds last ih =>
      have split : (∃ found ∈ founds ++ [last], found.text = key.toList) ↔
          (∃ found ∈ founds, found.text = key.toList) ∨ key = String.ofList last.text := by
        rw [← String.toList_inj, String.toList_ofList, eq_comm]
        simp only [List.mem_append, List.mem_singleton, or_and_right, exists_or, exists_eq_left]
      rw [seen_keys_snoc, see_key_keys, split]
      split_ifs with new
      · rw [List.mem_append, List.mem_singleton, ih]
        constructor
        · rintro (earlier | rfl)
          · exact ⟨Or.inl earlier.1, earlier.2⟩
          · exact ⟨Or.inr rfl, new.1⟩
        · rintro ⟨earlier | same, allowed⟩
          · exact Or.inl ⟨earlier, allowed⟩
          · exact Or.inr same
      · rw [ih]
        constructor
        · rintro ⟨earlier, allowed⟩
          exact ⟨Or.inl earlier, allowed⟩
        · rintro ⟨earlier | rfl, allowed⟩
          · exact ⟨earlier, allowed⟩
          · rw [not_and, not_not] at new
            exact ih.mp (new allowed)

theorem seen_keys_ordered
    (founds : List (Occurrence Char))
    (ordered : founds.Pairwise fun first second => first.before.length < second.before.length) :
    (seenKeys founds).keys.Pairwise fun first second =>
      ∃ found ∈ founds, found.text = first.toList ∧
        ∀ other ∈ founds, other.text = second.toList →
          found.before.length < other.before.length := by
  induction founds using List.reverseRecOn with
  | nil => exact List.Pairwise.nil
  | append_singleton founds last ih =>
      rw [List.pairwise_append] at ordered
      rcases ordered with ⟨ordered, -, earlier⟩
      have before (found : Occurrence Char) (member : found ∈ founds) :
          found.before.length < last.before.length :=
        earlier found member last (List.mem_singleton.mpr rfl)
      have kept : (seenKeys founds).keys.Pairwise fun first second =>
          ∃ found ∈ founds ++ [last], found.text = first.toList ∧
            ∀ other ∈ founds ++ [last], other.text = second.toList →
              found.before.length < other.before.length := by
        apply (ih ordered).imp
        rintro first second ⟨found, member, text, all⟩
        refine ⟨found, List.mem_append_left _ member, text, ?_⟩
        intro other otherMember otherText
        rcases List.mem_append.mp otherMember with inFounds | isLast
        · exact all other inFounds otherText
        · rw [List.mem_singleton.mp isLast]
          exact before found member
      rw [seen_keys_snoc, see_key_keys]
      split_ifs with new
      · rw [List.pairwise_append]
        refine ⟨kept, List.pairwise_singleton _ _, ?_⟩
        intro first firstSeen second isLast
        rcases ((mem_seen_keys founds first).mp firstSeen).1 with ⟨found, member, text⟩
        refine ⟨found, List.mem_append_left _ member, text, ?_⟩
        intro other otherMember otherText
        rcases List.mem_append.mp otherMember with inFounds | otherLast
        · rw [List.mem_singleton.mp isLast] at otherText
          exact absurd ((mem_seen_keys founds _).mpr ⟨⟨other, inFounds, otherText⟩, new.1⟩) new.2
        · rw [List.mem_singleton.mp otherLast]
          exact before found member
      · exact kept

/-- The keys are those that stand in the text and are no false positives, each
once, in the order of their first places. -/
theorem extract_issue_keys_exact
    (tables : TextTables)
    (isDecimal : Char → Bool)
    (classes : AsciiClasses tables isDecimal)
    (text : String)
    (ascii : IsAscii text.toList) :
    (extractIssueKeys tables isDecimal text).Nodup ∧
      (∀ key, key ∈ extractIssueKeys tables isDecimal text ↔
        (∃ before, StandsIn text.toList before key.toList) ∧ key ∉ falsePositives) ∧
      (extractIssueKeys tables isDecimal text).Pairwise (StandsFirst text.toList) := by
  have apart := keys_apart classes text.toList ascii
  have found (occurrence : Occurrence Char) :
      occurrence ∈ scan (jiraKeyRe tables isDecimal) text.toList ↔
        StandsIn text.toList occurrence.before occurrence.text := by
    rw [mem_scan _ _ apart, occurs_iff classes _ _ _ ascii]
  have ordered := (scan_from_ordered (jiraKeyRe tables isDecimal) 0 [] text.toList).2
  refine ⟨(seenKeys _).distinct, ?_, ?_⟩
  · intro key
    rw [extractIssueKeys, mem_seen_keys]
    apply and_congr_left
    intro _
    constructor
    · rintro ⟨occurrence, member, same⟩
      exact ⟨occurrence.before, same ▸ (found occurrence).mp member⟩
    · rintro ⟨before, stands⟩
      exact ⟨⟨before, key.toList⟩, (found ⟨before, key.toList⟩).mpr stands, rfl⟩
  · apply (seen_keys_ordered _ ordered).imp
    rintro first second ⟨occurrence, member, same, all⟩
    refine ⟨occurrence.before, same ▸ (found occurrence).mp member, ?_⟩
    intro other stands
    exact all ⟨other, second.toList⟩ ((found ⟨other, second.toList⟩).mpr stands) rfl

/-- A key that is repeated, a false positive and a key that is part of a word. -/
theorem release_keys_extracted :
    extractIssueKeys asciiTables Char.isDigit "UTF-8 AB_C1-12,AB_C1-12 xY-3 Z9-4" =
        ["AB_C1-12", "Z9-4"] ∧
      (extractIssueKeys asciiTables Char.isDigit "UTF-8 AB_C1-12,AB_C1-12 xY-3 Z9-4").Pairwise
        (StandsFirst "UTF-8 AB_C1-12,AB_C1-12 xY-3 Z9-4".toList) := by
  constructor
  · decide +kernel
  · exact (extract_issue_keys_exact asciiTables Char.isDigit
      ⟨fun _ _ => rfl, fun _ _ => rfl⟩ _ (by decide +kernel)).2.2

end AtlasMindNetra.IssueKeyParser
