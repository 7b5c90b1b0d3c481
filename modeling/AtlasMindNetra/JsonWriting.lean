import AtlasMindNetra.JsonTexts

/-!
# Writing JSON documents

Writers differ in how they escape a character and in the white space between
tokens. Whatever such a writer makes of a document, the decoder reads it back,
as long as the document keeps to the limits of the decoder.
-/

namespace AtlasMindNetra.JsonWriting

open AtlasMindNetra.JsonTrees AtlasMindNetra.JsonTexts

set_option autoImplicit false

/-- A way of writing: every escape spells its character, and white space is all
that stands between tokens. -/
structure Style where
  spell : Char → List Char
  /-- ahead of an item at the given depth, and ahead of the end of what is open there -/
  breakAt : Nat → List Char
  behindComma : List Char
  behindColon : List Char
  floatText : Rat → List Char
  spells : ∀ char text meant, Spells text meant → Spells (spell char ++ text) (char :: meant)
  breakBlank : ∀ depth, Blank (breakAt depth)
  commaBlank : Blank behindComma
  colonBlank : Blank behindColon

section Writer

variable (style : Style)

def writeQuoted (text : String) : List Char :=
  '"' :: (text.toList.flatMap style.spell ++ ['"'])

mutual

def write : Nat → Json → List Char
  | _, .null => "null".toList
  | _, .bool value => if value then "true".toList else "false".toList
  | _, .int value => (toString value).toList
  | _, .float value => style.floatText value
  | _, .str text => writeQuoted style text
  | _, .arr [] => ['[', ']']
  | depth, .arr (item :: rest) =>
      '[' :: (style.breakAt (depth + 1) ++ (write (depth + 1) item ++
        (writeItems (depth + 1) rest ++ (style.breakAt depth ++ [']']))))
  | _, .obj [] => ['{', '}']
  | depth, .obj ((key, value) :: rest) =>
      '{' :: (style.breakAt (depth + 1) ++ (writeQuoted style key ++ ':' :: (style.behindColon ++
        (write (depth + 1) value ++
          (writeFields (depth + 1) rest ++ (style.breakAt depth ++ ['}']))))))

def writeItems : Nat → List Json → List Char
  | _, [] => []
  | depth, item :: rest =>
      ',' :: (style.behindComma ++ style.breakAt depth ++ (write depth item ++
        writeItems depth rest))

def writeFields : Nat → List (String × Json) → List Char
  | _, [] => []
  | depth, (key, value) :: rest =>
      ',' :: (style.behindComma ++ style.breakAt depth ++ (writeQuoted style key ++
        ':' :: (style.behindColon ++ (write depth value ++ writeFields depth rest))))

end

def writeDocument (document : Json) : String := String.ofList (write style 0 document)

theorem spells_text (text : List Char) : Spells (text.flatMap style.spell) text := by
  induction text with
  | nil => exact Spells.nil
  | cons char rest ih =>
      rw [List.flatMap_cons]
      exact style.spells char _ _ ih

end Writer

/-- A number that the decoder takes for the value, once something else follows. -/
structure Numeral (tables : Tables) (text : List Char) (value : Json) : Prop where
  starts : ∃ first rest, text = first :: rest ∧ (first = '-' ∨ first.isDigit = true)
  each : ∀ char ∈ text, isNumberChar char = true
  read : readNumber tables text = .ok value

theorem nat_of_decimal (number : Nat) : natOf (Nat.toDigits 10 number) = number := by
  have same : natOf (Nat.toDigits 10 number) = Nat.ofDigitChars 10 (Nat.toDigits 10 number) 0 := by
    rw [Nat.ofDigitChars_eq_foldl]
    rfl
  rw [same]
  exact Nat.ofDigitChars_ten_toDigits

theorem decimal_digit
    (number : Nat)
    (char : Char)
    (member : char ∈ Nat.toDigits 10 number) : char.isDigit = true :=
  Nat.isDigit_of_mem_toDigits (by decide) (by decide) member

theorem decimal_head
    (number : Nat)
    (zero : (Nat.toDigits 10 number).head? = some '0') : Nat.toDigits 10 number = ['0'] := by
  induction number using Nat.strong_induction_on with
  | _ number ih =>
      by_cases small : number < 10
      · rw [Nat.toDigits_of_lt_base small] at zero ⊢
        rw [List.head?_cons, Option.some.injEq] at zero
        rw [zero]
      · have longer := Nat.toDigits_of_base_le (by decide) (Nat.le_of_not_lt small)
        have less : number / 10 < number := by omega
        rw [longer] at zero
        have shorter : Nat.toDigits 10 (number / 10) = ['0'] := by
          apply ih _ less
          cases digits : Nat.toDigits 10 (number / 10) with
          | nil => exact absurd digits Nat.toDigits_ne_nil
          | cons first rest =>
              rw [digits] at zero
              exact zero
        have value := nat_of_decimal (number / 10)
        rw [shorter] at value
        have none : natOf ['0'] = 0 := rfl
        omega

theorem digits_at_end
    (digits rest : List Char)
    (each : ∀ char ∈ digits, char.isDigit = true)
    (ends : ∀ char, rest.head? = some char → char.isDigit = false) :
    digitsAt (digits ++ rest) = digits := by
  unfold digitsAt
  induction digits with
  | nil =>
      cases rest with
      | nil => rfl
      | cons char others =>
          have stops := ends char rfl
          rw [List.nil_append, List.takeWhile_cons, stops]
          rfl
  | cons first others ih =>
      rw [List.forall_mem_cons] at each
      rw [List.cons_append, List.takeWhile_cons, if_pos each.1, ih each.2]

def signed (negative : Bool) (digits : List Char) : List Char :=
  if negative then '-' :: digits else digits

theorem int_text (value : Int) :
    (toString value).toList = signed (decide (value < 0)) (Nat.toDigits 10 value.natAbs) := by
  rw [Int.toString_eq_repr, Int.repr_eq_if]
  by_cases negative : value < 0
  · have magnitude : (-value).toNat = value.natAbs := by omega
    rw [if_neg (by omega), decide_eq_true negative, magnitude, String.toList_append,
      Nat.toList_repr]
    rfl
  · have magnitude : value.toNat = value.natAbs := by omega
    rw [if_pos (by omega), decide_eq_false negative, magnitude, Nat.toList_repr]
    rfl

theorem signed_head
    (negative : Bool)
    (number : Nat)
    (rest : List Char) :
    ((signed negative (Nat.toDigits 10 number) ++ rest).head? == some '-') = negative := by
  cases negative with
  | true => rfl
  | false =>
      change ((Nat.toDigits 10 number ++ rest).head? == some '-') = false
      cases digits : Nat.toDigits 10 number with
      | nil => exact absurd digits Nat.toDigits_ne_nil
      | cons first others =>
          have digit := decimal_digit number first (by rw [digits]; exact List.mem_cons_self)
          have other : first ≠ '-' := by
            intro minus
            rw [minus] at digit
            exact absurd digit (by decide)
          simpa using other

theorem decimal_numeral
    (negative : Bool)
    (number : Nat)
    (rest : List Char)
    (ends : ∀ char, rest.head? = some char → char.isDigit = false) :
    numeralAt (signed negative (Nat.toDigits 10 number) ++ rest) =
      { negative := negative
        whole := Nat.toDigits 10 number
        fraction := fractionAt rest
        exponent := exponentAt (rest.drop (fractionAt rest).length)
        rest := (rest.drop (fractionAt rest).length).drop
          (exponentAt (rest.drop (fractionAt rest).length)).length } := by
  have all := digits_at_end _ rest (decimal_digit number) ends
  have whole : (if (Nat.toDigits 10 number).head? = some '0' then ['0']
      else Nat.toDigits 10 number) = Nat.toDigits 10 number := by
    split_ifs with zero
    · exact (decimal_head number zero).symm
    · rfl
  have body : (if negative then (signed negative (Nat.toDigits 10 number) ++ rest).drop 1
      else signed negative (Nat.toDigits 10 number) ++ rest) = Nat.toDigits 10 number ++ rest := by
    cases negative <;> rfl
  have behind : (Nat.toDigits 10 number ++ rest).drop
      ((Nat.toDigits 10 number).length + (fractionAt rest).length) =
      rest.drop (fractionAt rest).length := by
    rw [← List.drop_drop, List.drop_left]
  simp only [numeralAt, signed_head, body, all, whole, List.drop_left, behind]

theorem int_text_number (value : Int) :
    (∃ first rest, (toString value).toList = first :: rest ∧
      (first = '-' ∨ first.isDigit = true)) ∧
      ∀ char ∈ (toString value).toList, isNumberChar char = true := by
  have digits : ∀ char ∈ Nat.toDigits 10 value.natAbs, isNumberChar char = true := by
    intro char member
    unfold isNumberChar
    rw [decimal_digit _ char member, Bool.true_or]
  rw [int_text]
  cases decide (value < 0) with
  | true =>
      refine ⟨⟨'-', _, rfl, Or.inl rfl⟩, ?_⟩
      intro char member
      rcases List.mem_cons.mp member with rfl | digit
      · rfl
      · exact digits char digit
  | false =>
      refine ⟨?_, digits⟩
      cases written : Nat.toDigits 10 value.natAbs with
      | nil => exact absurd written Nat.toDigits_ne_nil
      | cons first rest =>
          refine ⟨first, rest, rfl, Or.inr ?_⟩
          exact decimal_digit value.natAbs first (by rw [written]; exact List.mem_cons_self)

theorem int_numeral
    (tables : Tables)
    (value : Int)
    (short : (Nat.toDigits 10 value.natAbs).length ≤ tables.maxDigits) :
    Numeral tables (toString value).toList (.int value) := by
  have number := int_text_number value
  constructor
  · exact number.1
  · exact number.2
  · have numeral := decimal_numeral (decide (value < 0)) value.natAbs [] nofun
    have fits : ¬ tables.maxDigits < (Nat.toDigits 10 value.natAbs).length := by omega
    have same : (if decide (value < 0) then -(value.natAbs : Int) else value.natAbs) = value := by
      simp only [decide_eq_true_eq]
      split_ifs <;> omega
    rw [List.append_nil, ← int_text] at numeral
    simp only [readNumber, numeral, fractionAt, exponentAt, List.drop_nil,
      if_neg Nat.toDigits_ne_nil, and_self, if_true, if_neg fits, ne_eq, not_true_eq_false,
      if_false, nat_of_decimal, same]

/-- How a float that is a whole number below `10 ^ 16` is written and read. -/
def WritesWhole (tables : Tables) (floatText : Rat → List Char) : Prop :=
  ∀ number : Int, number.natAbs < 10000000000000000 →
    floatText number = (toString number).toList ++ ['.', '0'] ∧
      tables.readFloat ((toString number).toList ++ ['.', '0']) = .float number

theorem whole_numeral
    (tables : Tables)
    (floatText : Rat → List Char)
    (writes : WritesWhole tables floatText)
    (value : Int)
    (bound : value.natAbs < 10000000000000000) :
    Numeral tables (floatText value) (.float value) := by
  rcases writes value bound with ⟨written, read⟩
  rcases int_text_number value with ⟨⟨first, rest, text, starts⟩, each⟩
  rw [written]
  constructor
  · exact ⟨first, rest ++ ['.', '0'], by rw [text]; rfl, starts⟩
  · intro char member
    rcases List.mem_append.mp member with digit | point
    · exact each char digit
    · have decimals : ['.', '0'].all isNumberChar = true := rfl
      exact List.all_eq_true.mp decimals char point
  · have numeral := decimal_numeral (decide (value < 0)) value.natAbs ['.', '0'] (by
      intro char point
      rw [List.head?_cons, Option.some.injEq] at point
      rw [← point]
      rfl)
    have point : fractionAt ['.', '0'] = ['.', '0'] := rfl
    rw [← int_text] at numeral
    simp only [readNumber, numeral, point, List.length_cons, List.length_nil, Nat.zero_add,
      Nat.reduceAdd, List.drop_succ_cons, List.drop_zero, exponentAt, if_neg Nat.toDigits_ne_nil,
      reduceCtorEq, false_and, if_false, ne_eq, not_true_eq_false, read]

section Reading

variable (tables : Tables)

/-- A text that is read as the value, wherever a value may stand and `room` more
arrays and objects may be opened. A number is only complete with what follows. -/
inductive Reads (room : Nat) (text : List Char) (value : Json) : Prop where
  | number (numeral : Numeral tables text value)
  | closed (delivers : ∀ frames mode, AwaitsItem mode → frames.length + room ≤ tables.maxDepth →
      text.foldl (step tables) ⟨frames, mode⟩ = deliver frames value)

variable {tables}

theorem awaiting_starts
    (frames : List Frame)
    (mode : Mode)
    (awaits : AwaitsItem mode)
    (char : Char)
    (printed : isBlank char = false)
    (inside : char ≠ ']') :
    step tables ⟨frames, mode⟩ char = startValue tables frames char := by
  rcases awaits with rfl | rfl
  · simp only [step, printed, Bool.false_eq_true, if_false]
  · simp only [step, printed, Bool.false_eq_true, if_false, inside]

theorem number_starts
    (frames : List Frame)
    (mode : Mode)
    (awaits : AwaitsItem mode)
    (first : Char)
    (starts : first = '-' ∨ first.isDigit = true) :
    step tables ⟨frames, mode⟩ first = ⟨frames, .number [first]⟩ := by
  have apart (other : Char) (noSign : other ≠ '-') (noDigit : other.isDigit = false) :
      first ≠ other := by
    rintro rfl
    rcases starts with sign | digit
    · exact noSign sign
    · rw [noDigit] at digit
      cases digit
  have printed : isBlank first = false := by
    simp only [isBlank, Bool.or_eq_false_iff, beq_eq_false_iff_ne]
    exact ⟨⟨⟨apart ' ' (by decide) rfl, apart '\t' (by decide) rfl⟩, apart '\n' (by decide) rfl⟩,
      apart '\r' (by decide) rfl⟩
  rw [awaiting_starts frames mode awaits first printed (apart ']' (by decide) rfl)]
  unfold startValue
  rw [if_neg (apart '"' (by decide) rfl), if_neg (apart '[' (by decide) rfl),
    if_neg (apart '{' (by decide) rfl), if_neg (apart 'n' (by decide) rfl),
    if_neg (apart 't' (by decide) rfl), if_neg (apart 'f' (by decide) rfl),
    if_neg (apart 'N' (by decide) rfl), if_neg (apart 'I' (by decide) rfl), if_pos starts]

theorem number_goes_on
    (frames : List Frame)
    (read text : List Char)
    (each : ∀ char ∈ text, isNumberChar char = true) :
    text.foldl (step tables) ⟨frames, .number read⟩ = ⟨frames, .number (read ++ text)⟩ := by
  induction text generalizing read with
  | nil => rw [List.foldl_nil, List.append_nil]
  | cons char rest ih =>
      rw [List.forall_mem_cons] at each
      have taken : step tables ⟨frames, .number read⟩ char =
          ⟨frames, .number (read ++ [char])⟩ := if_pos each.1
      rw [List.foldl_cons, taken, ih _ each.2, List.append_assoc, List.singleton_append]

theorem numeral_taken
    (frames : List Frame)
    (mode : Mode)
    (awaits : AwaitsItem mode)
    (text : List Char)
    (value : Json)
    (numeral : Numeral tables text value) :
    text.foldl (step tables) ⟨frames, mode⟩ = ⟨frames, .number text⟩ := by
  rcases numeral.starts with ⟨first, rest, rfl, starts⟩
  have each := (List.forall_mem_cons.mp numeral.each).2
  rw [List.foldl_cons, number_starts frames mode awaits first starts,
    number_goes_on frames [first] rest each, List.singleton_append]

theorem number_ends
    (frame : Frame)
    (frames : List Frame)
    (text : List Char)
    (value : Json)
    (numeral : Numeral tables text value)
    (char : Char)
    (ends : isNumberChar char = false) :
    step tables ⟨frame :: frames, .number text⟩ char =
      step tables (deliver (frame :: frames) value) char := by
  have noSign : ¬ (text = ['-'] ∧ char = 'I') := by
    rintro ⟨rfl, _⟩
    have read := numeral.read
    cases read
  have ended : step tables ⟨frame :: frames, .number text⟩ char =
      endNumber tables (frame :: frames) text char := by
    simp only [step, ends, Bool.false_eq_true, if_false, noSign]
  rw [ended, endNumber, numeral.read]
  cases frame <;> rfl

theorem reads_then
    (room : Nat)
    (text : List Char)
    (value : Json)
    (reads : Reads tables room text value)
    (frame : Frame)
    (frames : List Frame)
    (mode : Mode)
    (awaits : AwaitsItem mode)
    (fits : (frame :: frames).length + room ≤ tables.maxDepth)
    (char : Char)
    (ends : isNumberChar char = false)
    (rest : List Char) :
    (text ++ char :: rest).foldl (step tables) ⟨frame :: frames, mode⟩ =
      (char :: rest).foldl (step tables) (deliver (frame :: frames) value) := by
  rw [List.foldl_append]
  cases reads with
  | number numeral =>
      rw [numeral_taken _ mode awaits text value numeral, List.foldl_cons, List.foldl_cons,
        number_ends frame frames text value numeral char ends]
  | closed delivers => rw [delivers _ mode awaits fits]

theorem reads_document
    (room : Nat)
    (text : List Char)
    (value : Json)
    (reads : Reads tables room text value)
    (fits : room ≤ tables.maxDepth) : decode tables text = .ok value := by
  have awaits : AwaitsItem .value := Or.inl rfl
  unfold decode
  cases reads with
  | number numeral =>
      rw [numeral_taken [] _ awaits text value numeral]
      simp only [finish, numeral.read, List.isEmpty_nil, if_true]
  | closed delivers =>
      rw [delivers [] _ awaits (by simpa using fits)]
      rfl

variable (style : Style)

theorem quoted_read
    (frames : List Frame)
    (mode : Mode)
    (isKey : Bool)
    (text : String)
    (opens : step tables ⟨frames, mode⟩ '"' = ⟨frames, .text isKey [] .plain⟩) :
    (writeQuoted style text).foldl (step tables) ⟨frames, mode⟩ =
      closeText frames isKey text.toList := by
  have closes : step tables ⟨frames, .text isKey text.toList .plain⟩ '"' =
      closeText frames isKey text.toList := by
    simp only [step, textStep, plainStep, if_true]
  rw [writeQuoted, List.foldl_cons, opens, List.foldl_append,
    spelled_read tables frames isKey [] _ _ (spells_text style text.toList), List.nil_append,
    List.foldl_cons, closes, List.foldl_nil]

theorem text_reads
    (room : Nat)
    (text : String) : Reads tables room (writeQuoted style text) (.str text) := by
  apply Reads.closed
  intro frames mode awaits _
  have opens : step tables ⟨frames, mode⟩ '"' = ⟨frames, .text false [] .plain⟩ :=
    awaiting_starts frames mode awaits '"' rfl (by decide)
  have closes : closeText frames false text.toList =
      deliver frames (.str (String.ofList text.toList)) := if_neg Bool.false_ne_true
  rw [quoted_read style frames mode false text opens, closes, String.ofList_toList]

theorem word_reads
    (room : Nat)
    (first second : Char)
    (rest : List Char)
    (value : Json)
    (printed : isBlank first = false)
    (inside : first ≠ ']')
    (starts : ∀ frames, startValue tables frames first = ⟨frames, .word (second :: rest) value⟩) :
    Reads tables room (first :: second :: rest) value := by
  apply Reads.closed
  intro frames mode awaits _
  rw [List.foldl_cons, awaiting_starts frames mode awaits first printed inside, starts]
  clear starts
  induction rest generalizing second with
  | nil => simp only [List.foldl_cons, List.foldl_nil, step, ne_eq, not_true_eq_false, if_false,
      if_true]
  | cons third rest ih =>
      have taken : step tables ⟨frames, .word (second :: third :: rest) value⟩ second =
          ⟨frames, .word (third :: rest) value⟩ := by
        simp only [step, ne_eq, not_true_eq_false, if_false, reduceCtorEq]
      rw [List.foldl_cons, taken, ih]

theorem blank_ends
    (char : Char)
    (blank : isBlank char = true) : isNumberChar char = false := by
  simp only [isBlank, Bool.or_eq_true, beq_iff_eq] at blank
  rcases blank with ((rfl | rfl) | rfl) | rfl <;> rfl

theorem break_ends
    (text : List Char)
    (blank : Blank text)
    (close : Char)
    (ends : isNumberChar close = false)
    (rest : List Char) :
    ∃ char tail, text ++ close :: rest = char :: tail ∧ isNumberChar char = false := by
  cases text with
  | nil => exact ⟨close, rest, rfl, ends⟩
  | cons first others =>
      exact ⟨first, _, rfl, blank_ends first (List.forall_mem_cons.mp blank).1⟩

theorem items_end
    (depth : Nat)
    (items : List Json)
    (behind : List Char)
    (ends : ∃ char tail, behind = char :: tail ∧ isNumberChar char = false) :
    ∃ char tail, writeItems style depth items ++ behind = char :: tail ∧
      isNumberChar char = false := by
  cases items with
  | nil => exact ends
  | cons item rest => exact ⟨',', _, rfl, rfl⟩

theorem fields_end
    (depth : Nat)
    (fields : List (String × Json))
    (behind : List Char)
    (ends : ∃ char tail, behind = char :: tail ∧ isNumberChar char = false) :
    ∃ char tail, writeFields style depth fields ++ behind = char :: tail ∧
      isNumberChar char = false := by
  cases fields with
  | nil => exact ends
  | cons field rest => exact ⟨',', _, rfl, rfl⟩

theorem value_then
    (room : Nat)
    (text : List Char)
    (value : Json)
    (reads : Reads tables room text value)
    (frame : Frame)
    (frames : List Frame)
    (mode : Mode)
    (awaits : AwaitsItem mode)
    (fits : (frame :: frames).length + room ≤ tables.maxDepth)
    (behind : List Char)
    (ends : ∃ char tail, behind = char :: tail ∧ isNumberChar char = false) :
    (text ++ behind).foldl (step tables) ⟨frame :: frames, mode⟩ =
      behind.foldl (step tables) (deliver (frame :: frames) value) := by
  rcases ends with ⟨char, tail, rfl, ends⟩
  exact reads_then room text value reads frame frames mode awaits fits char ends tail

theorem comma_blank (depth : Nat) : Blank (style.behindComma ++ style.breakAt depth) := by
  intro char member
  rcases List.mem_append.mp member with comma | space
  · exact style.commaBlank char comma
  · exact style.breakBlank depth char space

theorem following_items_read
    (room depth : Nat)
    (items read : List Json)
    (each : ∀ item ∈ items, Reads tables room (write style depth item) item)
    (frames : List Frame)
    (fits : frames.length + 1 + room ≤ tables.maxDepth)
    (behind : List Char)
    (ends : ∃ char tail, behind = char :: tail ∧ isNumberChar char = false) :
    (writeItems style depth items ++ behind).foldl (step tables)
        ⟨.items read :: frames, .behind⟩ =
      behind.foldl (step tables) ⟨.items (read ++ items) :: frames, .behind⟩ := by
  induction items generalizing read with
  | nil => rw [writeItems, List.nil_append, List.append_nil]
  | cons item rest ih =>
      rw [List.forall_mem_cons] at each
      have next : step tables ⟨.items read :: frames, .behind⟩ ',' =
          ⟨.items read :: frames, .value⟩ := rfl
      have awaits : AwaitsItem .value := Or.inl rfl
      have blank := blank_stays tables (.items read :: frames) .value (Or.inl awaits) _
        (comma_blank style depth)
      have taken := value_then room _ item each.1 (.items read) frames .value awaits fits _
        (items_end style depth rest behind ends)
      rw [writeItems, List.cons_append, List.foldl_cons, next, List.append_assoc,
        List.foldl_append, blank, List.append_assoc, taken]
      have others := ih (read ++ [item]) each.2
      rw [List.append_assoc, List.singleton_append] at others
      exact others

theorem array_reads
    (room depth : Nat)
    (items : List Json)
    (each : ∀ item ∈ items, Reads tables room (write style (depth + 1) item) item) :
    Reads tables (room + 1) (write style depth (.arr items)) (.arr items) := by
  apply Reads.closed
  intro frames mode awaits fits
  have opens : step tables ⟨frames, mode⟩ '[' = ⟨.items [] :: frames, .firstItem⟩ := by
    have space : frames.length < tables.maxDepth := by omega
    have opened : startValue tables frames '[' = openFrame tables frames (.items []) .firstItem :=
      rfl
    rw [awaiting_starts frames mode awaits '[' rfl (by decide), opened, openFrame, if_pos space]
  cases items with
  | nil =>
      rw [write, List.foldl_cons, opens]
      rfl
  | cons item rest =>
      rw [List.forall_mem_cons] at each
      have first : AwaitsItem .firstItem := Or.inr rfl
      have room : frames.length + 1 + room ≤ tables.maxDepth := by omega
      have ends := break_ends (style.breakAt depth) (style.breakBlank depth) ']' rfl []
      have blank := blank_stays tables (.items [] :: frames) .firstItem (Or.inl first) _
        (style.breakBlank (depth + 1))
      have taken := value_then _ _ item each.1 (.items []) frames .firstItem first room _
        (items_end style (depth + 1) rest _ ends)
      have others := following_items_read style _ (depth + 1) rest [item] each.2 frames room _ ends
      have last := blank_stays tables (.items (item :: rest) :: frames) .behind (Or.inr rfl) _
        (style.breakBlank depth)
      rw [write, List.foldl_cons, opens, List.foldl_append, blank, taken]
      refine others.trans ?_
      rw [List.singleton_append, List.foldl_append, last]
      rfl

def AwaitsKey (mode : Mode) : Prop := mode = .key ∨ mode = .firstKey

theorem field_read
    (room depth : Nat)
    (key : String)
    (value : Json)
    (reads : Reads tables room (write style depth value) value)
    (read : List (String × Json))
    (last : String)
    (fresh : key ∉ read.map Prod.fst)
    (frames : List Frame)
    (mode : Mode)
    (awaits : AwaitsKey mode)
    (space : List Char)
    (blank : Blank space)
    (fits : frames.length + 1 + room ≤ tables.maxDepth)
    (behind : List Char)
    (ends : ∃ char tail, behind = char :: tail ∧ isNumberChar char = false) :
    (space ++ (writeQuoted style key ++ ':' :: (style.behindColon ++
        (write style depth value ++ behind)))).foldl (step tables)
        ⟨.fields read last :: frames, mode⟩ =
      behind.foldl (step tables) ⟨.fields (read ++ [(key, value)]) key :: frames, .behind⟩ := by
  have stays : space.foldl (step tables) ⟨.fields read last :: frames, mode⟩ =
      ⟨.fields read last :: frames, mode⟩ := by
    induction space with
    | nil => rfl
    | cons char rest ih =>
        rw [Blank, List.forall_mem_cons] at blank
        have stays : step tables ⟨.fields read last :: frames, mode⟩ char =
            ⟨.fields read last :: frames, mode⟩ := by
          rcases awaits with rfl | rfl <;> exact if_pos blank.1
        rw [List.foldl_cons, stays, ih blank.2]
  have opens : step tables ⟨.fields read last :: frames, mode⟩ '"' =
      ⟨.fields read last :: frames, .text true [] .plain⟩ := by
    rcases awaits with rfl | rfl <;> rfl
  have keyed : closeText (.fields read last :: frames) true key.toList =
      ⟨.fields read key :: frames, .colon⟩ := by
    rw [closeText, String.ofList_toList]
    rfl
  have colon : step tables ⟨.fields read key :: frames, .colon⟩ ':' =
      ⟨.fields read key :: frames, .value⟩ := rfl
  have item : AwaitsItem .value := Or.inl rfl
  have gap := blank_stays tables (.fields read key :: frames) .value (Or.inl item) _
    style.colonBlank
  have taken := value_then room _ value reads (.fields read key) frames .value item fits behind ends
  have added : deliver (.fields read key :: frames) value =
      ⟨.fields (read ++ [(key, value)]) key :: frames, .behind⟩ := by
    rw [deliver, OrderedDict.assign_absent key value read fresh]
  rw [List.foldl_append, stays, List.foldl_append,
    quoted_read style _ mode true key opens, keyed, List.foldl_cons, colon, List.foldl_append, gap,
    taken, added]

theorem following_fields_read
    (room depth : Nat)
    (fields read : List (String × Json))
    (last : String)
    (each : ∀ field ∈ fields, Reads tables room (write style depth field.2) field.2)
    (distinct : ((read ++ fields).map Prod.fst).Nodup)
    (frames : List Frame)
    (fits : frames.length + 1 + room ≤ tables.maxDepth)
    (behind : List Char)
    (ends : ∃ char tail, behind = char :: tail ∧ isNumberChar char = false) :
    ∃ key, (writeFields style depth fields ++ behind).foldl (step tables)
        ⟨.fields read last :: frames, .behind⟩ =
      behind.foldl (step tables) ⟨.fields (read ++ fields) key :: frames, .behind⟩ := by
  induction fields generalizing read last with
  | nil =>
      apply Exists.intro last
      rw [writeFields, List.nil_append, List.append_nil]
  | cons field rest ih =>
      rcases field with ⟨key, value⟩
      rw [List.forall_mem_cons] at each
      have moved : read ++ (key, value) :: rest = (read ++ [(key, value)]) ++ rest := by
        rw [List.append_assoc, List.singleton_append]
      have fresh : key ∉ read.map Prod.fst := by
        intro member
        rw [List.map_append, List.nodup_append] at distinct
        exact distinct.2.2 key member key List.mem_cons_self rfl
      have next : step tables ⟨.fields read last :: frames, .behind⟩ ',' =
          ⟨.fields read last :: frames, .key⟩ := rfl
      have taken := field_read style room depth key value each.1 read last fresh frames .key
        (Or.inl rfl) _ (comma_blank style depth) fits _ (fields_end style depth rest behind ends)
      rw [moved] at distinct
      rcases ih (read ++ [(key, value)]) key each.2 distinct with ⟨final, others⟩
      apply Exists.intro final
      rw [moved, ← others, ← taken, writeFields, List.cons_append, List.foldl_cons, next]
      simp only [List.append_assoc, List.cons_append]

theorem object_reads
    (room depth : Nat)
    (fields : List (String × Json))
    (each : ∀ field ∈ fields, Reads tables room (write style (depth + 1) field.2) field.2)
    (distinct : (fields.map Prod.fst).Nodup) :
    Reads tables (room + 1) (write style depth (.obj fields)) (.obj fields) := by
  apply Reads.closed
  intro frames mode awaits fits
  have opens : step tables ⟨frames, mode⟩ '{' = ⟨.fields [] "" :: frames, .firstKey⟩ := by
    have space : frames.length < tables.maxDepth := by omega
    have opened : startValue tables frames '{' =
        openFrame tables frames (.fields [] "") .firstKey := rfl
    rw [awaiting_starts frames mode awaits '{' rfl (by decide), opened, openFrame, if_pos space]
  cases fields with
  | nil =>
      rw [write, List.foldl_cons, opens]
      rfl
  | cons field rest =>
      rcases field with ⟨key, value⟩
      rw [List.forall_mem_cons] at each
      have room : frames.length + 1 + room ≤ tables.maxDepth := by omega
      have ends := break_ends (style.breakAt depth) (style.breakBlank depth) '}' rfl []
      have taken := field_read style _ (depth + 1) key value each.1 [] "" List.not_mem_nil frames
        .firstKey (Or.inr rfl) _ (style.breakBlank (depth + 1)) room _
        (fields_end style (depth + 1) rest _ ends)
      rcases following_fields_read style _ (depth + 1) rest [(key, value)] key each.2 distinct frames
        room _ ends with ⟨final, others⟩
      have last := blank_stays tables (.fields ((key, value) :: rest) final :: frames) .behind
        (Or.inr rfl) _ (style.breakBlank depth)
      rw [write, List.foldl_cons, opens]
      refine (taken.trans others).trans ?_
      rw [List.singleton_append, List.foldl_append, last]
      rfl

def ShortInt (tables : Tables) (number : Int) : Prop :=
  (Nat.toDigits 10 number.natAbs).length ≤ tables.maxDigits

/-- A document within the limits of the decoder: its arrays and objects are
nested at most so deep, its integers are short enough, its floats are written as
the decoder reads them, and the keys of its objects are distinct. -/
inductive Readable (tables : Tables) (style : Style) : Nat → Json → Prop where
  | null (room : Nat) : Readable tables style room .null
  | bool (room : Nat) (value : Bool) : Readable tables style room (.bool value)
  | int (room : Nat) (value : Int) : ShortInt tables value → Readable tables style room (.int value)
  | float (room : Nat) (value : Rat) : Numeral tables (style.floatText value) (.float value) →
      Readable tables style room (.float value)
  | str (room : Nat) (text : String) : Readable tables style room (.str text)
  | arr (room : Nat) (items : List Json) : (∀ item ∈ items, Readable tables style room item) →
      Readable tables style (room + 1) (.arr items)
  | obj (room : Nat) (fields : List (String × Json)) : (fields.map Prod.fst).Nodup →
      (∀ field ∈ fields, Readable tables style room field.2) →
      Readable tables style (room + 1) (.obj fields)

theorem readable_reads
    (room depth : Nat)
    (document : Json)
    (readable : Readable tables style room document) :
    Reads tables room (write style depth document) document := by
  induction readable generalizing depth with
  | null room => exact word_reads room 'n' 'u' ['l', 'l'] .null rfl (by decide) fun _ => rfl
  | bool room value =>
      cases value with
      | true => exact word_reads room 't' 'r' ['u', 'e'] (.bool true) rfl (by decide) fun _ => rfl
      | false =>
          exact word_reads room 'f' 'a' ['l', 's', 'e'] (.bool false) rfl (by decide) fun _ => rfl
  | int room value short => exact Reads.number (int_numeral tables value short)
  | float room value numeral => exact Reads.number numeral
  | str room text => exact text_reads style room text
  | arr room items _ ih =>
      apply array_reads
      exact fun item member => ih item member (depth + 1)
  | obj room fields distinct _ ih =>
      apply object_reads
      · exact fun field member => ih field member (depth + 1)
      · exact distinct

variable (tables)

/-- A document that is written is read back. -/
theorem document_read_back
    (room : Nat)
    (document : Json)
    (readable : Readable tables style room document)
    (fits : room ≤ tables.maxDepth) :
    loads tables (writeDocument style document) = .ok document := by
  have decoded := reads_document room _ document (readable_reads style room 0 document readable) fits
  rw [loads, writeDocument, String.toList_ofList, decoded]

end Reading

section Shapes

variable {tables : Tables} {style : Style}

theorem readable_deeper
    (room more : Nat)
    (document : Json)
    (readable : Readable tables style room document) :
    Readable tables style (room + more) document := by
  induction readable with
  | null room => exact Readable.null _
  | bool room value => exact Readable.bool _ value
  | int room value short => exact Readable.int _ value short
  | float room value numeral => exact Readable.float _ value numeral
  | str room text => exact Readable.str _ text
  | arr room items _ ih =>
      rw [Nat.add_right_comm]
      exact Readable.arr _ items ih
  | obj room fields distinct _ ih =>
      rw [Nat.add_right_comm]
      exact Readable.obj _ fields distinct ih

theorem object_readable
    (room : Nat)
    (fields : List (String × Json))
    (distinct : (fields.map Prod.fst).Nodup)
    (each : (fields.map Prod.snd).Forall (Readable tables style room)) :
    Readable tables style (room + 1) (.obj fields) := by
  apply Readable.obj room fields distinct
  intro field member
  exact List.forall_iff_forall_mem.mp each field.2 (List.mem_map_of_mem member)

theorem array_readable
    {Value : Type}
    (room : Nat)
    (values : List Value)
    (dump : Value → Json)
    (each : ∀ value ∈ values, Readable tables style room (dump value)) :
    Readable tables style (room + 1) (.arr (values.map dump)) := by
  apply Readable.arr
  intro item member
  rcases List.mem_map.mp member with ⟨value, within, rfl⟩
  exact each value within

theorem optional_readable
    (room : Nat)
    (text : Option String) : Readable tables style room (Json.optionalStr text) := by
  cases text with
  | none => exact Readable.null room
  | some value => exact Readable.str room value

theorem texts_readable
    (room : Nat)
    (texts : List String) : Readable tables style (room + 1) (.arr (texts.map .str)) :=
  array_readable room texts .str fun text _ => Readable.str room text

end Shapes

def shortLetter (char : Char) : Option Char :=
  if char = '"' then some '"'
  else if char = '\\' then some '\\'
  else if char = '\n' then some 'n'
  else if char = '\r' then some 'r'
  else if char = '\t' then some 't'
  else if char = Char.ofNat 12 then some 'f'
  else if char = Char.ofNat 8 then some 'b'
  else none

def hexUnit (unit : Nat) : List Char :=
  [hexDigit (unit / 4096), hexDigit (unit / 256 % 16), hexDigit (unit / 16 % 16),
    hexDigit (unit % 16)]

/-- The escape of a character as one unit, or as two units with half of it each. -/
def unitEscape (char : Char) : List Char :=
  if char.toNat < 0x10000 then '\\' :: 'u' :: hexUnit char.toNat
  else
    '\\' :: 'u' :: (hexUnit (0xD800 + (char.toNat - 0x10000) / 0x400) ++
      '\\' :: 'u' :: hexUnit (0xDC00 + (char.toNat - 0x10000) % 0x400))

def asciiSpell (char : Char) : List Char :=
  match shortLetter char with
  | some letter => ['\\', letter]
  | none => if ' ' ≤ char ∧ char ≤ '~' then [char] else unitEscape char

def plainSpell (char : Char) : List Char :=
  match shortLetter char with
  | some letter => ['\\', letter]
  | none => if char < ' ' then unitEscape char else [char]

theorem short_letter_meant
    (char letter : Char)
    (short : shortLetter char = some letter) : shortEscape letter = some char := by
  unfold shortLetter at short
  split_ifs at short with quote slash feed back tab form bell
  all_goals
    rw [Option.some.injEq] at short
    subst short
    subst char
    rfl

theorem long_char
    (char : Char)
    (long : shortLetter char = none) : char ≠ '"' ∧ char ≠ '\\' := by
  constructor <;>
    · rintro rfl
      cases long

theorem hex_digit_value : ∀ digit < 16, hexValue (hexDigit digit) = some digit := by
  decide

theorem hex_unit_value
    (unit : Nat)
    (bound : unit < 0x10000) : IsUnit (hexUnit unit) ∧ unitOf (hexUnit unit) = unit := by
  have first := hex_digit_value (unit / 4096) (by omega)
  have second := hex_digit_value (unit / 256 % 16) (by omega)
  have third := hex_digit_value (unit / 16 % 16) (by omega)
  have fourth := hex_digit_value (unit % 16) (by omega)
  constructor
  · apply And.intro rfl
    simp only [hexUnit, List.forall_mem_cons, first, second, third, fourth, ne_eq, reduceCtorEq,
      not_false_eq_true, true_and]
    exact nofun
  · simp only [unitOf, hexUnit, List.foldl_cons, List.foldl_nil, first, second, third, fourth,
      Option.getD_some]
    omega

theorem unit_escape_spells
    (char : Char)
    (text meant : List Char)
    (spells : Spells text meant) : Spells (unitEscape char ++ text) (char :: meant) := by
  have valid : char.toNat < 0xD800 ∨ 0xDFFF < char.toNat ∧ char.toNat < 0x110000 := char.valid
  unfold unitEscape
  split_ifs with small
  · have unit := hex_unit_value char.toNat small
    have whole : isFirstHalf char.toNat = false ∧ isSecondHalf char.toNat = false := by
      simp only [isFirstHalf, isSecondHalf, Bool.and_eq_false_iff, decide_eq_false_iff_not]
      omega
    have spelled := Spells.unit (hexUnit char.toNat) text meant unit.1 (by rw [unit.2]; exact whole.1)
      (by rw [unit.2]; exact whole.2) spells
    rw [unit.2, Char.ofNat_toNat] at spelled
    exact spelled
  · have first := hex_unit_value (0xD800 + (char.toNat - 0x10000) / 0x400) (by omega)
    have second := hex_unit_value (0xDC00 + (char.toNat - 0x10000) % 0x400) (by omega)
    have halves : isFirstHalf (0xD800 + (char.toNat - 0x10000) / 0x400) = true ∧
        isSecondHalf (0xDC00 + (char.toNat - 0x10000) % 0x400) = true := by
      simp only [isFirstHalf, isSecondHalf, Bool.and_eq_true, decide_eq_true_eq]
      omega
    have spelled := Spells.pair _ _ text meant first.1 second.1 (by rw [first.2]; exact halves.1)
      (by rw [second.2]; exact halves.2) spells
    have same : joined (0xD800 + (char.toNat - 0x10000) / 0x400)
        (0xDC00 + (char.toNat - 0x10000) % 0x400) = char := by
      have value : 0x10000 + (0xD800 + (char.toNat - 0x10000) / 0x400 - 0xD800) * 0x400 +
          (0xDC00 + (char.toNat - 0x10000) % 0x400 - 0xDC00) = char.toNat := by omega
      rw [joined, value, Char.ofNat_toNat]
    rw [first.2, second.2, same] at spelled
    simpa only [List.cons_append, List.append_assoc] using spelled

theorem ascii_spells
    (char : Char)
    (text meant : List Char)
    (spells : Spells text meant) : Spells (asciiSpell char ++ text) (char :: meant) := by
  unfold asciiSpell
  cases short : shortLetter char with
  | some letter => exact Spells.short letter char text meant (short_letter_meant char letter short) spells
  | none =>
      have long := long_char char short
      simp only
      split_ifs with printable
      · exact Spells.plain char text meant long.1 long.2 (Char.not_lt.mpr printable.1) spells
      · exact unit_escape_spells char text meant spells

theorem plain_spells
    (char : Char)
    (text meant : List Char)
    (spells : Spells text meant) : Spells (plainSpell char ++ text) (char :: meant) := by
  unfold plainSpell
  cases short : shortLetter char with
  | some letter => exact Spells.short letter char text meant (short_letter_meant char letter short) spells
  | none =>
      have long := long_char char short
      simp only
      split_ifs with control
      · exact unit_escape_spells char text meant spells
      · exact Spells.plain char text meant long.1 long.2 control spells

/-- One item a line, with two spaces for each level; the text is ASCII. -/
def indented (floatText : Rat → List Char) : Style where
  spell := asciiSpell
  breakAt depth := '\n' :: List.replicate (2 * depth) ' '
  behindComma := []
  behindColon := [' ']
  floatText := floatText
  spells := ascii_spells
  breakBlank depth := by
    intro char member
    rcases List.mem_cons.mp member with rfl | space
    · rfl
    · rw [(List.mem_replicate.mp space).2]
      rfl
  commaBlank := by decide
  colonBlank := by decide

def compact (floatText : Rat → List Char) : Style where
  spell := plainSpell
  breakAt _ := []
  behindComma := []
  behindColon := []
  floatText := floatText
  spells := plain_spells
  breakBlank _ := by decide
  commaBlank := by decide
  colonBlank := by decide

example : writeDocument (compact fun _ => []) (.obj [("a\n", .arr [.int (-30), .null]), ("b", .arr [])]) =
    "\x7b\"a\\n\":[-30,null],\"b\":[]\x7d" := by decide +kernel

end AtlasMindNetra.JsonWriting
