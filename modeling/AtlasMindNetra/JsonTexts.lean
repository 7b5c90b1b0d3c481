import AtlasMindNetra.JsonTrees
import AtlasMindNetra.OrderedDict

/-!
# JSON texts

A decoder as a machine that reads one character after the other. It keeps the
arrays and objects that are still open, and what it is in the middle of. A text
that is no document, an integer with too many digits and too many open arrays
and objects are three kinds of faults; the first one met is the one reported.

Of a decoded text only what a list of characters can hold is settled here:
floats and the constants that stand for no number are read by the tables, and
half a surrogate pair is the character that the tables have for it.
-/

namespace AtlasMindNetra.JsonTexts

open AtlasMindNetra.JsonTrees

set_option autoImplicit false

structure Tables where
  readFloat : List Char → Json
  readConstant : String → Json
  halfPair : Nat → Char
  maxDigits : Nat
  maxDepth : Nat
  deep : 0 < maxDepth
  complaint : String → String

inductive Fault where
  | notADocument
  | tooManyDigits
  | tooDeep
  deriving DecidableEq

/-- An open array or object; `key` is that of the value being read. -/
inductive Frame where
  | items (read : List Json)
  | fields (read : List (String × Json)) (key : String)

/-- Where in a text between quotes. -/
inductive Place where
  | plain
  | escaped
  /-- behind `\u` and some hex digits -/
  | unit (digits : List Char)
  | half (first : Nat)
  | halfEscaped (first : Nat)
  | secondUnit (first : Nat) (digits : List Char)

/-- What comes next, or what is being read. -/
inductive Mode where
  | value
  | firstItem
  | firstKey
  | key
  | colon
  | behind
  | done (document : Json)
  | text (isKey : Bool) (read : List Char) (place : Place)
  | number (read : List Char)
  | word (left : List Char) (value : Json)
  | failed (fault : Fault)

structure State where
  frames : List Frame
  mode : Mode

def isBlank (char : Char) : Bool := char == ' ' || char == '\t' || char == '\n' || char == '\r'

def fail (fault : Fault) : State := ⟨[], .failed fault⟩

def deliver : List Frame → Json → State
  | [], value => ⟨[], .done value⟩
  | .items read :: rest, value => ⟨.items (read ++ [value]) :: rest, .behind⟩
  | .fields read key :: rest, value =>
      ⟨.fields (OrderedDict.assign key value read) key :: rest, .behind⟩

section Machine

variable (tables : Tables)

def openFrame (frames : List Frame) (frame : Frame) (mode : Mode) : State :=
  if frames.length < tables.maxDepth then ⟨frame :: frames, mode⟩ else fail .tooDeep

def digitValue (char : Char) : Nat := char.toNat - '0'.toNat

def natOf (digits : List Char) : Nat :=
  digits.foldl (fun read digit => 10 * read + digitValue digit) 0

/-- The longest number at the start: `(-?(?:0|[1-9]\d*))(\.\d+)?([eE][-+]?\d+)?` -/
structure Numeral where
  negative : Bool
  whole : List Char
  fraction : List Char
  exponent : List Char
  rest : List Char

def digitsAt (text : List Char) : List Char := text.takeWhile Char.isDigit

def fractionAt : List Char → List Char
  | '.' :: rest => if digitsAt rest = [] then [] else '.' :: digitsAt rest
  | _ => []

def exponentAt : List Char → List Char
  | letter :: rest =>
      if letter = 'e' ∨ letter = 'E' then
        let sign := rest.take 1 |>.filter fun char => char == '+' || char == '-'
        let digits := digitsAt (rest.drop sign.length)
        if digits = [] then [] else letter :: sign ++ digits
      else []
  | [] => []

def numeralAt (text : List Char) : Numeral :=
  let negative := text.head? == some '-'
  let body := if negative then text.drop 1 else text
  let digits := digitsAt body
  let whole := if digits.head? = some '0' then ['0'] else digits
  let fraction := fractionAt (body.drop whole.length)
  let behind := body.drop (whole.length + fraction.length)
  let exponent := exponentAt behind
  { negative, whole, fraction, exponent, rest := behind.drop exponent.length }

/-- The number is converted before what stands behind it is looked at. -/
def readNumber (text : List Char) : Except Fault Json :=
  let numeral := numeralAt text
  if numeral.whole = [] then .error .notADocument
  else if numeral.fraction = [] ∧ numeral.exponent = [] then
    if tables.maxDigits < numeral.whole.length then .error .tooManyDigits
    else if numeral.rest ≠ [] then .error .notADocument
    else
      let value : Int := natOf numeral.whole
      .ok (.int (if numeral.negative then -value else value))
  else if numeral.rest ≠ [] then .error .notADocument
  else .ok (tables.readFloat text)

def isNumberChar (char : Char) : Bool := char.isDigit || ['+', '-', '.', 'e', 'E'].contains char

def hexValue (char : Char) : Option Nat :=
  if char.isDigit then some (digitValue char)
  else if 'a' ≤ char ∧ char ≤ 'f' then some (char.toNat - 'a'.toNat + 10)
  else if 'A' ≤ char ∧ char ≤ 'F' then some (char.toNat - 'A'.toNat + 10)
  else none

def unitOf (digits : List Char) : Nat :=
  digits.foldl (fun read digit => 16 * read + (hexValue digit).getD 0) 0

def isFirstHalf (unit : Nat) : Bool := decide (0xD800 ≤ unit) && decide (unit < 0xDC00)

def isSecondHalf (unit : Nat) : Bool := decide (0xDC00 ≤ unit) && decide (unit < 0xE000)

def joined (first second : Nat) : Char :=
  Char.ofNat (0x10000 + (first - 0xD800) * 0x400 + (second - 0xDC00))

def shortEscape : Char → Option Char
  | '"' => some '"'
  | '\\' => some '\\'
  | '/' => some '/'
  | 'b' => some (Char.ofNat 8)
  | 'f' => some (Char.ofNat 12)
  | 'n' => some '\n'
  | 'r' => some '\r'
  | 't' => some '\t'
  | _ => none

def closeText (frames : List Frame) (isKey : Bool) (read : List Char) : State :=
  if isKey then
    match frames with
    | .fields fields _ :: rest => ⟨.fields fields (String.ofList read) :: rest, .colon⟩
    | _ => fail .notADocument
  else deliver frames (.str (String.ofList read))

def plainStep (frames : List Frame) (isKey : Bool) (read : List Char) (char : Char) : State :=
  if char = '"' then closeText frames isKey read
  else if char = '\\' then ⟨frames, .text isKey read .escaped⟩
  else if char < ' ' then fail .notADocument
  else ⟨frames, .text isKey (read ++ [char]) .plain⟩

def escapedStep (frames : List Frame) (isKey : Bool) (read : List Char) (char : Char) : State :=
  if char = 'u' then ⟨frames, .text isKey read (.unit [])⟩
  else
    match shortEscape char with
    | some meant => ⟨frames, .text isKey (read ++ [meant]) .plain⟩
    | none => fail .notADocument

def unitRead (frames : List Frame) (isKey : Bool) (read : List Char) (unit : Nat) : State :=
  if isFirstHalf unit then ⟨frames, .text isKey read (.half unit)⟩
  else if isSecondHalf unit then ⟨frames, .text isKey (read ++ [tables.halfPair unit]) .plain⟩
  else ⟨frames, .text isKey (read ++ [Char.ofNat unit]) .plain⟩

def textStep (frames : List Frame) (isKey : Bool) (read : List Char) (char : Char) :
    Place → State
  | .plain => plainStep frames isKey read char
  | .escaped => escapedStep frames isKey read char
  | .unit digits =>
      if hexValue char = none then fail .notADocument
      else if digits.length < 3 then ⟨frames, .text isKey read (.unit (digits ++ [char]))⟩
      else unitRead tables frames isKey read (unitOf (digits ++ [char]))
  | .half first =>
      if char = '\\' then ⟨frames, .text isKey read (.halfEscaped first)⟩
      else plainStep frames isKey (read ++ [tables.halfPair first]) char
  | .halfEscaped first =>
      if char = 'u' then ⟨frames, .text isKey read (.secondUnit first [])⟩
      else escapedStep frames isKey (read ++ [tables.halfPair first]) char
  | .secondUnit first digits =>
      if hexValue char = none then fail .notADocument
      else if digits.length < 3 then
        ⟨frames, .text isKey read (.secondUnit first (digits ++ [char]))⟩
      else
        let second := unitOf (digits ++ [char])
        if isSecondHalf second then
          ⟨frames, .text isKey (read ++ [joined first second]) .plain⟩
        else unitRead tables frames isKey (read ++ [tables.halfPair first]) second

def startValue (frames : List Frame) (char : Char) : State :=
  if char = '"' then ⟨frames, .text false [] .plain⟩
  else if char = '[' then openFrame tables frames (.items []) .firstItem
  else if char = '{' then openFrame tables frames (.fields [] "") .firstKey
  else if char = 'n' then ⟨frames, .word "ull".toList .null⟩
  else if char = 't' then ⟨frames, .word "rue".toList (.bool true)⟩
  else if char = 'f' then ⟨frames, .word "alse".toList (.bool false)⟩
  else if char = 'N' then ⟨frames, .word "aN".toList (tables.readConstant "NaN")⟩
  else if char = 'I' then ⟨frames, .word "nfinity".toList (tables.readConstant "Infinity")⟩
  else if char = '-' ∨ char.isDigit then ⟨frames, .number [char]⟩
  else fail .notADocument

def behindStep (frames : List Frame) (char : Char) : State :=
  if isBlank char then ⟨frames, .behind⟩
  else
    match frames with
    | .items read :: rest =>
        if char = ',' then ⟨frames, .value⟩
        else if char = ']' then deliver rest (.arr read)
        else fail .notADocument
    | .fields read _ :: rest =>
        if char = ',' then ⟨frames, .key⟩
        else if char = '}' then deliver rest (.obj read)
        else fail .notADocument
    | [] => fail .notADocument

def endNumber (frames : List Frame) (read : List Char) (char : Char) : State :=
  match readNumber tables read with
  | .error fault => fail fault
  | .ok value =>
      let delivered := deliver frames value
      match delivered.mode with
      | .done _ => if isBlank char then delivered else fail .notADocument
      | _ => behindStep delivered.frames char

def step (state : State) (char : Char) : State :=
  match state.mode with
  | .value => if isBlank char then state else startValue tables state.frames char
  | .firstItem =>
      if isBlank char then state
      else if char = ']' then behindStep state.frames char
      else startValue tables state.frames char
  | .firstKey =>
      if isBlank char then state
      else if char = '}' then behindStep state.frames char
      else if char = '"' then ⟨state.frames, .text true [] .plain⟩
      else fail .notADocument
  | .key =>
      if isBlank char then state
      else if char = '"' then ⟨state.frames, .text true [] .plain⟩
      else fail .notADocument
  | .colon =>
      if isBlank char then state
      else if char = ':' then ⟨state.frames, .value⟩
      else fail .notADocument
  | .behind => behindStep state.frames char
  | .done _ => if isBlank char then state else fail .notADocument
  | .text isKey read place => textStep tables state.frames isKey read char place
  | .number read =>
      if isNumberChar char then ⟨state.frames, .number (read ++ [char])⟩
      else if read = ['-'] ∧ char = 'I' then
        ⟨state.frames, .word "nfinity".toList (tables.readConstant "-Infinity")⟩
      else endNumber tables state.frames read char
  | .word left value =>
      match left with
      | expected :: rest =>
          if char ≠ expected then fail .notADocument
          else if rest = [] then deliver state.frames value
          else ⟨state.frames, .word rest value⟩
      | [] => fail .notADocument
  | .failed _ => state

def finish (state : State) : Except Fault Json :=
  match state.mode with
  | .done document => .ok document
  | .failed fault => .error fault
  | .number read =>
      match readNumber tables read with
      | .error fault => .error fault
      | .ok value => if state.frames.isEmpty then .ok value else .error .notADocument
  | _ => .error .notADocument

def decode (text : List Char) : Except Fault Json :=
  finish tables (text.foldl (step tables) ⟨[], .value⟩)

def loads (text : String) : Except LoadError Json :=
  match decode tables text.toList with
  | .ok document => .ok document
  | .error .notADocument => .error (.decode (tables.complaint text))
  | .error .tooManyDigits => .error (.digits (tables.complaint text))
  | .error .tooDeep => .error (.recursion (tables.complaint text))

end Machine

def sampleTables : Tables where
  readFloat _ := .float 0
  readConstant _ := .float 0
  halfPair _ := '?'
  maxDigits := 4300
  maxDepth := 990
  deep := by decide
  complaint _ := "not decoded"

def IsUnit (digits : List Char) : Prop :=
  digits.length = 4 ∧ ∀ digit ∈ digits, hexValue digit ≠ none

/-- What may stand between quotes for a text. -/
inductive Spells : List Char → List Char → Prop where
  | nil : Spells [] []
  | plain (char : Char) (text meant : List Char) : char ≠ '"' → char ≠ '\\' → ¬ char < ' ' →
      Spells text meant → Spells (char :: text) (char :: meant)
  | short (letter char : Char) (text meant : List Char) : shortEscape letter = some char →
      Spells text meant → Spells ('\\' :: letter :: text) (char :: meant)
  | unit (digits text meant : List Char) : IsUnit digits → isFirstHalf (unitOf digits) = false →
      isSecondHalf (unitOf digits) = false → Spells text meant →
      Spells ('\\' :: 'u' :: (digits ++ text)) (Char.ofNat (unitOf digits) :: meant)
  | pair (first second text meant : List Char) : IsUnit first → IsUnit second →
      isFirstHalf (unitOf first) = true → isSecondHalf (unitOf second) = true →
      Spells text meant →
      Spells ('\\' :: 'u' :: (first ++ '\\' :: 'u' :: (second ++ text)))
        (joined (unitOf first) (unitOf second) :: meant)

def Blank (text : List Char) : Prop := ∀ char ∈ text, isBlank char = true

instance (text : List Char) : Decidable (Blank text) := List.decidableBAll _ text

def ItemText (item : String) (text : List Char) : Prop :=
  ∃ ahead body behind, text = ahead ++ '"' :: (body ++ '"' :: behind) ∧ Blank ahead ∧
    Spells body item.toList ∧ Blank behind

inductive ItemsText : List String → List Char → Prop where
  | one (item : String) (text : List Char) : ItemText item text → ItemsText [item] text
  | more (item : String) (items : List String) (text rest : List Char) : ItemText item text →
      ItemsText items rest → ItemsText (item :: items) (text ++ ',' :: rest)

/-- A JSON array of the texts, however it is written. -/
def ArrayText (items : List String) (text : List Char) : Prop :=
  ∃ inner, text = '[' :: (inner ++ [']']) ∧ (items = [] ∧ Blank inner ∨ ItemsText items inner)

section Reading

variable (tables : Tables) (frames : List Frame)

theorem unit_digits_read
    (isKey : Bool)
    (read digits : List Char)
    (isUnit : IsUnit digits) :
    digits.foldl (step tables) ⟨frames, .text isKey read (.unit [])⟩ =
      unitRead tables frames isKey read (unitOf digits) := by
  rcases isUnit with ⟨length, hex⟩
  rcases List.length_eq_four.mp length with ⟨first, second, third, fourth, rfl⟩
  simp only [List.forall_mem_cons] at hex
  simp [step, textStep, hex.1, hex.2.1, hex.2.2.1, hex.2.2.2.1]

theorem second_digits_read
    (isKey : Bool)
    (read digits : List Char)
    (first : Nat)
    (isUnit : IsUnit digits)
    (isSecond : isSecondHalf (unitOf digits) = true) :
    digits.foldl (step tables) ⟨frames, .text isKey read (.secondUnit first [])⟩ =
      ⟨frames, .text isKey (read ++ [joined first (unitOf digits)]) .plain⟩ := by
  rcases isUnit with ⟨length, hex⟩
  rcases List.length_eq_four.mp length with ⟨one, two, three, four, rfl⟩
  simp only [List.forall_mem_cons] at hex
  simp [step, textStep, hex.1, hex.2.1, hex.2.2.1, hex.2.2.2.1, isSecond]

/-- A text between quotes is read as what it spells. -/
theorem spelled_read
    (isKey : Bool)
    (read text meant : List Char)
    (spells : Spells text meant) :
    text.foldl (step tables) ⟨frames, .text isKey read .plain⟩ =
      ⟨frames, .text isKey (read ++ meant) .plain⟩ := by
  induction spells generalizing read with
  | nil => rw [List.foldl_nil, List.append_nil]
  | plain char text meant notQuote notSlash printed _ ih =>
      have taken : step tables ⟨frames, .text isKey read .plain⟩ char =
          ⟨frames, .text isKey (read ++ [char]) .plain⟩ := by
        simp only [step, textStep, plainStep, if_neg notQuote, if_neg notSlash, if_neg printed]
      rw [List.foldl_cons, taken, ih, List.append_assoc, List.singleton_append]
  | short letter char text meant isShort _ ih =>
      have notU : letter ≠ 'u' := by
        rintro rfl
        cases isShort
      have taken : step tables (step tables ⟨frames, .text isKey read .plain⟩ '\\') letter =
          ⟨frames, .text isKey (read ++ [char]) .plain⟩ := by
        simp [step, textStep, plainStep, escapedStep, notU, isShort]
      rw [List.foldl_cons, List.foldl_cons, taken, ih, List.append_assoc, List.singleton_append]
  | unit digits text meant isUnit notFirst notSecond _ ih =>
      have begun : step tables (step tables ⟨frames, .text isKey read .plain⟩ '\\') 'u' =
          ⟨frames, .text isKey read (.unit [])⟩ := by
        simp [step, textStep, plainStep, escapedStep]
      have taken : unitRead tables frames isKey read (unitOf digits) =
          ⟨frames, .text isKey (read ++ [Char.ofNat (unitOf digits)]) .plain⟩ := by
        simp [unitRead, notFirst, notSecond]
      rw [List.foldl_cons, List.foldl_cons, begun, List.foldl_append,
        unit_digits_read tables frames isKey read digits isUnit, taken, ih, List.append_assoc,
        List.singleton_append]
  | pair first second text meant isUnit isUnitSecond isFirst isSecond _ ih =>
      have begun : step tables (step tables ⟨frames, .text isKey read .plain⟩ '\\') 'u' =
          ⟨frames, .text isKey read (.unit [])⟩ := by
        simp [step, textStep, plainStep, escapedStep]
      have half : unitRead tables frames isKey read (unitOf first) =
          ⟨frames, .text isKey read (.half (unitOf first))⟩ := by
        simp [unitRead, isFirst]
      have again : step tables (step tables ⟨frames, .text isKey read (.half (unitOf first))⟩ '\\')
          'u' = ⟨frames, .text isKey read (.secondUnit (unitOf first) [])⟩ := by
        simp [step, textStep]
      rw [List.foldl_cons, List.foldl_cons, begun, List.foldl_append,
        unit_digits_read tables frames isKey read first isUnit, half, List.foldl_cons,
        List.foldl_cons, again, List.foldl_append,
        second_digits_read tables frames isKey read second _ isUnitSecond isSecond, ih,
        List.append_assoc, List.singleton_append]

def AwaitsItem (mode : Mode) : Prop := mode = .value ∨ mode = .firstItem

theorem blank_stays
    (mode : Mode)
    (awaits : AwaitsItem mode ∨ mode = .behind)
    (text : List Char)
    (blank : Blank text) : text.foldl (step tables) ⟨frames, mode⟩ = ⟨frames, mode⟩ := by
  induction text with
  | nil => rfl
  | cons char rest ih =>
      have parts := List.forall_mem_cons.mp blank
      have stays : step tables ⟨frames, mode⟩ char = ⟨frames, mode⟩ := by
        rcases awaits with (rfl | rfl) | rfl
        · exact if_pos parts.1
        · exact if_pos parts.1
        · exact if_pos parts.1
      rw [List.foldl_cons, stays, ih parts.2]

theorem item_read
    (read : List Json)
    (mode : Mode)
    (awaits : AwaitsItem mode)
    (item : String)
    (text : List Char)
    (isItem : ItemText item text) :
    text.foldl (step tables) ⟨.items read :: frames, mode⟩ =
      ⟨.items (read ++ [.str item]) :: frames, .behind⟩ := by
  rcases isItem with ⟨ahead, body, behind, rfl, blankAhead, spells, blankBehind⟩
  have opened : step tables ⟨.items read :: frames, mode⟩ '"' =
      ⟨.items read :: frames, .text false [] .plain⟩ := by
    rcases awaits with rfl | rfl <;> rfl
  have closed : step tables ⟨.items read :: frames, .text false item.toList .plain⟩ '"' =
      ⟨.items (read ++ [.str item]) :: frames, .behind⟩ := by
    simp [step, textStep, plainStep, closeText, deliver]
  rw [List.foldl_append, blank_stays tables _ mode (Or.inl awaits) ahead blankAhead,
    List.foldl_cons, opened, List.foldl_append, spelled_read tables _ false [] body _ spells,
    List.nil_append, List.foldl_cons, closed,
    blank_stays tables _ .behind (Or.inr rfl) behind blankBehind]

theorem items_read
    (items : List String)
    (text : List Char)
    (areItems : ItemsText items text)
    (read : List Json)
    (mode : Mode)
    (awaits : AwaitsItem mode) :
    text.foldl (step tables) ⟨.items read :: frames, mode⟩ =
      ⟨.items (read ++ items.map .str) :: frames, .behind⟩ := by
  induction areItems generalizing read mode with
  | one item text isItem => exact item_read tables frames read mode awaits item text isItem
  | more item items text rest isItem _ ih =>
      have next : step tables ⟨.items (read ++ [.str item]) :: frames, .behind⟩ ',' =
          ⟨.items (read ++ [.str item]) :: frames, .value⟩ := rfl
      rw [List.foldl_append, item_read tables frames read mode awaits item text isItem,
        List.foldl_cons, next, ih _ .value (Or.inl rfl), List.append_assoc, List.map_cons,
        List.singleton_append]

end Reading

/-- However an array of texts is written, it is read back. -/
theorem decode_array_text
    (tables : Tables)
    (items : List String)
    (text : List Char)
    (isArray : ArrayText items text) : decode tables text = .ok (.arr (items.map .str)) := by
  rcases isArray with ⟨inner, rfl, inside⟩
  have opened : step tables ⟨[], .value⟩ '[' = ⟨[.items []], .firstItem⟩ := by
    have room : openFrame tables [] (.items []) .firstItem = ⟨[.items []], .firstItem⟩ :=
      if_pos tables.deep
    exact room
  rw [decode, List.foldl_cons, opened, List.foldl_append]
  rcases inside with ⟨rfl, blank⟩ | areItems
  · rw [blank_stays tables _ .firstItem (Or.inl (Or.inr rfl)) inner blank]
    rfl
  · rw [items_read tables [] items inner areItems [] .firstItem (Or.inr rfl)]
    rfl

def hexDigit (value : Nat) : Char :=
  if value < 10 then Char.ofNat ('0'.toNat + value) else Char.ofNat ('a'.toNat + (value - 10))

def controlUnit (value : Nat) : List Char :=
  ['0', '0', hexDigit (value / 16), hexDigit (value % 16)]

def spell (char : Char) : List Char :=
  if char = '"' then ['\\', '"']
  else if char = '\\' then ['\\', '\\']
  else if char < ' ' then '\\' :: 'u' :: controlUnit char.toNat
  else [char]

def writeText (text : String) : List Char := '"' :: (text.toList.flatMap spell ++ ['"'])

def writeArray (texts : List String) : List Char :=
  '[' :: ((texts.map writeText).intersperse [',', ' ']).flatten ++ [']']

theorem control_unit_value :
    ∀ value < 32, unitOf (controlUnit value) = value ∧
      (controlUnit value).all (fun digit => (hexValue digit).isSome) = true := by
  decide

theorem spell_spells (text : List Char) : Spells (text.flatMap spell) text := by
  induction text with
  | nil => exact Spells.nil
  | cons char rest ih =>
      rw [List.flatMap_cons, spell]
      split_ifs with isQuote isSlash isControl
      · rw [isQuote]
        exact Spells.short '"' '"' _ _ rfl ih
      · rw [isSlash]
        exact Spells.short '\\' '\\' _ _ rfl ih
      · have small : char.toNat < 32 := isControl
        have unit := control_unit_value char.toNat small
        have isUnit : IsUnit (controlUnit char.toNat) := by
          refine ⟨rfl, fun digit member => ?_⟩
          rw [← Option.isSome_iff_ne_none]
          exact List.all_eq_true.mp unit.2 digit member
        have noHalf : isFirstHalf (unitOf (controlUnit char.toNat)) = false ∧
            isSecondHalf (unitOf (controlUnit char.toNat)) = false := by
          simp only [unit.1, isFirstHalf, isSecondHalf, Bool.and_eq_false_iff,
            decide_eq_false_iff_not]
          omega
        have spelled := Spells.unit _ _ _ isUnit noHalf.1 noHalf.2 ih
        rw [unit.1, Char.ofNat_toNat] at spelled
        exact spelled
      · exact Spells.plain char _ _ isQuote isSlash isControl ih

theorem array_text_written (texts : List String) : ArrayText texts (writeArray texts) := by
  have isItem (text : String) (ahead : List Char) (blank : Blank ahead) :
      ItemText text (ahead ++ writeText text) :=
    ⟨ahead, text.toList.flatMap spell, [], rfl, blank, spell_spells text.toList, nofun⟩
  have areItems (text : String) (texts : List String) (ahead : List Char) (blank : Blank ahead) :
      ItemsText (text :: texts)
        (ahead ++ (((text :: texts).map writeText).intersperse [',', ' ']).flatten) := by
    induction texts generalizing text ahead with
    | nil =>
        have single := ItemsText.one text _ (isItem text ahead blank)
        simpa using single
    | cons next texts ih =>
        have rest := ih next [' '] (by decide)
        have all := ItemsText.more text _ _ _ (isItem text ahead blank) rest
        simpa using all
  cases texts with
  | nil => exact ⟨[], rfl, Or.inl ⟨rfl, nofun⟩⟩
  | cons text texts => exact ⟨_, rfl, Or.inr (areItems text texts [] nofun)⟩

end AtlasMindNetra.JsonTexts
