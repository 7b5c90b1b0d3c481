import AtlasMindNetra.OrderedDict

/-!
# Values and errors shared by all modules

Text that is only carried or joined is a `String`. What the program reads off
Unicode (`str.lower`, the `\w` class and case-insensitive equality of `re`) is
a table, so every result holds for the tables of any Python version.
-/

namespace AtlasMindNetra.PythonValues

set_option autoImplicit false

/-- The hierarchy of `core.exceptions` together with the two classes of errors
from outside it that some handler names or lets through. The text is `str(exc)`. -/
inductive PyError where
  | config (message : String)
  | liteBackend (message : String)
  | clarification (message : String)
  | stateTransition (message : String)
  | analysis (message : String)
  | decomposition (message : String)
  | os (message : String)
  | other (message : String)
  deriving DecidableEq

namespace PyError

def text : PyError → String
  | config message | liteBackend message | clarification message | stateTransition message
  | analysis message | decomposition message | os message | other message => message

/-- `except (OSError, NetraError)`. -/
def isOsOrNetra : PyError → Bool
  | other _ => false
  | _ => true

/-- `except ClarificationError`. -/
def clarification? : PyError → Option String
  | clarification message => some message
  | _ => none

end PyError

/-- What the run of an agent may raise, by the classes its callers name. -/
inductive AgentError where
  | agentRun (message : String)
  | user (message : String)
  | other (message : String)
  deriving DecidableEq

structure TextTables where
  lower : String → String
  /-- membership in the `\w` class of `re` -/
  isWord : Char → Bool
  /-- equality of two characters under `re.IGNORECASE` -/
  sameIgnoringCase : Char → Char → Bool

/-- The tables restricted to ASCII, on which concrete inputs are evaluated. -/
def asciiTables : TextTables where
  lower text := String.ofList (text.toList.map Char.toLower)
  isWord char := char.isAlphanum || char == '_'
  sameIgnoringCase left right := left.toLower == right.toLower

/-- The value of an optional text where it counts as true. -/
def truthyText : Option String → Option String
  | some text => if text = "" then none else some text
  | none => none

theorem truthy_text_some (answer : Option String) (text : String) :
    truthyText answer = some text ↔ answer = some text ∧ text ≠ "" := by
  cases answer with
  | none => simp [truthyText]
  | some value =>
      by_cases blank : value = ""
      · subst blank
        simp only [truthyText, if_true, reduceCtorEq, Option.some.injEq, ne_eq, false_iff, not_and,
          not_not]
        exact fun same => same.symm
      · simp only [truthyText, if_neg blank, Option.some.injEq, ne_eq]
        exact ⟨fun same => ⟨same, same ▸ blank⟩, And.left⟩

theorem int_text_char
    (number : Int)
    (char : Char)
    (member : char ∈ (toString number).toList) : char = '-' ∨ char.isDigit = true := by
  have digits : ∀ natural : Nat, char ∈ natural.repr.toList → char.isDigit = true := by
    intro natural inText
    rw [Nat.toList_repr] at inText
    exact Nat.isDigit_of_mem_toDigits (by decide) (by decide) inText
  rw [Int.toString_eq_repr, Int.repr_eq_if] at member
  split_ifs at member
  · exact Or.inr (digits _ member)
  · rw [String.toList_append, List.mem_append] at member
    rcases member with sign | inText
    · exact Or.inl (List.mem_singleton.mp sign)
    · exact Or.inr (digits _ inText)

/-- `text[:count]` -/
def firstChars (count : Nat) (text : String) : String := String.ofList (text.toList.take count)

/-- `text.startswith(start)` -/
def startsWithText (start text : String) : Bool := start.toList.isPrefixOf text.toList

/-- `items[:count]`; a negative count drops from the end. -/
def sliceTo {Item : Type} (count : Int) (items : List Item) : List Item :=
  if count < 0 then items.take (items.length - count.natAbs) else items.take count.toNat

theorem map_slice_to
    {Item Other : Type}
    (change : Item → Other)
    (count : Int)
    (items : List Item) : (sliceTo count items).map change = sliceTo count (items.map change) := by
  unfold sliceTo
  split_ifs
  · rw [List.map_take, List.length_map]
  · rw [List.map_take]

theorem slice_to_all
    {Item : Type}
    (items : List Item)
    (count : Int)
    (covers : items.length ≤ count) : sliceTo count items = items := by
  have count_nonneg : ¬ count < 0 := by omega
  rw [sliceTo, if_neg count_nonneg]
  exact List.take_of_length_le (by omega)

theorem slice_to_short
    {Item : Type}
    (items : List Item)
    (count : Int)
    (some : items ≠ [])
    (short : count < items.length) :
    ∃ kept < items.length, sliceTo count items = items.take kept := by
  have length := List.length_pos_of_ne_nil some
  unfold sliceTo
  split_ifs
  · exact ⟨items.length - count.natAbs, by omega, rfl⟩
  · exact ⟨count.toNat, by omega, rfl⟩

/-- A value of a backend-defined issue dictionary. Lists, dictionaries and
floats are only ever read through `bool()` and `str()`, so they are kept as
those two readings. -/
inductive JsonValue where
  | null
  | bool (value : Bool)
  | int (value : Int)
  | str (text : String)
  | compound (rendered : String) (nonEmpty : Bool)
  deriving DecidableEq

namespace JsonValue

def truthy : JsonValue → Bool
  | null => false
  | bool value => value
  | int value => value ≠ 0
  | str text => text ≠ ""
  | compound _ nonEmpty => nonEmpty

/-- `str(value)` -/
def render : JsonValue → String
  | null => "None"
  | bool value => if value then "True" else "False"
  | int value => toString value
  | str text => text
  | compound rendered _ => rendered

end JsonValue

abbrev IssueRow := OrderedDict String JsonValue

end AtlasMindNetra.PythonValues
