import Mathlib.Data.Rat.Defs

/-!
# JSON documents as trees

A decoded document. Of the numbers a parser keeps integers and floats apart,
and a finite float is an exact rational. The keys of an object are distinct,
as a dictionary has them, so the first entry for a key is the only one.
-/

namespace AtlasMindNetra.JsonTrees

set_option autoImplicit false

inductive Json where
  | null
  | bool (value : Bool)
  | int (value : Int)
  | float (value : Rat)
  | str (text : String)
  | arr (items : List Json)
  | obj (fields : List (String × Json))

namespace Json

/-- `type(value).__name__` -/
def typeName : Json → String
  | null => "NoneType"
  | bool _ => "bool"
  | int _ => "int"
  | float _ => "float"
  | str _ => "str"
  | arr _ => "list"
  | obj _ => "dict"

def truthy : Json → Bool
  | null => false
  | bool value => value
  | int value => value ≠ 0
  | float value => value ≠ 0
  | str text => text ≠ ""
  | arr items => !items.isEmpty
  | obj fields => !fields.isEmpty

def isBare : Json → Bool
  | obj _ => false
  | _ => true

/-- What a loop over the value goes through: items, characters or keys. -/
def iterated : Json → Option (List Json)
  | arr items => some items
  | str text => some (text.toList.map fun char => str (String.singleton char))
  | obj fields => some (fields.map fun field => str field.1)
  | _ => none

def optionalStr : Option String → Json
  | some text => str text
  | none => null

end Json

/-- What decoding a text raises, by class: `JSONDecodeError`, the `ValueError` for
an integer with too many digits, and `RecursionError`. -/
inductive LoadError where
  | decode (message : String)
  | digits (message : String)
  | recursion (message : String)
  deriving DecidableEq

/-- `fields.get(key)` -/
def fieldOf (key : String) (fields : List (String × Json)) : Option Json := fields.lookup key

theorem field_cons
    (key name : String)
    (value : Json)
    (rest : List (String × Json)) :
    fieldOf key ((name, value) :: rest) = if key = name then some value else fieldOf key rest := by
  unfold fieldOf
  rw [List.lookup_cons]
  by_cases same : key = name
  · rw [if_pos same, beq_iff_eq.mpr same]
  · rw [if_neg same, beq_eq_false_iff_ne.mpr same]

section Reading

variable {Value : Type}

def requiredField (key : String) (read : Json → Option Value) (fields : List (String × Json)) :
    Option Value := (fieldOf key fields).bind read

def defaultField (key : String) (read : Json → Option Value) (default : Value)
    (fields : List (String × Json)) : Option Value :=
  match fieldOf key fields with
  | some value => read value
  | none => some default

def readList (read : Json → Option Value) : Json → Option (List Value)
  | .arr items => items.mapM read
  | _ => none

def readOptional (read : Json → Option Value) : Json → Option (Option Value)
  | .null => some none
  | value => (read value).map some

variable {read : Json → Option Value} {write : Value → Json}

theorem read_list_written
    (items : List Value)
    (each : ∀ item, item ∈ items → read (write item) = some item) :
    readList read (.arr (items.map write)) = some items := by
  unfold readList
  simp only
  induction items with
  | nil => rfl
  | cons head rest ih =>
      rw [List.forall_mem_cons] at each
      rw [List.map_cons, List.mapM_cons, each.1, ih each.2]
      rfl

theorem read_optional_written
    (text : Option String)
    (readText : Json → Option String)
    (reads : ∀ value, readText (.str value) = some value) :
    readOptional readText (Json.optionalStr text) = some text := by
  cases text with
  | none => rfl
  | some value =>
      simp only [Json.optionalStr, readOptional, reads value, Option.map_some]

end Reading

end AtlasMindNetra.JsonTrees
