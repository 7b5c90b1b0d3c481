import AtlasMindNetra.BriefingArchive
import AtlasMindNetra.EffectRules

/-!
# Jira metadata from disk

`core/jira_fields_loader.py`. A handler catches errors by the classes that it
names, so the body of a `try` ends in a value or in an error of one class. A
step that raises an `AttributeError`, which one handler names, is not there.
-/

namespace AtlasMindNetra.JiraMetadata

open AtlasMindNetra.ResponseModels AtlasMindNetra.JsonTrees AtlasMindNetra.EffectRules
open AtlasMindNetra.BriefingArchive (JsonLibrary ModelValidation)

set_option autoImplicit false

/-- A path that is not set or leads to no file, a file that is not read, or one
with its bytes. -/
inductive MetadataFile where
  | absent
  | unreadable (message : String)
  | holds (bytes : ByteArray)

/-- What reading a file may raise, by class. -/
inductive ReadError where
  | os (message : String)
  | unicodeDecode
  | load (error : LoadError)
  | validation
  | type (message : String)

structure JiraFieldsLoader where
  fieldsPath : MetadataFile
  allowedValuesPath : MetadataFile
  fields : Option (List JiraField) := none
  allowedValues : Option (OrderedDict String (List String)) := none

section Loader

variable (library : JsonLibrary) (validation : ModelValidation) (str : Json → String)

/-- `path.read_text(encoding="utf-8")` -/
def readText : MetadataFile → Except ReadError String
  | .absent => .error (.os "No such file or directory")
  | .unreadable message => .error (.os message)
  | .holds bytes =>
      match String.fromUTF8? bytes with
      | some text => .ok text
      | none => .error .unicodeDecode

/-- `json.loads(path.read_text(encoding="utf-8"))` -/
def readJson (file : MetadataFile) : Except ReadError Json := do
  let text ← readText file
  (library.loads text).mapError .load

/-- `for item in value` -/
def iterate (value : Json) : Except ReadError (List Json) :=
  match value.iterated with
  | some items => .ok items
  | none => .error (.type ("'" ++ value.typeName ++ "' object is not iterable"))

/-- `field_schema` by its alias or by its name: null or an object. -/
def validateSchema (fields : List (String × Json)) : Option Unit :=
  match (fieldOf "schema" fields).or (fieldOf "field_schema" fields) with
  | none | some .null | some (.obj _) => some ()
  | some _ => none

/-- `JiraField.model_validate` -/
def validateJiraField : Json → Option JiraField
  | .obj fields => do
      let id ← requiredField "id" validation.toStr fields
      let name ← requiredField "name" validation.toStr fields
      let _ ← defaultField "custom" validation.toBool false fields
      let _ ← validateSchema fields
      let _ ← defaultField "description" (readOptional validation.toStr) none fields
      pure { id := id, name := name }
  | _ => none

/-- `raw["fields"] if "fields" in raw else list(raw.values())`, or `raw` -/
def entriesOf : Json → Json
  | .obj fields => (fieldOf "fields" fields).getD (.arr (fields.map Prod.snd))
  | raw => raw

/-- `[JiraField.model_validate(entry) for entry in entries]` -/
def fieldsOf (raw : Json) : Except ReadError (List JiraField) := do
  let entries ← iterate (entriesOf raw)
  match entries.mapM (validateJiraField validation) with
  | some fields => .ok fields
  | none => .error .validation

/-- `except (OSError, json.JSONDecodeError, ValidationError, AttributeError)` -/
def ReadError.isFieldsError : ReadError → Bool
  | .os _ | .load (.decode _) | .validation => true
  | _ => false

def readFields : MetadataFile → Except ReadError (List JiraField)
  | .absent => .ok []
  | file =>
      guarded ReadError.isFieldsError (fun _ => []) (readJson library file >>= fieldsOf validation)

def loadFields (loader : JiraFieldsLoader) :
    Except ReadError (List JiraField) × JiraFieldsLoader :=
  match loader.fields with
  | some fields => (.ok fields, loader)
  | none =>
      match readFields library validation loader.fieldsPath with
      | .ok fields => (.ok fields, { loader with fields := some fields })
      | .error error => (.error error, loader)

/-- `(str(k), [str(v) for v in values])` -/
def allowedEntry (entry : String × Json) : Except ReadError (String × List String) := do
  let values ← iterate entry.2
  .ok (entry.1, values.map str)

def allowedValuesOf : Json → Except ReadError (OrderedDict String (List String))
  | .obj fields => do
      let entries ← fields.mapM (allowedEntry str)
      .ok (entries.foldl (fun result entry => result.set entry.1 entry.2) ∅)
  | _ => .error (.type "expected a JSON object of field id -> values")

/-- `except (OSError, json.JSONDecodeError, TypeError)` -/
def ReadError.isAllowedValuesError : ReadError → Bool
  | .os _ | .load (.decode _) | .type _ => true
  | _ => false

def readAllowedValues : MetadataFile → Except ReadError (OrderedDict String (List String))
  | .absent => .ok ∅
  | file =>
      guarded ReadError.isAllowedValuesError (fun _ => ∅)
        (readJson library file >>= allowedValuesOf str)

def loadAllowedValues (loader : JiraFieldsLoader) :
    Except ReadError (OrderedDict String (List String)) × JiraFieldsLoader :=
  match loader.allowedValues with
  | some values => (.ok values, loader)
  | none =>
      match readAllowedValues library str loader.allowedValuesPath with
      | .ok values => (.ok values, { loader with allowedValues := some values })
      | .error error => (.error error, loader)

end Loader

end AtlasMindNetra.JiraMetadata
