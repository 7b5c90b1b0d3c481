import AtlasMindNetra.DeliveredBriefings
import AtlasMindNetra.JiraMetadata
import AtlasMindNetra.JsonTexts

/-!
# Malformed files

What `JiraFieldsLoader` and `get_briefing_report` do with any content of the
files that they read. Each handler names its classes of errors, and each misses
some that decoding or taking the document apart raises.
-/

namespace AtlasMindNetra.JiraMetadata

open AtlasMindNetra.PythonValues AtlasMindNetra.ResponseModels AtlasMindNetra.JsonTrees
open AtlasMindNetra.EffectRules AtlasMindNetra.BriefingArchive

set_option autoImplicit false

section Files

variable (library : JsonLibrary) (validation : ModelValidation) (str : Json → String)

/-- The bytes are UTF-8, and of their text decoding only fails if it is no
document; a document is one that the condition holds of. -/
def Loads (holds : Json → Prop) (bytes : ByteArray) : Prop :=
  ∃ text, String.fromUTF8? bytes = some text ∧
    ((∃ message, library.loads text = .error (.decode message)) ∨
      ∃ document, library.loads text = .ok document ∧ holds document)

def Iterable (value : Json) : Prop := ∃ items, value.iterated = some items

def HasSections (document : Json) : Prop :=
  ∃ fields, document = .obj fields ∧ Iterable ((fieldOf "sections" fields).getD (.arr []))

/-- Reading the sidecar raises an `OSError`, or its bytes are not UTF-8, or of
their text decoding fails otherwise than by depth, or it has sections. -/
def LoadsReport (side : ArchiveSide) (bytes : ByteArray) : Prop :=
  side.readFault ≠ none ∨ ∀ text, String.fromUTF8? bytes = some text →
    (∀ message, side.library.loads text ≠ .error (.recursion message)) ∧
      ∀ document, side.library.loads text = .ok document → HasSections document

def contentOf (complaint : ByteArray → String) (bytes : ByteArray) : Except String String :=
  match String.fromUTF8? bytes with
  | some text => .ok text
  | none => .error (complaint bytes)

theorem read_json_of_bytes
    (bytes : ByteArray) :
    readJson library (.holds bytes) =
      match String.fromUTF8? bytes with
      | some text => (library.loads text).mapError .load
      | none => .error .unicodeDecode := by
  simp only [readJson, readText]
  cases String.fromUTF8? bytes with
  | none => rfl
  | some text => rfl

/-- A `try` that reads a file and takes its document apart, whose handler names
of the errors of reading only `OSError` and `JSONDecodeError`. -/
theorem reading_guarded_iff
    {Value : Type}
    (catches : ReadError → Bool)
    (fallback : ReadError → Value)
    (takesApart : Json → Except ReadError Value)
    (holds : Json → Prop)
    (decode : ∀ message, catches (.load (.decode message)) = true)
    (noOther : catches .unicodeDecode = false ∧
      (∀ message, catches (.load (.digits message)) = false) ∧
        ∀ message, catches (.load (.recursion message)) = false)
    (takes : ∀ document, (∀ error, takesApart document = .error error → catches error = true) ↔
      holds document)
    (bytes : ByteArray) :
    (∃ value, guarded catches fallback (readJson library (.holds bytes) >>= takesApart) =
      .ok value) ↔ Loads library holds bytes := by
  rw [guarded_returns_iff, read_json_of_bytes]
  unfold Loads
  cases String.fromUTF8? bytes with
  | none =>
      apply iff_of_false
      · intro caught
        have unicode := caught .unicodeDecode rfl
        rw [noOther.1] at unicode
        cases unicode
      · rintro ⟨text, same, -⟩
        cases same
  | some text =>
      simp only [Option.some.injEq, exists_eq_left']
      cases library.loads text with
      | ok document =>
          simp only [reduceCtorEq, exists_false, false_or, Except.ok.injEq, exists_eq_left']
          exact takes document
      | error error =>
          simp only [Except.mapError, bind, Except.bind, Except.error.injEq, forall_eq',
            reduceCtorEq, false_and, exists_false, or_false]
          cases error with
          | decode message => simp [decode]
          | digits message => simp [noOther]
          | recursion message => simp [noOther]

theorem fields_taken_iff
    (document : Json) :
    (∀ error, fieldsOf validation document = .error error → error.isFieldsError = true) ↔
      Iterable (entriesOf document) := by
  unfold Iterable fieldsOf iterate
  cases (entriesOf document).iterated with
  | none => exact iff_of_false (fun caught => nomatch caught _ rfl) nofun
  | some entries =>
      apply iff_of_true _ ⟨entries, rfl⟩
      intro error raised
      simp only [bind, Except.bind] at raised
      split at raised
      · cases raised
      · cases raised
        rfl

theorem entry_raises_type
    (entry : String × Json)
    (error : ReadError)
    (raised : allowedEntry str entry = .error error) : error.isAllowedValuesError = true := by
  rcases (bind_eq_error _ _ error).mp raised with notIterable | ⟨items, -, built⟩
  · unfold iterate at notIterable
    split at notIterable
    · cases notIterable
    · cases notIterable
      rfl
  · cases built

theorem entries_raise_type
    (fields : List (String × Json))
    (error : ReadError)
    (raised : fields.mapM (allowedEntry str) = .error error) :
    error.isAllowedValuesError = true := by
  induction fields with
  | nil => cases raised
  | cons field rest ih =>
      rw [List.mapM_cons, bind_eq_error] at raised
      rcases raised with here | ⟨entry, -, later⟩
      · exact entry_raises_type str field error here
      · rcases (bind_eq_error _ _ error).mp later with inRest | ⟨entries, -, built⟩
        · exact ih inRest
        · cases built

/-- Taking the allowed values apart raises nothing but a `TypeError`. -/
theorem allowed_values_taken
    (document : Json)
    (error : ReadError)
    (raised : allowedValuesOf str document = .error error) : error.isAllowedValuesError = true := by
  cases document with
  | obj fields =>
      rcases (bind_eq_error _ _ error).mp raised with inEntry | ⟨entries, -, built⟩
      · exact entries_raise_type str fields error inEntry
      · cases built
  | null | bool | int | float | str | arr =>
      cases raised
      rfl

/-- Fields not read before are returned if the entries of the document can be
gone through. -/
theorem load_fields_returns_iff
    (loader : JiraFieldsLoader)
    (bytes : ByteArray)
    (file : loader.fieldsPath = .holds bytes) :
    (∃ fields, (loadFields library validation loader).1 = .ok fields) ↔
      loader.fields ≠ none ∨
        Loads library (fun document => Iterable (entriesOf document)) bytes := by
  have body := reading_guarded_iff library ReadError.isFieldsError (fun _ => [])
    (fieldsOf validation) _ (fun _ => rfl) ⟨rfl, fun _ => rfl, fun _ => rfl⟩
    (fields_taken_iff validation) bytes
  rw [← body]
  simp only [loadFields, file, readFields]
  cases loader.fields with
  | some fields => simp
  | none =>
      cases guarded ReadError.isFieldsError (fun _ => [])
        (readJson library (.holds bytes) >>= fieldsOf validation) with
      | ok fields => simp
      | error error => simp

theorem load_allowed_values_returns_iff
    (loader : JiraFieldsLoader)
    (bytes : ByteArray)
    (file : loader.allowedValuesPath = .holds bytes) :
    (∃ values, (loadAllowedValues library str loader).1 = .ok values) ↔
      loader.allowedValues ≠ none ∨ Loads library (fun _ => True) bytes := by
  have body := reading_guarded_iff library ReadError.isAllowedValuesError (fun _ => ∅)
    (allowedValuesOf str) (fun _ => True) (fun _ => rfl) ⟨rfl, fun _ => rfl, fun _ => rfl⟩
    (fun document => iff_of_true (allowed_values_taken str document) trivial) bytes
  rw [← body]
  simp only [loadAllowedValues, file, readAllowedValues]
  cases loader.allowedValues with
  | some values => simp
  | none =>
      cases guarded ReadError.isAllowedValuesError (fun _ => ∅)
        (readJson library (.holds bytes) >>= allowedValuesOf str) with
      | ok values => simp
      | error error => simp

end Files

theorem sections_returned_iff
    (side : ArchiveSide)
    (document : Json) :
    (∃ sections, sectionsOf side document = .ok sections) ↔ HasSections document := by
  unfold HasSections Iterable
  cases document with
  | obj fields =>
      simp only [sectionsOf, Json.obj.injEq, exists_eq_left']
      cases ((fieldOf "sections" fields).getD (.arr [])).iterated with
      | none => simp
      | some items =>
          apply iff_of_true _ ⟨items, rfl⟩
          simp only
          split
          · exact ⟨_, rfl⟩
          · exact ⟨_, rfl⟩
  | null | bool | int | float | str | arr => simp [sectionsOf]

theorem read_sections_returns_iff
    (side : ArchiveSide)
    (complaint : ByteArray → String)
    (bytes : ByteArray) :
    (∃ sections, readSections side (contentOf complaint bytes) = .ok sections) ↔
      LoadsReport side bytes := by
  unfold LoadsReport readSections contentOf
  cases side.readFault with
  | some message => simp
  | none =>
      cases String.fromUTF8? bytes with
      | none => simp
      | some text =>
          simp only [ne_eq, not_true_eq_false, false_or, Option.some.injEq, forall_eq']
          cases side.library.loads text with
          | ok document => simp [sections_returned_iff]
          | error error =>
              cases error with
              | decode message => simp
              | digits message => simp
              | recursion message => simp

theorem report_returned_iff
    (side : ArchiveSide)
    (settings : BriefingOrchestrator.BriefingSettings)
    (files : ReportDirectory)
    (reportId : String)
    (complaint : ByteArray → String)
    (sidecar : Option ByteArray)
    (safe : isSafeReportId reportId = true)
    (stored : files.get? (sidecarName reportId) = sidecar.map (contentOf complaint)) :
    (∃ response, getBriefingReport side settings files reportId = .ok response) ↔
      ∀ bytes, sidecar = some bytes → LoadsReport side bytes := by
  simp only [getBriefingReport, safe, Bool.true_eq_false, if_false, stored]
  cases sidecar with
  | none => simp
  | some bytes =>
      simp only [Option.map_some, Option.some.injEq, forall_eq']
      rw [← read_sections_returns_iff side complaint bytes]
      rcases readSections side (contentOf complaint bytes) with error | ⟨message | sections⟩
      · simp
      · simp
      · simp

/-- Which contents each reader returns for: the first two unless they have
returned before, the third for a safe id with a sidecar or without one. -/
theorem malformed_files_returned_iff
    (library : JsonLibrary)
    (validation : ModelValidation)
    (str : Json → String)
    (loader : JiraFieldsLoader)
    (fieldsBytes valuesBytes : ByteArray)
    (fieldsFile : loader.fieldsPath = .holds fieldsBytes)
    (valuesFile : loader.allowedValuesPath = .holds valuesBytes)
    (side : ArchiveSide)
    (settings : BriefingOrchestrator.BriefingSettings)
    (files : ReportDirectory)
    (reportId : String)
    (complaint : ByteArray → String)
    (sidecar : Option ByteArray)
    (safe : isSafeReportId reportId = true)
    (stored : files.get? (sidecarName reportId) = sidecar.map (contentOf complaint)) :
    ((∃ fields, (loadFields library validation loader).1 = .ok fields) ↔
      loader.fields ≠ none ∨
        Loads library (fun document => Iterable (entriesOf document)) fieldsBytes) ∧
    ((∃ values, (loadAllowedValues library str loader).1 = .ok values) ↔
      loader.allowedValues ≠ none ∨ Loads library (fun _ => True) valuesBytes) ∧
    ((∃ response, getBriefingReport side settings files reportId = .ok response) ↔
      ∀ bytes, sidecar = some bytes → LoadsReport side bytes) := by
  refine ⟨?_, ?_, ?_⟩
  · exact load_fields_returns_iff library validation loader fieldsBytes fieldsFile
  · exact load_allowed_values_returns_iff library str loader valuesBytes valuesFile
  · exact report_returned_iff side settings files reportId complaint sidecar safe stored

def sampleLibrary : JsonLibrary where
  dumps _ := ""
  loads := JsonTexts.loads JsonTexts.sampleTables

def decodingArchive : ArchiveSide where
  library := sampleLibrary
  validation := strictValidation
  pathText name := "reports/" ++ name
  reprText text := "\x27" ++ text ++ "\x27"

/-- The document `5`. -/
def bareNumber : ByteArray := ⟨#[0x35]⟩

def strayByte : ByteArray := ⟨#[0xFF]⟩

def loaderOn (bytes : ByteArray) : JiraFieldsLoader where
  fieldsPath := .holds bytes
  allowedValuesPath := .holds bytes

def sidecarOf (reportId : String) (bytes : ByteArray) : ReportDirectory :=
  (∅ : ReportDirectory).set (sidecarName reportId) (contentOf (fun _ => "not UTF-8") bytes)

theorem broken_text_returned_for :
    ((∃ fields, (loadFields sampleLibrary strictValidation
        (loaderOn ⟨#[0x5B]⟩)).1 = .ok fields) ↔
      (loaderOn ⟨#[0x5B]⟩).fields ≠ none ∨
        Loads sampleLibrary (fun document => Iterable (entriesOf document)) ⟨#[0x5B]⟩) ∧
    ((∃ values, (loadAllowedValues sampleLibrary (fun _ => "")
        (loaderOn ⟨#[0x5B]⟩)).1 = .ok values) ↔
      (loaderOn ⟨#[0x5B]⟩).allowedValues ≠ none ∨
        Loads sampleLibrary (fun _ => True) ⟨#[0x5B]⟩) ∧
    ((∃ response, getBriefingReport decodingArchive {} (sidecarOf "r" ⟨#[0x5B]⟩) "r" =
        .ok response) ↔
      ∀ bytes, some ⟨#[0x5B]⟩ = some bytes → LoadsReport decodingArchive bytes) :=
  malformed_files_returned_iff sampleLibrary strictValidation (fun _ => "") (loaderOn ⟨#[0x5B]⟩)
    _ _ rfl rfl decodingArchive {} (sidecarOf "r" ⟨#[0x5B]⟩) "r" (fun _ => "not UTF-8")
    (some ⟨#[0x5B]⟩)
    (by decide +kernel) (OrderedDict.get?_set_self _ _ _)

theorem malformed_files_raise :
    (loadFields sampleLibrary strictValidation (loaderOn strayByte)).1 = .error .unicodeDecode ∧
    (loadFields sampleLibrary strictValidation (loaderOn bareNumber)).1 =
      .error (.type "'int' object is not iterable") ∧
    (loadAllowedValues sampleLibrary (fun _ => "") (loaderOn strayByte)).1 =
      .error .unicodeDecode ∧
    isSafeReportId "r" = true ∧
    getBriefingReport decodingArchive {} (sidecarOf "r" bareNumber) "r" =
      .error (.other "'int' object has no attribute 'get'") := by
  have noText : readJson sampleLibrary (.holds strayByte) = .error .unicodeDecode := by
    have undecoded : String.fromUTF8? strayByte = none := by decide +kernel
    rw [read_json_of_bytes, undecoded]
  have five : String.fromUTF8? bareNumber = some "5" := by decide +kernel
  have decoded : sampleLibrary.loads "5" = .ok (.int 5) := by rfl
  have number : readJson sampleLibrary (.holds bareNumber) = .ok (.int 5) := by
    rw [read_json_of_bytes, five]
    simp only [decoded, Except.mapError]
  have safe : isSafeReportId "r" = true := by decide +kernel
  refine ⟨?_, ?_, ?_, safe, ?_⟩
  · simp only [loadFields, loaderOn, readFields, noText]
    rfl
  · simp only [loadFields, loaderOn, readFields, number]
    rfl
  · simp only [loadAllowedValues, loaderOn, readAllowedValues, noText]
    rfl
  · have notRead : readSections decodingArchive (.ok "5") =
        .error (.other "'int' object has no attribute 'get'") := by
      simp only [readSections, decodingArchive, decoded]
      rfl
    simp only [getBriefingReport, safe, sidecarOf, OrderedDict.get?_set_self, contentOf, five,
      notRead]
    rfl

end AtlasMindNetra.JiraMetadata
