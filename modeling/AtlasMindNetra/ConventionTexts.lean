import AtlasMindNetra.ConventionFile
import AtlasMindNetra.JiraMetadata
import AtlasMindNetra.JsonWriting

/-!
# The conventions file as a text

`_load` and `_persist` of `memory/conventions_store.py` on the bytes of the
file. `ConventionFile` has the decoded content of the file in its place; a run
of the store on bytes is a run of that one, whatever the terms are made of.
-/

namespace AtlasMindNetra.ConventionTexts

open AtlasMindNetra.PythonValues AtlasMindNetra.JsonTrees AtlasMindNetra.JsonTexts
open AtlasMindNetra.JsonWriting AtlasMindNetra.EffectRules
open AtlasMindNetra.BriefingArchive (JsonLibrary)
open AtlasMindNetra.JiraMetadata (MetadataFile ReadError readJson iterate)
open AtlasMindNetra.ConventionsStore
open AtlasMindNetra.ConventionsStore.JsonFileConventionsStore

set_option autoImplicit false

/-- `json.dumps(_, indent=2)` and `json.loads` of an interpreter. -/
def pythonJson (tables : Tables) (floatText : Rat → List Char) : JsonLibrary where
  dumps := writeDocument (indented floatText)
  loads := loads tables

/-- The scalars of `Convention.model_validate`. A datetime is the text that
`model_dump(mode="json")` writes for it. -/
structure ConventionValidation where
  toStr : Json → Option String
  toMoment : Json → Option String

/-- `Convention.model_dump(mode="json")` -/
def dumpConvention (convention : Convention) : Json :=
  .obj [("project", .str convention.project),
    ("term", .str convention.term),
    ("resolution_key", .str convention.resolutionKey),
    ("jql_hint", .str convention.jqlHint),
    ("learned_at", .str convention.learnedAt)]

/-- What loading the file ends in other than conventions: a `ConfigError`, or an
error that `_load` does not catch. -/
inductive LoadFailure where
  | config (cause : ReadError)
  | raised (cause : ReadError)

/-- `except (OSError, json.JSONDecodeError, ValidationError, TypeError)` -/
def LoadFailure.of : ReadError → LoadFailure
  | .os message => .config (.os message)
  | .load (.decode message) => .config (.load (.decode message))
  | .validation => .config .validation
  | .type message => .config (.type message)
  | other => .raised other

structure ConventionFiles where
  items : OrderedDict (String × String) Convention := ∅
  file : MetadataFile := .absent

section Store

variable (tables : TextTables) (library : JsonLibrary) (validation : ConventionValidation)

/-- `Convention.model_validate` at the time `now`. -/
def validateConvention (now : String) : Json → Option Convention
  | .obj fields => do
      let project ← requiredField "project" validation.toStr fields
      let term ← requiredField "term" validation.toStr fields
      let resolutionKey ← requiredField "resolution_key" validation.toStr fields
      let jqlHint ← requiredField "jql_hint" validation.toStr fields
      let learnedAt ← defaultField "learned_at" validation.toMoment now fields
      pure {
        project := project
        term := term
        resolutionKey := resolutionKey
        jqlHint := jqlHint
        learnedAt := learnedAt }
  | _ => none

/-- `[Convention.model_validate(item) for item in raw]` -/
def conventionsOf (now : String) (raw : Json) : Except ReadError (List Convention) := do
  let items ← iterate raw
  match items.mapM (validateConvention validation now) with
  | some conventions => .ok conventions
  | none => .error .validation

def readConventions (now : String) (file : MetadataFile) : Except ReadError (List Convention) :=
  readJson library file >>= conventionsOf validation now

/-- `_load` -/
def loadItems (now : String) :
    MetadataFile → Except LoadFailure (OrderedDict (String × String) Convention)
  | .absent => .ok ∅
  | file =>
      ((readConventions library validation now file).mapError LoadFailure.of).map
        fun conventions => (load tables conventions).items

/-- `__init__` -/
def openFiles (now : String) (file : MetadataFile) : Except LoadFailure ConventionFiles :=
  (loadItems tables library validation now file).map fun items => { items := items, file := file }

/-- `_persist` when every step of the write succeeds. -/
def persistText (files : ConventionFiles) : ConventionFiles :=
  { files with
    file := .holds (library.dumps (.arr (files.items.values.map dumpConvention))).toUTF8 }

/-- `set` and `delete`. -/
def textCall (files : ConventionFiles) : StoreCall → ConventionFiles
  | .set convention =>
      persistText library
        { files with items := files.items.set (ownKey tables convention) convention }
  | .delete project term =>
      match files.items.get? (key tables project term) with
      | some _ =>
          persistText library
            { files with items := files.items.erase (key tables project term) }
      | none => files

/-- A call, or the end of the process and a start at the time `now`. -/
inductive TextEvent where
  | called (call : StoreCall)
  | restarted (now : String)

def afterTextEvent (files : ConventionFiles) : TextEvent → Except LoadFailure ConventionFiles
  | .called call => .ok (textCall tables library files call)
  | .restarted now => openFiles tables library validation now files.file

def TextEvent.decoded : TextEvent → StoreEvent
  | .called call => .called call
  | .restarted _ => .restarted

/-- A text is taken as it is, and a datetime that is dumped is validated to itself. -/
structure TakesOwnTexts (validation : ConventionValidation) : Prop where
  str : ∀ text, validation.toStr (.str text) = some text
  moment : ∀ written moment, validation.toMoment written = some moment →
    validation.toMoment (.str moment) = some moment

def IsMoment (text : String) : Prop := ∃ written, validation.toMoment written = some text

variable {library validation}

theorem convention_read_back
    (takes : TakesOwnTexts validation)
    (now : String)
    (convention : Convention)
    (moment : IsMoment validation convention.learnedAt) :
    validateConvention validation now (dumpConvention convention) = some convention := by
  rcases moment with ⟨written, dumped⟩
  have learnedAt := takes.moment written _ dumped
  simp [dumpConvention, validateConvention, requiredField, defaultField, field_cons, takes.str,
    learnedAt]

theorem read_json_of_text (text : String) :
    readJson library (.holds text.toUTF8) = (library.loads text).mapError .load := by
  have decoded : String.fromUTF8? text.toUTF8 = some text := dif_pos text.isValidUTF8
  simp only [readJson, JiraMetadata.readText, decoded]
  rfl

theorem conventions_read_back
    (takes : TakesOwnTexts validation)
    (now : String)
    (conventions : List Convention)
    (moments : ∀ convention ∈ conventions, IsMoment validation convention.learnedAt)
    (readsBack : library.loads (library.dumps (.arr (conventions.map dumpConvention))) =
      .ok (.arr (conventions.map dumpConvention))) :
    readConventions library validation now
        (.holds (library.dumps (.arr (conventions.map dumpConvention))).toUTF8) =
      .ok conventions := by
  have validated : (conventions.map dumpConvention).mapM (validateConvention validation now) =
      some conventions := read_list_written conventions fun convention member =>
    convention_read_back takes now convention (moments convention member)
  have iterated : iterate (.arr (conventions.map dumpConvention)) =
      .ok (conventions.map dumpConvention) := rfl
  rw [readConventions, read_json_of_text, readsBack]
  simp only [Except.mapError, bind, Except.bind, conventionsOf, iterated, validated]

end Store

theorem conventions_readable
    (tables : Tables)
    (style : Style)
    (conventions : List Convention) :
    Readable tables style 2 (.arr (conventions.map dumpConvention)) := by
  apply Readable.arr
  intro item member
  rcases List.mem_map.mp member with ⟨convention, _, rfl⟩
  apply Readable.obj
  · simp
  · intro field member
    simp only [List.mem_cons, List.not_mem_nil, or_false] at member
    rcases member with rfl | rfl | rfl | rfl | rfl <;> exact Readable.str 0 _

section Runs

variable (tables : TextTables) (json : Tables) (floatText : Rat → List Char)
variable (validation : ConventionValidation)

/-- The file holds the conventions, whenever it is read. -/
inductive HoldsConventions : MetadataFile → Option (List Convention) → Prop where
  | absent : HoldsConventions .absent none
  | present (file : MetadataFile) (conventions : List Convention) :
      file ≠ .absent →
      (∀ now, readConventions (pythonJson json floatText) validation now file = .ok conventions) →
      (∀ convention ∈ conventions, IsMoment validation convention.learnedAt) →
      HoldsConventions file (some conventions)

/-- The store on bytes has what the store on decoded content has. -/
structure Shows (files : ConventionFiles) (store : JsonFileConventionsStore) : Prop where
  items : files.items = store.items
  file : HoldsConventions json floatText validation files.file store.file
  moments : ∀ convention ∈ store.items.values, IsMoment validation convention.learnedAt

def TextEvent.Timed : TextEvent → Prop
  | .called (.set convention) => IsMoment validation convention.learnedAt
  | _ => True

variable {json floatText validation}

theorem loaded_values_filed
    (conventions : List Convention)
    (convention : Convention)
    (member : convention ∈ (load tables conventions).items.values) :
    convention ∈ conventions := by
  rcases (OrderedDict.mem_values_iff _ convention).mp member with ⟨place, found⟩
  rw [get?_load] at found
  exact CacheRules.last_filed_mem found

theorem load_items_held
    (now : String)
    (file : MetadataFile)
    (decoded : Option (List Convention))
    (holds : HoldsConventions json floatText validation file decoded) :
    loadItems tables (pythonJson json floatText) validation now file =
        .ok (openFile tables decoded).items ∧
      ∀ convention ∈ (openFile tables decoded).items.values,
        IsMoment validation convention.learnedAt := by
  cases holds with
  | absent =>
      apply And.intro rfl
      intro convention member
      cases member
  | present file conventions there reads moments =>
      constructor
      · cases file with
        | absent => exact absurd rfl there
        | unreadable message =>
            simp only [loadItems, reads now]
            rfl
        | holds bytes =>
            simp only [loadItems, reads now]
            rfl
      · intro convention member
        exact moments convention (loaded_values_filed tables conventions convention member)

theorem opened_shows
    (now : String)
    (file : MetadataFile)
    (decoded : Option (List Convention))
    (holds : HoldsConventions json floatText validation file decoded) :
    ∃ files, openFiles tables (pythonJson json floatText) validation now file = .ok files ∧
      Shows json floatText validation files (openFile tables decoded) := by
  have loaded := load_items_held tables now file decoded holds
  refine ⟨{ items := (openFile tables decoded).items, file := file }, ?_, ?_⟩
  · rw [openFiles, loaded.1]
    rfl
  · have same : (openFile tables decoded).file = decoded := by cases decoded <;> rfl
    exact ⟨rfl, same.symm ▸ holds, loaded.2⟩

theorem persisted_shows
    (takes : TakesOwnTexts validation)
    (nested : 2 ≤ json.maxDepth)
    (files : ConventionFiles)
    (store : JsonFileConventionsStore)
    (items : files.items = store.items)
    (moments : ∀ convention ∈ store.items.values, IsMoment validation convention.learnedAt) :
    Shows json floatText validation (persistText (pythonJson json floatText) files)
      store.persist := by
  have readsBack := document_read_back json (indented floatText) 2 _
    (conventions_readable json (indented floatText) files.items.values) nested
  constructor
  · exact items
  · rw [persist, ← items]
    apply HoldsConventions.present
    · intro absent
      cases absent
    · intro now
      apply conventions_read_back takes now _ _ readsBack
      rw [items]
      exact moments
    · rw [items]
      exact moments
  · exact moments

theorem call_shows
    (takes : TakesOwnTexts validation)
    (nested : 2 ≤ json.maxDepth)
    (files : ConventionFiles)
    (store : JsonFileConventionsStore)
    (shows : Shows json floatText validation files store)
    (call : StoreCall)
    (timed : (TextEvent.called call).Timed validation) :
    Shows json floatText validation (textCall tables (pythonJson json floatText) files call)
      (storeCall tables none store call).2 := by
  cases call with
  | set convention =>
      apply persisted_shows takes nested
      · change files.items.set _ _ = store.items.set _ _
        rw [shows.items]
        rfl
      · intro other member
        rcases (OrderedDict.mem_values_iff _ other).mp member with ⟨place, found⟩
        rw [remember, OrderedDict.get?_set] at found
        split_ifs at found
        · cases found
          exact timed
        · exact shows.moments other ((OrderedDict.mem_values_iff _ other).mpr ⟨place, found⟩)
  | delete project term =>
      cases present : store.items.get? (key tables project term) with
      | none =>
          simp only [textCall, storeCall, shows.items, present]
          exact shows
      | some held =>
          simp only [textCall, storeCall, shows.items, present]
          apply persisted_shows takes nested
          · rfl
          · intro other member
            rcases (OrderedDict.mem_values_iff _ other).mp member with ⟨place, found⟩
            have kept := CacheRules.get?_of_erase _ _ place other found
            exact shows.moments other ((OrderedDict.mem_values_iff _ other).mpr ⟨place, kept⟩)

theorem event_shows
    (takes : TakesOwnTexts validation)
    (nested : 2 ≤ json.maxDepth)
    (files : ConventionFiles)
    (store : JsonFileConventionsStore)
    (shows : Shows json floatText validation files store)
    (event : TextEvent)
    (timed : event.Timed validation) :
    ∃ next, afterTextEvent tables (pythonJson json floatText) validation files event = .ok next ∧
      Shows json floatText validation next (afterEvent tables store event.decoded) := by
  cases event with
  | called call => exact ⟨_, rfl, call_shows tables takes nested files store shows call timed⟩
  | restarted now => exact opened_shows tables now files.file store.file shows.file

/-- Every run on bytes goes through the conventions that the run on decoded
content goes through. No restart fails, and after the run the file reads back,
at any time, to exactly the conventions in memory. -/
theorem text_store_refines
    (takes : TakesOwnTexts validation)
    (nested : 2 ≤ json.maxDepth)
    (file : MetadataFile)
    (decoded : Option (List Convention))
    (holds : HoldsConventions json floatText validation file decoded)
    (started : String)
    (events : List TextEvent)
    (timed : ∀ event ∈ events, event.Timed validation) :
    ∃ files, (openFiles tables (pythonJson json floatText) validation started file >>= fun start =>
        events.foldlM (afterTextEvent tables (pythonJson json floatText) validation) start) =
          .ok files ∧
      files.items = (afterEvents tables decoded (events.map TextEvent.decoded)).items ∧
      ∀ now, loadItems tables (pythonJson json floatText) validation now files.file =
        .ok files.items := by
  have reached : ∀ (events : List TextEvent) (files : ConventionFiles)
      (store : JsonFileConventionsStore), (∀ event ∈ events, event.Timed validation) →
      Shows json floatText validation files store →
      ∃ final, events.foldlM (afterTextEvent tables (pythonJson json floatText) validation) files =
          .ok final ∧
        Shows json floatText validation final
          ((events.map TextEvent.decoded).foldl (afterEvent tables) store) := by
    intro events
    induction events with
    | nil => exact fun files store _ shows => ⟨files, rfl, shows⟩
    | cons event rest ih =>
        intro files store timed shows
        rw [List.forall_mem_cons] at timed
        rcases event_shows tables takes nested files store shows event timed.1 with
          ⟨next, stepped, shown⟩
        rcases ih next _ timed.2 shown with ⟨final, ran, last⟩
        refine ⟨final, ?_, last⟩
        rw [List.foldlM_cons, stepped]
        exact ran
  rcases opened_shows tables started file decoded holds with ⟨files, opens, shows⟩
  rcases reached events files _ timed shows with ⟨final, ran, shown⟩
  refine ⟨final, ?_, shown.items, ?_⟩
  · rw [opens]
    exact ran
  · intro now
    have copy := (events_copied tables decoded (events.map TextEvent.decoded)).1.copy
    rw [(load_items_held tables now final.file _ shown.file).1, shown.items]
    exact congrArg Except.ok copy

end Runs

def textScalar : Json → Option String
  | .str text => some text
  | _ => none

def sampleValidation : ConventionValidation where
  toStr := textScalar
  toMoment := textScalar

def quotedConvention : Convention where
  project := instanceDefaultProject
  term := "\"größer\"\nals"
  resolutionKey := "custom"
  jqlHint := "priority > High"
  learnedAt := "2026-01-05T09:30:00Z"

def sampleTextEvents : List TextEvent :=
  [.called (.set quotedConvention), .restarted "2026-01-05T10:00:00Z",
    .called (.delete instanceDefaultProject "late"), .restarted "2026-01-06T10:00:00Z"]

theorem sample_text_run :
    ∃ files, (openFiles asciiTables (pythonJson sampleTables fun _ => []) sampleValidation
        "2026-01-05T09:00:00Z" .absent >>= fun start =>
          sampleTextEvents.foldlM (afterTextEvent asciiTables (pythonJson sampleTables fun _ => [])
            sampleValidation) start) = .ok files ∧
      files.items =
        (afterEvents asciiTables none (sampleTextEvents.map TextEvent.decoded)).items ∧
      ∀ now, loadItems asciiTables (pythonJson sampleTables fun _ => []) sampleValidation now
        files.file = .ok files.items := by
  have takes : TakesOwnTexts sampleValidation := by
    constructor
    · exact fun text => rfl
    · intro written moment read
      rfl
  apply text_store_refines asciiTables takes (by decide) .absent none .absent
  intro event member
  simp only [sampleTextEvents, List.mem_cons, List.not_mem_nil, or_false] at member
  rcases member with rfl | rfl | rfl | rfl
  · exact ⟨.str quotedConvention.learnedAt, rfl⟩
  · trivial
  · trivial
  · trivial

end AtlasMindNetra.ConventionTexts
