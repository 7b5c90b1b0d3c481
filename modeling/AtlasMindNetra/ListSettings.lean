import AtlasMindNetra.JsonTexts
import AtlasMindNetra.TrimRules

/-!
# List settings

`_parse_csv_or_json_list` of `config/settings.py`, the validator of the list
fields. Items of a list and of a JSON array are stripped last; those of the CSV
form are stripped before their quotes are.
-/

namespace AtlasMindNetra.ListSettings

open AtlasMindNetra.JsonTrees AtlasMindNetra.JsonTexts AtlasMindNetra.TrimRules

set_option autoImplicit false

inductive Item (Object : Type) where
  | text (value : String)
  | object (value : Object)

/-- A field's value before validation. -/
inductive SettingValue (Object : Type) where
  | text (value : String)
  | list (items : List (Item Object))
  | object (value : Object)

/-- The objects that are no texts, and the limits of the JSON decoder. -/
structure ObjectSide (Object : Type) where
  tables : Tables
  ofJson : Json → Object
  str : Object → String

/-- The white space of `str.strip`. -/
def isSpace (char : Char) : Bool :=
  let code := char.toNat
  decide (0x09 ≤ code ∧ code ≤ 0x0D) || decide (0x1C ≤ code ∧ code ≤ 0x20) ||
    decide (0x2000 ≤ code ∧ code ≤ 0x200A) ||
      [0x85, 0xA0, 0x1680, 0x2028, 0x2029, 0x202F, 0x205F, 0x3000].contains code

def isDouble (char : Char) : Bool := char == '"'

def isSingle (char : Char) : Bool := char == '\''

/-- `text.strip()` -/
def strip (text : String) : String := String.ofList (trim isSpace text.toList)

/-- `text.startswith("[")` -/
def startsArray (text : String) : Bool := text.toList.head? == some '['

section Parser

variable {Object : Type} (side : ObjectSide Object)

def strOf : Item Object → String
  | .text value => value
  | .object value => side.str value

def itemOf : Json → Item Object
  | .str text => .text text
  | document => .object (side.ofJson document)

/-- `[str(item).strip() for item in items if str(item).strip()]` -/
def strippedItems (items : List (Item Object)) : List String :=
  (items.map fun item => strip (strOf side item)).filter (· ≠ "")

/-- `v.split(",")` -/
def csvParts (text : String) : List (List Char) := text.toList.splitOn ','

/-- `part.strip().strip('"').strip("'")` -/
def csvItem (part : List Char) : List Char := trim isSingle (trim isDouble (trim isSpace part))

def csvItems (text : String) : List String :=
  ((csvParts text).map fun part => String.ofList (csvItem part)).filter (· ≠ "")

def listOf (items : List String) : SettingValue Object := .list (items.map .text)

def parseCsvOrJsonList : SettingValue Object → Except LoadError (SettingValue Object)
  | .text value =>
      let stripped := strip value
      if stripped = "" then .ok (listOf [])
      else if startsArray stripped then
        match loads side.tables stripped with
        | .ok (.arr items) => .ok (listOf (strippedItems side (items.map (itemOf side))))
        | .ok _ | .error (.decode _) => .ok (listOf (csvItems value))
        | .error error => .error error
      else .ok (listOf (csvItems value))
  | .list items => .ok (listOf (strippedItems side items))
  | .object value => .ok (.object value)

end Parser

/-- Not empty, without white space at an end. -/
structure IsItem (item : String) : Prop where
  nonempty : item ≠ ""
  trimmed : Trimmed isSpace item.toList

/-- An item without commas, quotes and a leading bracket. -/
structure IsPlainItem (item : String) : Prop extends IsItem item where
  noComma : ',' ∉ item.toList
  noDouble : '"' ∉ item.toList
  noSingle : '\'' ∉ item.toList
  noBracket : item.toList.head? ≠ some '['

instance (item : String) : Decidable (IsPlainItem item) :=
  decidable_of_iff
    (item ≠ "" ∧ Trimmed isSpace item.toList ∧ ',' ∉ item.toList ∧ '"' ∉ item.toList ∧
      '\'' ∉ item.toList ∧ item.toList.head? ≠ some '[')
    ⟨fun ⟨nonempty, trimmed, noComma, noDouble, noSingle, noBracket⟩ =>
      ⟨⟨nonempty, trimmed⟩, noComma, noDouble, noSingle, noBracket⟩,
    fun plain => ⟨plain.nonempty, plain.trimmed, plain.noComma, plain.noDouble, plain.noSingle,
      plain.noBracket⟩⟩

theorem strip_item
    (item : String)
    (trimmed : Trimmed isSpace item.toList) : strip item = item := by
  rw [strip, trim_of_trimmed _ trimmed, String.ofList_toList]

theorem strip_trimmed
    (text : String) : Trimmed isSpace (strip text).toList := by
  rw [strip, String.toList_ofList]
  exact trim_trimmed text.toList

section Lists

variable {Object : Type} (side : ObjectSide Object)

theorem stripped_items_are_items
    (items : List (Item Object))
    (item : String)
    (member : item ∈ strippedItems side items) : IsItem item := by
  rcases List.mem_filter.mp member with ⟨inMap, kept⟩
  rcases List.mem_map.mp inMap with ⟨given, -, rfl⟩
  exact ⟨of_decide_eq_true kept, strip_trimmed _⟩

theorem stripped_items_same
    (items : List String)
    (areItems : ∀ item ∈ items, IsItem item) : strippedItems side (items.map .text) = items := by
  have same : (items.map Item.text).map (fun item => strip (strOf side item)) = items := by
    rw [List.map_map]
    calc
      items.map ((fun item => strip (strOf side item)) ∘ Item.text) = items.map id :=
        List.map_congr_left fun item member => strip_item item (areItems item member).trimmed
      _ = items := List.map_id items
  rw [strippedItems, same, List.filter_eq_self]
  exact fun item member => decide_eq_true (areItems item member).nonempty

/-- The value becomes a list of items that stays as it is. -/
def Normalises (value : SettingValue Object) : Prop :=
  ∃ items, parseCsvOrJsonList side value = .ok (listOf items) ∧ (∀ item ∈ items, IsItem item) ∧
    parseCsvOrJsonList side (listOf items) = .ok (listOf items)

theorem list_of_injective : Function.Injective (listOf : List String → SettingValue Object) := by
  intro items others same
  have texts : Function.Injective (Item.text : String → Item Object) := by
    intro text other equal
    cases equal
    rfl
  exact List.map_injective_iff.mpr texts (SettingValue.list.inj same)

theorem returned_normalises_iff
    (value : SettingValue Object)
    (items : List String)
    (returned : parseCsvOrJsonList side value = .ok (listOf items)) :
    Normalises side value ↔ ∀ item ∈ items, IsItem item := by
  constructor
  · rintro ⟨others, returnedOthers, areItems, -⟩
    have same := list_of_injective (Except.ok.inj (returned.symm.trans returnedOthers))
    rw [same]
    exact areItems
  · intro areItems
    have again : parseCsvOrJsonList side (listOf items) = .ok (listOf items) := by
      rw [listOf, parseCsvOrJsonList, stripped_items_same side items areItems, listOf]
    exact ⟨items, returned, areItems, again⟩

theorem list_normalises
    (items : List (Item Object)) : Normalises side (.list items) :=
  (returned_normalises_iff side _ _ rfl).mpr (stripped_items_are_items side items)

end Lists

/-- Quotes, the double ones first, and white space behind them. -/
def LeadsToSpace (chars : List Char) : Prop :=
  ∃ char, isSpace char = true ∧ Leads [isDouble, isSingle] char chars

/-- Taking the quotes off the stripped part exposes no white space at either end. -/
def CleanPart (part : List Char) : Prop :=
  ¬ LeadsToSpace (trim isSpace part) ∧ ¬ LeadsToSpace (trim isSpace part).reverse

theorem quotes_apart : [isDouble, isSingle].Pairwise Apart := by
  apply List.pairwise_pair.mpr
  intro char double
  rw [beq_iff_eq.mp double]
  rfl

theorem space_apart
    (mark : Char)
    (printed : isSpace mark = false) : Apart isSpace (fun char => char == mark) := by
  intro char space
  apply beq_false_of_ne
  rintro rfl
  rw [printed] at space
  cases space

theorem spaces_apart : ∀ isQuote ∈ [isDouble, isSingle], Apart isSpace isQuote := by
  simp only [List.forall_mem_cons]
  exact ⟨space_apart '"' rfl, space_apart '\'' rfl, nofun⟩

theorem csv_item_trimmed_iff
    (part : List Char) : Trimmed isSpace (csvItem part) ↔ CleanPart part := by
  have ends := trim_all_trimmed_iff [isDouble, isSingle] quotes_apart isSpace spaces_apart
    (trim isSpace part)
  refine ends.trans ⟨fun none => ⟨?_, ?_⟩, fun clean char space => ⟨?_, ?_⟩⟩
  · exact fun ⟨char, space, leads⟩ => (none char space).1 leads
  · exact fun ⟨char, space, leads⟩ => (none char space).2 leads
  · exact fun leads => clean.1 ⟨char, space, leads⟩
  · exact fun leads => clean.2 ⟨char, space, leads⟩

theorem csv_items_are_items_iff
    (text : String) :
    (∀ item ∈ csvItems text, IsItem item) ↔ ∀ part ∈ csvParts text, CleanPart part := by
  constructor
  · intro areItems part member
    rw [← csv_item_trimmed_iff]
    by_cases empty : String.ofList (csvItem part) = ""
    · have nothing : csvItem part = [] := String.ofList_eq_empty_iff.mp empty
      rw [nothing]
      exact ⟨nofun, nofun⟩
    · have inItems : String.ofList (csvItem part) ∈ csvItems text :=
        List.mem_filter.mpr ⟨List.mem_map_of_mem member, decide_eq_true empty⟩
      have trimmed := (areItems _ inItems).trimmed
      rw [String.toList_ofList] at trimmed
      exact trimmed
  · intro clean item member
    rcases List.mem_filter.mp member with ⟨inMap, kept⟩
    rcases List.mem_map.mp inMap with ⟨part, isPart, rfl⟩
    refine ⟨of_decide_eq_true kept, ?_⟩
    rw [String.toList_ofList, csv_item_trimmed_iff]
    exact clean part isPart

section Texts

variable {Object : Type} (side : ObjectSide Object)

/-- The text is taken for a JSON array, and decoding it fails by its numbers or
its depth. -/
def DecodingRaises (stripped : String) : Prop :=
  startsArray stripped = true ∧
    ∃ error, loads side.tables stripped = .error error ∧ ∀ message, error ≠ .decode message

def DecodesToArray (stripped : String) : Prop :=
  startsArray stripped = true ∧ ∃ items, loads side.tables stripped = .ok (.arr items)

/-- The text is empty, or a JSON array, or its CSV form is clean. -/
def TakenCleanly (text : String) : Prop :=
  strip text = "" ∨ DecodesToArray side (strip text) ∨
    (¬ DecodingRaises side (strip text) ∧ ∀ part ∈ csvParts text, CleanPart part)

theorem parsed_as_array
    (text : String)
    (nonempty : strip text ≠ "")
    (items : List Json)
    (starts : startsArray (strip text) = true)
    (loaded : loads side.tables (strip text) = .ok (.arr items)) :
    parseCsvOrJsonList side (.text text) =
      .ok (listOf (strippedItems side (items.map (itemOf side)))) := by
  simp only [parseCsvOrJsonList, if_neg nonempty, if_pos starts, loaded]

theorem parsed_as_csv
    (text : String)
    (nonempty : strip text ≠ "")
    (noArray : ¬ DecodesToArray side (strip text))
    (noFault : ¬ DecodingRaises side (strip text)) :
    parseCsvOrJsonList side (.text text) = .ok (listOf (csvItems text)) := by
  simp only [parseCsvOrJsonList, if_neg nonempty]
  by_cases starts : startsArray (strip text) = true
  · rw [if_pos starts]
    cases loaded : loads side.tables (strip text) with
    | ok document =>
        cases document with
        | arr items => exact absurd ⟨starts, items, loaded⟩ noArray
        | null | bool | int | float | str | obj => rfl
    | error error =>
        cases error with
        | decode message => rfl
        | digits | recursion => exact absurd ⟨starts, _, loaded, nofun⟩ noFault
  · rw [if_neg starts]

theorem decoding_raises
    (text : String)
    (nonempty : strip text ≠ "")
    (raises : DecodingRaises side (strip text)) :
    ∃ error, parseCsvOrJsonList side (.text text) = .error error := by
  rcases raises with ⟨starts, error, loaded, noDecode⟩
  refine ⟨error, ?_⟩
  simp only [parseCsvOrJsonList, if_neg nonempty, if_pos starts, loaded]

theorem text_normalises_iff
    (text : String) : Normalises side (.text text) ↔ TakenCleanly side text := by
  by_cases empty : strip text = ""
  · have returned : parseCsvOrJsonList side (.text text) = .ok (listOf []) := by
      simp only [parseCsvOrJsonList, if_pos empty]
    exact iff_of_true ((returned_normalises_iff side _ [] returned).mpr nofun) (Or.inl empty)
  · by_cases array : DecodesToArray side (strip text)
    · rcases array with ⟨starts, items, loaded⟩
      have returned := parsed_as_array side text empty items starts loaded
      apply iff_of_true _ (Or.inr (Or.inl ⟨starts, items, loaded⟩))
      exact (returned_normalises_iff side _ _ returned).mpr (stripped_items_are_items side _)
    · unfold TakenCleanly
      simp only [empty, array, false_or]
      by_cases raises : DecodingRaises side (strip text)
      · rcases decoding_raises side text empty raises with ⟨error, raised⟩
        apply iff_of_false
        · rintro ⟨items, returned, -⟩
          rw [raised] at returned
          cases returned
        · exact fun both => both.1 raises
      · have returned := parsed_as_csv side text empty array raises
        rw [returned_normalises_iff side _ _ returned, csv_items_are_items_iff]
        exact (and_iff_right raises).symm

theorem lacks_mark
    (mark : Char)
    (text : List Char)
    (absent : mark ∉ text) : ∀ char ∈ text, (char == mark) = false := by
  intro char member
  apply beq_false_of_ne
  rintro rfl
  exact absent member

theorem csv_item_plain
    (item : String)
    (plain : IsPlainItem item) : csvItem item.toList = item.toList := by
  have same : csvItem item.toList = trimAll [isDouble, isSingle] item.toList := by
    rw [csvItem, trim_of_trimmed _ plain.trimmed]
    rfl
  rw [same]
  apply trim_all_plain
  simp only [List.forall_mem_cons]
  exact ⟨lacks_mark '"' _ plain.noDouble, lacks_mark '\'' _ plain.noSingle, nofun⟩

theorem csv_joined
    (items : List String)
    (plain : ∀ item ∈ items, IsPlainItem item)
    (nonempty : items ≠ []) : csvItems (String.intercalate "," items) = items := by
  have parts : csvParts (String.intercalate "," items) = items.map String.toList := by
    rw [csvParts, String.toList_intercalate]
    apply List.splitOn_intercalate
    · intro chars member
      rcases List.mem_map.mp member with ⟨item, listed, rfl⟩
      exact (plain item listed).noComma
    · exact fun none => nonempty (List.map_eq_nil_iff.mp none)
  have same : (items.map String.toList).map (fun part => String.ofList (csvItem part)) = items := by
    rw [List.map_map]
    calc
      items.map ((fun part => String.ofList (csvItem part)) ∘ String.toList) = items.map id :=
        List.map_congr_left fun item member => by
          rw [Function.comp_apply, csv_item_plain item (plain item member),
            String.ofList_toList, id]
      _ = items := List.map_id items
  rw [csvItems, parts, same, List.filter_eq_self]
  exact fun item member => decide_eq_true (plain item member).nonempty

theorem strip_opens
    (first : Char)
    (rest : List Char)
    (printed : isSpace first = false) :
    ∃ more, (strip (String.ofList (first :: rest))).toList = first :: more := by
  rw [strip, String.toList_ofList, String.toList_ofList]
  exact ⟨_, trim_behind_run [] rest first nofun printed⟩

theorem joined_starts
    (item : String)
    (items : List String)
    (plain : IsPlainItem item) :
    strip (String.intercalate "," (item :: items)) ≠ "" ∧
      startsArray (strip (String.intercalate "," (item :: items))) = false := by
  have joined : ∃ more, (String.intercalate "," (item :: items)).toList = item.toList ++ more := by
    cases items with
    | nil => exact ⟨[], by rw [String.intercalate_singleton, List.append_nil]⟩
    | cons next items =>
        rw [String.intercalate_cons_cons, String.append_assoc, String.toList_append]
        exact ⟨_, rfl⟩
  rcases joined with ⟨more, joined⟩
  cases chars : item.toList with
  | nil => exact absurd (String.toList_eq_nil_iff.mp chars) plain.nonempty
  | cons first rest =>
      have printed : isSpace first = false := plain.trimmed.first first (by rw [chars]; rfl)
      have noBracket : first ≠ '[' := by
        intro same
        apply plain.noBracket
        rw [chars, same]
        rfl
      rw [chars, List.cons_append] at joined
      rcases strip_opens first (rest ++ more) printed with ⟨after, opens⟩
      rw [← joined, String.ofList_toList] at opens
      constructor
      · intro empty
        rw [empty] at opens
        cases opens
      · rw [startsArray, opens]
        exact beq_false_of_ne fun same => noBracket (Option.some.inj same)

theorem csv_form_parsed
    (items : List String)
    (plain : ∀ item ∈ items, IsPlainItem item) :
    parseCsvOrJsonList side (.text (String.intercalate "," items)) = .ok (listOf items) := by
  cases items with
  | nil => rfl
  | cons item items =>
      have starts := joined_starts item items (plain item List.mem_cons_self)
      have noBracket : ¬ startsArray (strip (String.intercalate "," (item :: items))) = true := by
        rw [starts.2]
        exact nofun
      have returned := parsed_as_csv side (String.intercalate "," (item :: items)) starts.1
        (fun array => noBracket array.1) (fun raises => noBracket raises.1)
      rw [returned, csv_joined (item :: items) plain (List.cons_ne_nil item items)]

theorem array_form_parsed
    (items : List String)
    (areItems : ∀ item ∈ items, IsItem item)
    (text : List Char)
    (isArray : ArrayText items text) :
    parseCsvOrJsonList side (.text (String.ofList text)) = .ok (listOf items) := by
  have loaded : loads side.tables (String.ofList text) = .ok (.arr (items.map .str)) := by
    rw [loads, String.toList_ofList, decode_array_text side.tables items text isArray]
  rcases isArray with ⟨inner, rfl, -⟩
  have same : strip (String.ofList ('[' :: (inner ++ [']']))) =
      String.ofList ('[' :: (inner ++ [']'])) := by
    apply strip_item
    rw [String.toList_ofList]
    constructor
    · intro char first
      cases first
      decide
    · intro char last
      rw [← List.cons_append, List.getLast?_concat] at last
      cases last
      decide
  have nonempty : strip (String.ofList ('[' :: (inner ++ [']']))) ≠ "" := by
    rw [same]
    exact fun empty => List.cons_ne_nil _ _ (String.ofList_eq_empty_iff.mp empty)
  have starts : startsArray (strip (String.ofList ('[' :: (inner ++ [']'])))) = true := by
    rw [same, startsArray, String.toList_ofList]
    rfl
  rw [← same] at loaded
  rw [parsed_as_array side _ nonempty _ starts loaded, List.map_map]
  exact congrArg (fun items => Except.ok (listOf items)) (stripped_items_same side items areItems)

end Texts

/-- Every list and every text that is taken cleanly is normalised, and a list of
plain items is read back from both of its forms. -/
theorem list_settings_normalise_iff
    {Object : Type}
    (side : ObjectSide Object) :
    (∀ text, Normalises side (.text text) ↔ TakenCleanly side text) ∧
    (∀ items, Normalises side (.list items)) ∧
    ∀ items : List String, (∀ item ∈ items, IsPlainItem item) →
      parseCsvOrJsonList side (.text (String.intercalate "," items)) = .ok (listOf items) ∧
        ∀ text, ArrayText items text →
          parseCsvOrJsonList side (.text (String.ofList text)) = .ok (listOf items) := by
  refine ⟨text_normalises_iff side, list_normalises side, fun items plain => ⟨?_, ?_⟩⟩
  · exact csv_form_parsed side items plain
  · exact array_form_parsed side items fun item member => (plain item member).toIsItem

def sampleSide : ObjectSide Unit where
  tables := sampleTables
  ofJson _ := ()
  str _ := "None"

theorem plain_names_parsed :
    (∀ item ∈ ["ENG", "On Hold"], IsPlainItem item) ∧
      parseCsvOrJsonList sampleSide (.text "ENG,On Hold") = .ok (listOf ["ENG", "On Hold"]) ∧
      parseCsvOrJsonList sampleSide (.text (String.ofList (writeArray ["ENG", "On Hold"]))) =
        .ok (listOf ["ENG", "On Hold"]) := by
  have plain : ∀ item ∈ ["ENG", "On Hold"], IsPlainItem item := by decide +kernel
  have joined : String.intercalate "," ["ENG", "On Hold"] = "ENG,On Hold" := by decide +kernel
  have parsed := (list_settings_normalise_iff sampleSide).2.2 ["ENG", "On Hold"] plain
  rw [joined] at parsed
  exact ⟨plain, parsed.1, parsed.2 _ (array_text_written ["ENG", "On Hold"])⟩

theorem quoted_space_kept :
    parseCsvOrJsonList sampleSide (.text "\" a \"") = .ok (listOf [" a "]) ∧
    parseCsvOrJsonList sampleSide (listOf [" a "]) = .ok (listOf ["a"]) := by
  constructor
  · rfl
  · rfl

end AtlasMindNetra.ListSettings
