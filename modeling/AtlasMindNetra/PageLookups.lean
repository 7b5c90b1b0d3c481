import AtlasMindNetra.ConfluenceClient
import AtlasMindNetra.EffectRules
import AtlasMindNetra.PageSections
import Mathlib.Order.Monotone.Defs

/-!
# Lookups in the page cache

`get_page_sections` asks whether a page is cached and then reads it, and each
of the two looks at the clock. A page that expires in between is neither read
nor fetched. `fetch_page_metadata` caches the body of a response as soon as it
has it, whether or not a page can be made of the rest.
-/

namespace AtlasMindNetra.ConfluenceClient

open AtlasMindNetra.PythonValues AtlasMindNetra.JsonTrees AtlasMindNetra.TtlRules
open AtlasMindNetra.AttemptRules AtlasMindNetra.EffectRules AtlasMindNetra.HtmlExtractor

set_option autoImplicit false

section Response

variable {Error : Type}

def NestedObject (fields : List (String × Json)) (key : String)
    (holds : List (String × Json) → Prop) : Prop :=
  ∀ value, fieldOf key fields = some value → ∃ inner, value = .obj inner ∧ holds inner

/-- An object, with an object or nothing for the body and for the view in it. -/
def BodyReadable (raw : Json) : Prop :=
  ∃ fields, raw = .obj fields ∧
    NestedObject fields "body" fun body => NestedObject body "view" fun _ => True

def ObjectOrFalse (fields : List (String × Json)) (key : String) : Prop :=
  ∀ value, fieldOf key fields = some value → value.truthy = true → ∃ inner, value = .obj inner

/-- An object with an id, and with objects for a space and a version that it has. -/
def PageComplete (raw : Json) : Prop :=
  ∃ fields, raw = .obj fields ∧ (∃ id, fieldOf "id" fields = some id) ∧
    ObjectOrFalse fields "space" ∧ ObjectOrFalse fields "version"

theorem get_or_error
    (value default : Json)
    (key : String)
    (error : PageError Error)
    (raised : getOr value key default = .error error) :
    ∃ message, error = .attributeError message := by
  cases value with
  | obj fields => cases raised
  | null => exact ⟨_, (Except.error.inj raised).symm⟩
  | bool value => exact ⟨_, (Except.error.inj raised).symm⟩
  | int value => exact ⟨_, (Except.error.inj raised).symm⟩
  | float value => exact ⟨_, (Except.error.inj raised).symm⟩
  | str text => exact ⟨_, (Except.error.inj raised).symm⟩
  | arr items => exact ⟨_, (Except.error.inj raised).symm⟩

theorem get_or_returns
    (value default result : Json)
    (key : String) :
    (getOr value key default : Except (PageError Error) Json) = .ok result ↔
      ∃ fields, value = .obj fields ∧ result = (fieldOf key fields).getD default := by
  constructor
  · intro returned
    cases value with
    | obj fields => exact ⟨fields, rfl, (Except.ok.inj returned).symm⟩
    | null => cases returned
    | bool value => cases returned
    | int value => cases returned
    | float value => cases returned
    | str text => cases returned
    | arr items => cases returned
  · rintro ⟨fields, rfl, rfl⟩
    rfl

theorem nested_iff
    (fields : List (String × Json))
    (key : String)
    (holds : List (String × Json) → Prop)
    (empty : holds []) :
    (∃ inner, (fieldOf key fields).getD (.obj []) = .obj inner ∧ holds inner) ↔
      NestedObject fields key holds := by
  unfold NestedObject
  cases fieldOf key fields with
  | none => exact iff_of_true ⟨[], rfl, empty⟩ nofun
  | some value => simp

theorem body_value_returns (raw : Json) :
    (∃ html, (bodyValue raw : Except (PageError Error) Json) = .ok html) ↔ BodyReadable raw := by
  have noView : NestedObject [] "view" fun _ => True := nofun
  constructor
  · rintro ⟨html, returned⟩
    rcases (bind_eq_ok _ _ _).mp returned with ⟨body, bodyRead, later⟩
    rcases (bind_eq_ok _ _ _).mp later with ⟨view, viewRead, last⟩
    rcases (get_or_returns _ _ _ _).mp bodyRead with ⟨fields, rfl, rfl⟩
    rcases (get_or_returns _ _ _ _).mp viewRead with ⟨inner, bodyObject, rfl⟩
    rcases (get_or_returns _ _ _ _).mp last with ⟨final, viewObject, -⟩
    apply Exists.intro fields
    apply And.intro rfl
    apply (nested_iff fields "body" _ noView).mp
    apply Exists.intro inner
    apply And.intro bodyObject
    exact (nested_iff inner "view" _ trivial).mp ⟨final, viewObject, trivial⟩
  · rintro ⟨fields, rfl, body⟩
    rcases (nested_iff fields "body" _ noView).mpr body with ⟨inner, bodyObject, view⟩
    rcases (nested_iff inner "view" _ trivial).mpr view with ⟨final, viewObject, -⟩
    apply Exists.intro ((fieldOf "value" final).getD (.str ""))
    apply (bind_eq_ok _ _ _).mpr
    apply Exists.intro (.obj inner)
    apply And.intro ((get_or_returns _ _ _ _).mpr ⟨fields, rfl, bodyObject.symm⟩)
    apply (bind_eq_ok _ _ _).mpr
    apply Exists.intro (.obj final)
    apply And.intro ((get_or_returns _ _ _ _).mpr ⟨inner, rfl, viewObject.symm⟩)
    exact (get_or_returns _ _ _ _).mpr ⟨final, rfl, rfl⟩

theorem body_value_error
    (raw : Json)
    (error : PageError Error)
    (raised : bodyValue raw = .error error) : ∃ message, error = .attributeError message := by
  rcases (bind_eq_error _ _ _).mp raised with body | ⟨body, -, later⟩
  · exact get_or_error _ _ _ _ body
  · rcases (bind_eq_error _ _ _).mp later with view | ⟨view, -, last⟩
    · exact get_or_error _ _ _ _ view
    · exact get_or_error _ _ _ _ last

theorem entry_of_returns
    (fields : List (String × Json))
    (key : String) :
    (∃ value, (entryOf fields key : Except (PageError Error) Json) = .ok value) ↔
      ∃ value, fieldOf key fields = some value := by
  unfold entryOf
  cases fieldOf key fields with
  | none => simp
  | some value => simp

theorem object_or_object
    (fields : List (String × Json))
    (key : String) :
    (∃ inner, objectOr fields key = .obj inner) ↔ ObjectOrFalse fields key := by
  unfold objectOr ObjectOrFalse
  cases fieldOf key fields with
  | none => exact iff_of_true ⟨[], rfl⟩ nofun
  | some value =>
      by_cases isTrue : value.truthy = true
      · simp [isTrue]
      · simp [isTrue]

theorem object_or_false_iff
    (fields : List (String × Json))
    (key name : String)
    (default : Json) :
    (∃ result, (getOr (objectOr fields key) name default : Except (PageError Error) Json) =
      .ok result) ↔ ObjectOrFalse fields key := by
  have found : (∃ result, (getOr (objectOr fields key) name default :
      Except (PageError Error) Json) = .ok result) ↔ ∃ inner, objectOr fields key = .obj inner := by
    simp only [get_or_returns]
    constructor
    · exact fun ⟨_, inner, object, _⟩ => ⟨inner, object⟩
    · exact fun ⟨inner, object⟩ => ⟨_, inner, object, rfl⟩
  rw [found, object_or_object]

theorem page_of_returns
    (tables : ClientTables)
    (raw : Json)
    (sourceUrl : String) :
    (∃ page, (pageOf tables raw sourceUrl : Except (PageError Error) ConfluencePage) = .ok page) ↔
      PageComplete raw := by
  constructor
  · rintro ⟨page, returned⟩
    cases raw with
    | obj fields =>
        rcases (bind_eq_ok _ _ _).mp returned with ⟨id, idRead, later⟩
        rcases (bind_eq_ok _ _ _).mp later with ⟨space, spaceRead, last⟩
        rcases (bind_eq_ok _ _ _).mp last with ⟨version, versionRead, _⟩
        apply Exists.intro fields
        apply And.intro rfl
        apply And.intro ((entry_of_returns fields "id").mp ⟨id, idRead⟩)
        exact ⟨(object_or_false_iff fields "space" _ _).mp ⟨space, spaceRead⟩,
          (object_or_false_iff fields "version" _ _).mp ⟨version, versionRead⟩⟩
    | null => cases returned
    | bool value => cases returned
    | int value => cases returned
    | float value => cases returned
    | str text => cases returned
    | arr items => cases returned
  · rintro ⟨fields, rfl, held, space, version⟩
    apply bind_returns _ _ ((entry_of_returns fields "id").mpr held)
    intro id
    apply bind_returns _ _ ((object_or_false_iff fields "space" _ _).mpr space)
    intro key
    apply bind_returns _ _ ((object_or_false_iff fields "version" _ _).mpr version)
    intro changed
    exact ⟨_, rfl⟩

end Response

section Sections

variable {Error Time : Type}
variable (tables : ClientTables) (settings : PageSettings Time)
variable (isRetryable : Error → Bool)
variable (pageId : String) (targetHeadings : List String)

theorem fetch_error
    (attempts : Nat → Except Error Json)
    (error : PageError Error)
    (raised : fetchPageHtml tables settings isRetryable attempts = .error error) :
    (∃ cause, error = .request cause) ∨ ∃ message, error = .attributeError message := by
  unfold fetchPageHtml at raised
  cases request : requestPage settings isRetryable attempts with
  | error cause =>
      rw [request] at raised
      exact Or.inl ⟨cause, (Except.error.inj raised).symm⟩
  | ok raw =>
      rw [request] at raised
      cases body : (bodyValue raw : Except (PageError Error) Json) with
      | error other =>
          simp only [body] at raised
          cases raised
          exact Or.inr (body_value_error raw error body)
      | ok html =>
          simp only [body] at raised
          cases raised

theorem sections_of_iff (html : Json) :
    (∃ sections, (sectionsOf tables settings targetHeadings html :
        Except (PageError Error) (OrderedDict String String)) = .ok sections) ↔
      targetHeadings = [] ∨ ∃ text, html = .str text := by
  have other : (∀ text, html ≠ .str text) →
      ((∃ sections,
        (if targetHeadings.isEmpty then .ok ∅
          else .error (.typeError
            ("expected string or bytes-like object, got '" ++ html.typeName ++ "'")) :
              Except (PageError Error) (OrderedDict String String)) = .ok sections) ↔
        targetHeadings = [] ∨ ∃ text, html = .str text) := by
    intro noText
    rw [← List.isEmpty_iff]
    cases targetHeadings.isEmpty with
    | true => simp
    | false => simpa using noText
  cases html with
  | str text => exact iff_of_true ⟨_, rfl⟩ (Or.inr ⟨text, rfl⟩)
  | null => exact other fun _ => nofun
  | bool value => exact other fun _ => nofun
  | int value => exact other fun _ => nofun
  | float value => exact other fun _ => nofun
  | arr items => exact other fun _ => nofun
  | obj fields => exact other fun _ => nofun

variable [LinearOrder Time]

/-- An entry that is alive at the test is alive at the read, and is a text if
anything is looked for in it. -/
def Readable (cache : PageCache Time) (test read : Time) : Prop :=
  ∀ html expires, cache.entries.get? pageId = some (html, expires) → test < expires →
    read < expires ∧ (targetHeadings = [] ∨ ∃ text, html = .str text)

/-- Whichever lookup finds the page, the read after it can have it. -/
def LookupsSafe (forceRefresh : Bool) (side : SectionsSide Error Time) : Prop :=
  forceRefresh = false →
    Readable pageId targetHeadings side.cache (side.clock 0) (side.clock 1) ∧
    (side.cache.contains (side.clock 0) pageId = false →
      Readable pageId targetHeadings side.underLock (side.clock 1) (side.clock 2))

def SectionsOrFetchError (attempts : Nat → Except Error Json)
    (result : Except (PageError Error) (OrderedDict String String)) : Prop :=
  (∃ sections, result = .ok sections) ∨
  ∃ error, fetchPageHtml tables settings isRetryable attempts = .error error ∧
    result = .error error

theorem read_error
    (cache : PageCache Time)
    (now : Time)
    (error : PageError Error)
    (raised : readSections tables settings pageId targetHeadings cache now = .error error) :
    error = .keyError pageId ∨ ∃ message, error = .typeError message := by
  unfold readSections at raised
  cases found : cache.read? now pageId with
  | none =>
      rw [found] at raised
      exact Or.inl (Except.error.inj raised).symm
  | some html =>
      right
      rw [found] at raised
      dsimp only at raised
      unfold sectionsOf at raised
      split at raised
      · cases raised
      · split_ifs at raised
        cases raised
        exact ⟨_, rfl⟩

theorem read_sections_iff
    (cache : PageCache Time)
    (test read : Time)
    (present : cache.contains test pageId = true) :
    (∃ sections, (readSections tables settings pageId targetHeadings cache read :
        Except (PageError Error) (OrderedDict String String)) = .ok sections) ↔
      Readable pageId targetHeadings cache test read := by
  rcases (TtlCache.contains_iff cache test pageId).mp present with ⟨html, expires, held, alive⟩
  have readable : Readable pageId targetHeadings cache test read ↔
      read < expires ∧ (targetHeadings = [] ∨ ∃ text, html = .str text) := by
    constructor
    · exact fun readable => readable html expires held alive
    · intro readable other instant again _
      rw [held] at again
      cases again
      exact readable
  rw [readable, readSections, TtlCache.read_alive cache read expires pageId html held]
  by_cases still : read < expires
  · rw [if_pos still]
    simp only [still, true_and]
    exact sections_of_iff tables settings targetHeadings html
  · rw [if_neg still]
    simp [still]

theorem readable_absent
    (cache : PageCache Time)
    (test read : Time)
    (absent : cache.contains test pageId = false) :
    Readable pageId targetHeadings cache test read := by
  intro html expires held alive
  have present := (TtlCache.contains_iff cache test pageId).mpr ⟨html, expires, held, alive⟩
  rw [absent] at present
  cases present

/-- What is raised by a read of the cache is no error of a fetch. -/
theorem read_or_fetch_error_iff
    (cache : PageCache Time)
    (test read : Time)
    (attempts : Nat → Except Error Json)
    (present : cache.contains test pageId = true) :
    SectionsOrFetchError tables settings isRetryable attempts
        (readSections tables settings pageId targetHeadings cache read) ↔
      Readable pageId targetHeadings cache test read := by
  have returns : (∃ sections, (readSections tables settings pageId targetHeadings cache read :
      Except (PageError Error) (OrderedDict String String)) = .ok sections) ↔
      Readable pageId targetHeadings cache test read :=
    read_sections_iff tables settings pageId targetHeadings cache test read present
  constructor
  · rintro (sections | ⟨error, fetched, failed⟩)
    · exact returns.mp sections
    · rcases fetch_error tables settings isRetryable attempts error fetched with
        ⟨cause, rfl⟩ | ⟨message, rfl⟩
      · rcases read_error tables settings pageId targetHeadings cache read _ failed with
          same | ⟨other, same⟩
        · cases same
        · cases same
      · rcases read_error tables settings pageId targetHeadings cache read _ failed with
          same | ⟨other, same⟩
        · cases same
        · cases same
  · exact fun readable => Or.inl (returns.mpr readable)

omit [LinearOrder Time] in
/-- The fetch of a page knows no `KeyError` of its own. -/
theorem no_key_error
    (attempts : Nat → Except Error Json)
    (result : Except (PageError Error) (OrderedDict String String))
    (expected : SectionsOrFetchError tables settings isRetryable attempts result)
    (key : String) : result ≠ .error (.keyError key) := by
  rintro rfl
  rcases expected with ⟨sections, returned⟩ | ⟨error, fetched, same⟩
  · cases returned
  · cases same
    rcases fetch_error tables settings isRetryable attempts _ fetched with
      ⟨cause, same⟩ | ⟨message, same⟩
    · cases same
    · cases same

theorem locked_sections_iff
    (forceRefresh : Bool)
    (side : SectionsSide Error Time)
    (turn : Nat) :
    SectionsOrFetchError tables settings isRetryable side.attempts
        (lockedSections tables settings isRetryable pageId targetHeadings forceRefresh side
          turn).1 ↔
      (forceRefresh = false →
        Readable pageId targetHeadings side.underLock (side.clock turn)
          (side.clock (turn + 1))) := by
  unfold lockedSections
  by_cases found : (!forceRefresh && side.underLock.contains (side.clock turn) pageId) = true
  · rw [if_pos found]
    rw [Bool.and_eq_true, Bool.not_eq_true'] at found
    rw [read_or_fetch_error_iff tables settings isRetryable pageId targetHeadings side.underLock
      (side.clock turn) (side.clock (turn + 1)) side.attempts found.2]
    exact ⟨fun readable _ => readable, fun readable => readable found.1⟩
  · rw [if_neg found]
    apply iff_of_true
    · cases fetched : fetchPageHtml tables settings isRetryable side.attempts with
      | error error => exact Or.inr ⟨error, fetched, rfl⟩
      | ok html => exact Or.inl ⟨_, rfl⟩
    · intro cached
      apply readable_absent
      rwa [cached, Bool.not_false, Bool.true_and, Bool.not_eq_true] at found

/-- A page that a lookup found is read only if its entry lives on until then. -/
theorem sections_or_fetch_error_iff
    (forceRefresh : Bool)
    (side : SectionsSide Error Time) :
    let call := getPageSections tables settings isRetryable pageId targetHeadings forceRefresh side
    (SectionsOrFetchError tables settings isRetryable side.attempts call.1 ∧
      ∀ key, call.1 ≠ .error (.keyError key)) ↔
      LookupsSafe pageId targetHeadings forceRefresh side := by
  intro call
  have expected : SectionsOrFetchError tables settings isRetryable side.attempts call.1 ↔
      LookupsSafe pageId targetHeadings forceRefresh side := by
    unfold call getPageSections LookupsSafe
    by_cases found : (!forceRefresh && side.cache.contains (side.clock 0) pageId) = true
    · rw [if_pos found]
      rw [Bool.and_eq_true, Bool.not_eq_true'] at found
      rw [read_or_fetch_error_iff tables settings isRetryable pageId targetHeadings side.cache
        (side.clock 0) (side.clock 1) side.attempts found.2]
      constructor
      · intro readable _
        apply And.intro readable
        intro absent
        rw [found.2] at absent
        cases absent
      · exact fun safe => (safe found.1).1
    · rw [if_neg found, locked_sections_iff]
      have absent (cached : forceRefresh = false) :
          side.cache.contains (side.clock 0) pageId = false := by
        rwa [cached, Bool.not_false, Bool.true_and, Bool.not_eq_true] at found
      constructor
      · intro readable cached
        exact ⟨readable_absent pageId targetHeadings side.cache _ _ (absent cached),
          fun _ => readable cached⟩
      · exact fun safe cached => (safe cached).2 (absent cached)
  constructor
  · exact fun both => expected.mp both.1
  · intro safe
    have result := expected.mpr safe
    exact ⟨result, no_key_error tables settings isRetryable side.attempts call.1 result⟩

end Sections

def plainClientTables : ClientTables where
  toHtmlTables := plainTables
  str := fun value =>
    match value with
    | .str text => text
    | _ => "None"

def plainSettings : PageSettings Nat where
  expiry := fun now => now + 300
  makeRoom := id

def cacheOf (html : String) (expires : Nat) : PageCache Nat where
  entries := (∅ : OrderedDict String (Json × Nat)).set "100" (.str html, expires)

def expiringPage : SectionsSide Unit Nat where
  clock := id
  cache := cacheOf "<h2>Risk</h2>" 1
  underLock := cacheOf "<h2>Risk</h2>" 1
  afterFetch := cacheOf "<h2>Risk</h2>" 1
  attempts := fun _ => .ok (.obj [])

theorem expired_page_not_fetched :
    let call :=
      getPageSections plainClientTables plainSettings (fun _ => true) "100" ["Risk"] false
        expiringPage
    Monotone expiringPage.clock ∧ call.1 = .error (.keyError "100") ∧
      ¬ SectionsOrFetchError plainClientTables plainSettings (fun _ => true)
        expiringPage.attempts call.1 := by
  apply And.intro monotone_id
  apply And.intro rfl
  intro expected
  exact no_key_error _ _ _ _ _ expected "100" rfl

section Metadata

variable {Error Time : Type}
variable (tables : ClientTables) (settings : PageSettings Time)
variable (isRetryable : Error → Bool)
variable (pageId : String)

/-- The response of the attempt before which every other one was made again. -/
def Answered (attempts : Nat → Except Error Json) (raw : Json) : Prop :=
  ∃ index, index ≤ (settings.maxRetries - 1).toNat ∧
    (∀ earlier, earlier < index → Retried isRetryable (attempts earlier)) ∧
    attempts index = .ok raw

theorem request_returns_iff
    (attempts : Nat → Except Error Json)
    (raw : Json) :
    requestPage settings isRetryable attempts = .ok raw ↔
      Answered settings isRetryable attempts raw := by
  have final (outcome : Except Error Json) (returned : outcome = .ok raw) :
      ¬ Retried isRetryable outcome := by
    rintro ⟨error, raised, _⟩
    rw [returned] at raised
    cases raised
  have ends : requestPage settings isRetryable attempts = .ok raw ↔
      ∃ index, index ≤ (settings.maxRetries - 1).toNat ∧
        (∀ earlier, earlier < index → Retried isRetryable (attempts (0 + earlier))) ∧
        attempts (0 + index) = .ok raw :=
    retrying_ends_iff (· = .ok raw) final (settings.maxRetries - 1).toNat 0
  simp only [Nat.zero_add] at ends
  exact ends

/-- The body decides whether the cache is written, not the page. -/
theorem metadata_caches_body
    (cache : PageCache Time)
    (now : Time)
    (sourceUrl : String)
    (attempts : Nat → Except Error Json) :
    let call := fetchPageMetadata tables settings isRetryable pageId cache now sourceUrl attempts
    ((∀ raw, Answered settings isRetryable attempts raw → ¬ BodyReadable raw) →
      (∃ error, call.1 = .error error) ∧ call.2 = cache) ∧
    ∀ raw, Answered settings isRetryable attempts raw → BodyReadable raw →
      call.1 = pageOf tables raw sourceUrl ∧
      ((∃ page, call.1 = .ok page) ↔ PageComplete raw) ∧
      ∃ html, (bodyValue raw : Except (PageError Error) Json) = .ok html ∧
        call.2.entries.get? pageId = some (html, settings.expiry now) := by
  intro call
  constructor
  · intro unreadable
    unfold call fetchPageMetadata
    cases request : requestPage settings isRetryable attempts with
    | error error => exact ⟨⟨_, rfl⟩, rfl⟩
    | ok raw =>
        have answered := (request_returns_iff settings isRetryable attempts raw).mp request
        cases body : (bodyValue raw : Except (PageError Error) Json) with
        | error error =>
            simp only [body]
            exact ⟨⟨error, rfl⟩, trivial⟩
        | ok html =>
            have readable := (body_value_returns raw).mp ⟨html, body⟩
            exact absurd readable (unreadable raw answered)
  · intro raw answered readable
    have request := (request_returns_iff settings isRetryable attempts raw).mpr answered
    have returns : ∃ html, (bodyValue raw : Except (PageError Error) Json) = .ok html :=
      (body_value_returns raw).mpr readable
    rcases returns with ⟨html, body⟩
    have made : call = (pageOf tables raw sourceUrl,
        cache.write settings.makeRoom (settings.expiry now) pageId html) := by
      unfold call fetchPageMetadata
      simp only [request, body]
    rw [made]
    apply And.intro rfl
    apply And.intro (page_of_returns tables raw sourceUrl)
    exact ⟨html, body, TtlCache.written _ _ _ _ _⟩

def bodyWithoutId : Json := .obj [("body", .obj [("view", .obj [("value", .str "new")])])]

theorem refused_page_replaces_body :
    let call :=
      fetchPageMetadata plainClientTables plainSettings (fun _ : Unit => true) "100"
        (cacheOf "old" 5) 0 "" fun _ => .ok bodyWithoutId
    call.1 = .error (.keyError "id") ∧
      (cacheOf "old" 5).entries.get? "100" = some (.str "old", 5) ∧
      call.2.entries.get? "100" = some (.str "new", 300) := by
  apply And.intro rfl
  exact ⟨rfl, rfl⟩

end Metadata

end AtlasMindNetra.ConfluenceClient
