import AtlasMindNetra.PageLookups

/-!
# The hits of a search

`_search_one` and `_parse_cql_result` of `confluence/client/client.py`. A hit
is taken apart by lookups on values of any shape. The loop skips a hit for
which a key is missing. What a lookup on a value of the wrong type raises ends
the search instead, and with it the pages of all other hits.
-/

namespace AtlasMindNetra.ConfluenceClient

open AtlasMindNetra.PythonValues AtlasMindNetra.JsonTrees
open AtlasMindNetra.AttemptRules AtlasMindNetra.EffectRules AtlasMindNetra.HtmlExtractor

set_option autoImplicit false

section Hits

variable {Error Time : Type}
variable (tables : ClientTables) (settings : PageSettings Time)
variable (isRetryable : Error → Bool)

/-- `value[key]` -/
def subscript (value : Json) (key : String) : Except (PageError Error) Json :=
  match value with
  | .obj fields => entryOf fields key
  | .str _ => .error (.typeError "string indices must be integers, not 'str'")
  | .arr _ => .error (.typeError "list indices must be integers or slices, not str")
  | other => .error (.typeError ("'" ++ other.typeName ++ "' object is not subscriptable"))

/-- `value or default` -/
def orValue (value default : Json) : Json := if value.truthy then value else default

/-- `value or later`, where `later` may raise -/
def orLater (value : Json) (later : Except (PageError Error) Json) :
    Except (PageError Error) Json :=
  if value.truthy then .ok value else later

/-- `content.get("title") or item.get("title", "")` -/
def hitTitle (content item : Json) : Except (PageError Error) Json := do
  let own ← getOr content "title" .null
  orLater own (getOr item "title" (.str ""))

/-- `(content.get("space") or {}).get("key") or item.get("space", {}).get("key", "")` -/
def hitSpaceKey (content item : Json) : Except (PageError Error) Json := do
  let space ← getOr content "space" .null
  let own ← getOr (orValue space (.obj [])) "key" .null
  orLater own do
    let other ← getOr item "space" (.obj [])
    getOr other "key" (.str "")

/-- `(content.get("_links") or {}).get("webui") or item.get("url", "")` -/
def hitUrl (content item : Json) : Except (PageError Error) Json := do
  let links ← getOr content "_links" .null
  let own ← getOr (orValue links (.obj [])) "webui" .null
  orLater own (getOr item "url" (.str ""))

/-- `(content.get("history") or {}).get("lastUpdated", {}).get("when")
or item.get("lastModified", "")` -/
def hitLastModified (content item : Json) : Except (PageError Error) Json := do
  let history ← getOr content "history" .null
  let lastUpdated ← getOr (orValue history (.obj [])) "lastUpdated" (.obj [])
  let own ← getOr lastUpdated "when" .null
  orLater own (getOr item "lastModified" (.str ""))

/-- What `_parse_cql_result` reads after the id. -/
def hitPage (content item id : Json) : Except (PageError Error) ConfluencePage := do
  let title ← hitTitle content item
  let spaceKey ← hitSpaceKey content item
  let url ← hitUrl content item
  let lastModified ← hitLastModified content item
  let excerpt ← getOr item "excerpt" (.str "")
  .ok
    { pageId := tables.str id
      title := tables.str title
      spaceKey := tables.str spaceKey
      url := tables.str url
      lastModified := tables.str lastModified
      cqlExcerpt := tables.str excerpt }

def parseCqlResult (item : Json) : Except (PageError Error) ConfluencePage := do
  let nested ← getOr item "content" .null
  let content := orValue nested item
  let id ← subscript content "id"
  hitPage tables content item id

/-- `except (KeyError, ValueError)` -/
def PageError.isSkipped : PageError Error → Bool
  | .keyError _ => true
  | _ => false

def parseHits : List Json → Except (PageError Error) (List ConfluencePage)
  | [] => .ok []
  | item :: rest =>
      match parseCqlResult tables item with
      | .ok page => (parseHits rest).map (page :: ·)
      | .error error => if error.isSkipped then parseHits rest else .error error

def requestHits (attempts : Nat → Except Error (List Json)) : Except Error (List Json) :=
  (retrying isRetryable attempts (settings.maxRetries - 1).toNat 0).2

def searchOne (attempts : Nat → Except Error (List Json)) :
    Except (PageError Error) (List ConfluencePage) :=
  match requestHits settings isRetryable attempts with
  | .error error => .error (.request error)
  | .ok raw => parseHits tables raw

/-- A true value under the key is an object that the condition holds of. -/
def TrueObject (fields : List (String × Json)) (key : String)
    (holds : List (String × Json) → Prop) : Prop :=
  ∀ value, fieldOf key fields = some value → value.truthy = true →
    ∃ inner, value = .obj inner ∧ holds inner

/-- The object that is read for a hit: its content, or the hit itself. -/
def ContentOf (fields inner : List (String × Json)) : Prop :=
  orValue ((fieldOf "content" fields).getD .null) (.obj fields) = .obj inner

/-- The space of the content is an object or false. Unless it has a key, the hit
has an object for a space, or none. -/
def SpaceReadable (fields inner : List (String × Json)) : Prop :=
  ObjectOrFalse inner "space" ∧
    ((∃ space key, fieldOf "space" inner = some (.obj space) ∧ fieldOf "key" space = some key ∧
      key.truthy = true) ∨ NestedObject fields "space" fun _ => True)

def WellFormedHit (item : Json) : Prop :=
  ∃ fields inner, item = .obj fields ∧ ContentOf fields inner ∧
    (∃ id, fieldOf "id" inner = some id) ∧ SpaceReadable fields inner ∧
    ObjectOrFalse inner "_links" ∧
    TrueObject inner "history" fun history => NestedObject history "lastUpdated" fun _ => True

def MissesId (item : Json) : Prop :=
  ∃ fields inner, item = .obj fields ∧ ContentOf fields inner ∧ fieldOf "id" inner = none

/-- What can only raise an `AttributeError`. -/
def RaisesAttribute {Value : Type} (computed : Except (PageError Error) Value) : Prop :=
  ∀ error, computed = .error error → ∃ message, error = .attributeError message

theorem raises_attribute_bind
    {Value Next : Type}
    (first : Except (PageError Error) Value)
    (next : Value → Except (PageError Error) Next)
    (firstRaises : RaisesAttribute first)
    (nextRaises : ∀ value, RaisesAttribute (next value)) : RaisesAttribute (first >>= next) := by
  intro error raised
  rcases (bind_eq_error _ _ _).mp raised with early | ⟨value, -, late⟩
  · exact firstRaises error early
  · exact nextRaises value error late

theorem raises_attribute_get
    (value default : Json)
    (key : String) :
    RaisesAttribute (getOr value key default : Except (PageError Error) Json) :=
  fun error raised => get_or_error value default key error raised

theorem raises_attribute_or
    (value : Json)
    (later : Except (PageError Error) Json)
    (raises : RaisesAttribute later) : RaisesAttribute (orLater value later) := by
  intro error raised
  unfold orLater at raised
  split_ifs at raised
  exact raises error raised

theorem hit_page_raises
    (content item id : Json) :
    RaisesAttribute (hitPage tables content item id : Except (PageError Error) ConfluencePage) := by
  have title : RaisesAttribute (hitTitle content item : Except (PageError Error) Json) := by
    apply raises_attribute_bind _ _ (raises_attribute_get _ _ _)
    exact fun own => raises_attribute_or _ _ (raises_attribute_get _ _ _)
  have spaceKey : RaisesAttribute (hitSpaceKey content item : Except (PageError Error) Json) := by
    apply raises_attribute_bind _ _ (raises_attribute_get _ _ _)
    intro space
    apply raises_attribute_bind _ _ (raises_attribute_get _ _ _)
    intro own
    apply raises_attribute_or
    apply raises_attribute_bind _ _ (raises_attribute_get _ _ _)
    exact fun other => raises_attribute_get _ _ _
  have url : RaisesAttribute (hitUrl content item : Except (PageError Error) Json) := by
    apply raises_attribute_bind _ _ (raises_attribute_get _ _ _)
    intro links
    apply raises_attribute_bind _ _ (raises_attribute_get _ _ _)
    exact fun own => raises_attribute_or _ _ (raises_attribute_get _ _ _)
  have date : RaisesAttribute (hitLastModified content item : Except (PageError Error) Json) := by
    apply raises_attribute_bind _ _ (raises_attribute_get _ _ _)
    intro history
    apply raises_attribute_bind _ _ (raises_attribute_get _ _ _)
    intro lastUpdated
    apply raises_attribute_bind _ _ (raises_attribute_get _ _ _)
    exact fun own => raises_attribute_or _ _ (raises_attribute_get _ _ _)
  apply raises_attribute_bind _ _ title
  intro title
  apply raises_attribute_bind _ _ spaceKey
  intro spaceKey
  apply raises_attribute_bind _ _ url
  intro url
  apply raises_attribute_bind _ _ date
  intro lastModified
  apply raises_attribute_bind _ _ (raises_attribute_get _ _ _)
  exact fun excerpt => nofun

theorem or_value_object
    (fields : List (String × Json))
    (key : String) :
    orValue ((fieldOf key fields).getD .null) (.obj []) = objectOr fields key := by
  unfold objectOr orValue
  cases fieldOf key fields with
  | none => rfl
  | some value => rfl

theorem or_later_returns
    (value : Json)
    (later : Except (PageError Error) Json) :
    (∃ result, orLater value later = .ok result) ↔
      value.truthy = true ∨ ∃ result, later = .ok result := by
  unfold orLater
  by_cases isTrue : value.truthy = true
  · rw [if_pos isTrue]
    exact iff_of_true ⟨value, rfl⟩ (Or.inl isTrue)
  · rw [if_neg isTrue]
    simp [isTrue]

theorem get_of_object
    (fields : List (String × Json))
    (key : String)
    (default : Json) :
    (getOr (.obj fields) key default : Except (PageError Error) Json) =
      .ok ((fieldOf key fields).getD default) := rfl

theorem or_later_ok (value default : Json) :
    ∃ result, orLater value (.ok default : Except (PageError Error) Json) = .ok result :=
  (or_later_returns _ _).mpr (Or.inr ⟨_, rfl⟩)

section Object

variable (fields inner : List (String × Json))

theorem hit_title_returns :
    ∃ title, (hitTitle (.obj inner) (.obj fields) : Except (PageError Error) Json) = .ok title := by
  apply bind_returns _ _ ⟨_, rfl⟩
  exact fun own => or_later_ok own _

theorem hit_url_returns :
    (∃ url, (hitUrl (.obj inner) (.obj fields) : Except (PageError Error) Json) = .ok url) ↔
      ObjectOrFalse inner "_links" := by
  have links : (∃ own, (getOr (objectOr inner "_links") "webui" .null :
      Except (PageError Error) Json) = .ok own) ↔ ObjectOrFalse inner "_links" :=
    object_or_false_iff inner "_links" "webui" .null
  unfold hitUrl
  rw [← links]
  simp only [bind_returns_iff, or_later_ok, and_true, get_of_object, Except.ok.injEq,
    exists_eq_left', or_value_object]

theorem nested_returns
    (key name : String)
    (default : Json) :
    (∃ result, (getOr ((fieldOf key fields).getD (.obj [])) name default :
        Except (PageError Error) Json) = .ok result) ↔
      NestedObject fields key fun _ => True := by
  rw [← nested_iff fields key _ trivial]
  simp only [get_or_returns, and_true]
  exact ⟨fun ⟨_, object, same, _⟩ => ⟨object, same⟩, fun ⟨object, same⟩ => ⟨_, object, same, rfl⟩⟩

theorem hit_last_modified_returns :
    (∃ date, (hitLastModified (.obj inner) (.obj fields) : Except (PageError Error) Json) =
        .ok date) ↔
      TrueObject inner "history" fun history =>
        NestedObject history "lastUpdated" fun _ => True := by
  unfold hitLastModified
  simp only [bind_returns_iff, or_later_ok, and_true, get_of_object, Except.ok.injEq,
    exists_eq_left', or_value_object]
  unfold objectOr TrueObject
  have empty : NestedObject [] "lastUpdated" fun _ => True := nofun
  have read (history : List (String × Json)) :
      (∃ lastUpdated, (getOr (.obj history) "lastUpdated" (.obj []) :
          Except (PageError Error) Json) = .ok lastUpdated ∧
        ∃ own, (getOr lastUpdated "when" .null : Except (PageError Error) Json) = .ok own) ↔
        NestedObject history "lastUpdated" fun _ => True := by
    simp only [get_of_object, Except.ok.injEq, exists_eq_left']
    exact nested_returns history "lastUpdated" "when" .null
  cases fieldOf "history" inner with
  | none => exact iff_of_true ((read []).mpr empty) nofun
  | some value =>
      by_cases isTrue : value.truthy = true
      · simp only [isTrue, if_true, Option.some.injEq, forall_eq', true_implies]
        constructor
        · rintro ⟨lastUpdated, found, date⟩
          rcases (get_or_returns _ _ _ _).mp found with ⟨history, rfl, -⟩
          exact ⟨history, rfl, (read history).mp ⟨lastUpdated, found, date⟩⟩
        · rintro ⟨history, rfl, nested⟩
          exact (read history).mpr nested
      · simp only [isTrue, Bool.false_eq_true, if_false, Option.some.injEq, forall_eq',
          false_implies, iff_true]
        exact (read []).mpr empty

theorem object_with_field
    (key name : String)
    (object : List (String × Json))
    (value : Json) :
    (objectOr inner key = .obj object ∧ fieldOf name object = some value) ↔
      fieldOf key inner = some (.obj object) ∧ fieldOf name object = some value := by
  constructor
  · rintro ⟨same, found⟩
    apply And.intro _ found
    unfold objectOr at same
    split at same
    · rename_i own held
      split_ifs at same
      · rw [held, same]
      · cases same
        cases found
    · cases same
      cases found
  · rintro ⟨held, found⟩
    apply And.intro _ found
    cases object with
    | nil => cases found
    | cons field rest =>
        unfold objectOr
        rw [held]
        rfl

theorem hit_space_key_returns :
    (∃ key, (hitSpaceKey (.obj inner) (.obj fields) : Except (PageError Error) Json) = .ok key) ↔
      SpaceReadable fields inner := by
  have later (own : Json) :
      (∃ key, orLater own (do
        let space ← getOr (.obj fields) "space" (.obj [])
        getOr space "key" (.str "") : Except (PageError Error) Json) = .ok key) ↔
      own.truthy = true ∨ NestedObject fields "space" fun _ => True := by
    rw [or_later_returns, bind_returns_iff]
    simp only [get_of_object, Except.ok.injEq, exists_eq_left']
    exact or_congr_right (nested_returns fields "space" "key" (.str ""))
  unfold hitSpaceKey SpaceReadable
  simp only [bind_returns_iff, later]
  simp only [get_of_object, Except.ok.injEq, exists_eq_left', or_value_object, get_or_returns]
  rw [← object_or_object inner "space"]
  constructor
  · rintro ⟨own, ⟨object, same, rfl⟩, isTrue | nested⟩
    · apply And.intro ⟨object, same⟩
      apply Or.inl
      cases found : fieldOf "key" object with
      | none =>
          rw [found] at isTrue
          cases isTrue
      | some key =>
          rw [found] at isTrue
          rcases (object_with_field inner "space" "key" object key).mp ⟨same, found⟩ with ⟨held, _⟩
          exact ⟨object, key, held, found, isTrue⟩
    · exact ⟨⟨object, same⟩, Or.inr nested⟩
  · rintro ⟨⟨object, same⟩, ⟨space, key, held, found, isTrue⟩ | nested⟩
    · rcases (object_with_field inner "space" "key" space key).mpr ⟨held, found⟩ with ⟨same, _⟩
      apply Exists.intro key
      apply And.intro ⟨space, same, by rw [found]; rfl⟩
      exact Or.inl isTrue
    · exact ⟨_, ⟨object, same, rfl⟩, Or.inr nested⟩

theorem hit_page_returns (id : Json) :
    (∃ page, (hitPage tables (.obj inner) (.obj fields) id :
        Except (PageError Error) ConfluencePage) = .ok page) ↔
      SpaceReadable fields inner ∧ ObjectOrFalse inner "_links" ∧
        TrueObject inner "history" fun history =>
          NestedObject history "lastUpdated" fun _ => True := by
  have spaceKey : (∃ key, (hitSpaceKey (.obj inner) (.obj fields) :
      Except (PageError Error) Json) = .ok key) ↔ SpaceReadable fields inner :=
    hit_space_key_returns fields inner
  have url : (∃ url, (hitUrl (.obj inner) (.obj fields) :
      Except (PageError Error) Json) = .ok url) ↔ ObjectOrFalse inner "_links" :=
    hit_url_returns fields inner
  have date : (∃ date, (hitLastModified (.obj inner) (.obj fields) :
      Except (PageError Error) Json) = .ok date) ↔ TrueObject inner "history" fun history =>
        NestedObject history "lastUpdated" fun _ => True :=
    hit_last_modified_returns fields inner
  rw [← spaceKey, ← url, ← date]
  constructor
  · rintro ⟨page, returned⟩
    rcases (bind_eq_ok _ _ _).mp returned with ⟨title, _, later⟩
    rcases (bind_eq_ok _ _ _).mp later with ⟨key, keyRead, later⟩
    rcases (bind_eq_ok _ _ _).mp later with ⟨url, urlRead, later⟩
    rcases (bind_eq_ok _ _ _).mp later with ⟨date, dateRead, _⟩
    exact ⟨⟨key, keyRead⟩, ⟨url, urlRead⟩, ⟨date, dateRead⟩⟩
  · rintro ⟨key, url, date⟩
    apply bind_returns _ _ (hit_title_returns fields inner)
    intro title
    apply bind_returns _ _ key
    intro key
    apply bind_returns _ _ url
    intro url
    apply bind_returns _ _ date
    intro lastModified
    exact ⟨_, rfl⟩

end Object

theorem subscript_object
    (value : Json)
    (key : String)
    (result : Except (PageError Error) Json)
    (reached : subscript value key = result)
    (expected : (∃ id, result = .ok id) ∨ ∃ missing, result = .error (.keyError missing)) :
    ∃ inner, value = .obj inner ∧ entryOf inner key = result := by
  subst reached
  cases value with
  | obj inner => exact ⟨inner, rfl, rfl⟩
  | null => simp [subscript] at expected
  | bool value => simp [subscript] at expected
  | int value => simp [subscript] at expected
  | float value => simp [subscript] at expected
  | str text => simp [subscript] at expected
  | arr items => simp [subscript] at expected

theorem entry_of_misses
    (fields : List (String × Json))
    (key : String) :
    (∃ missing, (entryOf fields key : Except (PageError Error) Json) =
      .error (.keyError missing)) ↔ fieldOf key fields = none := by
  unfold entryOf
  cases fieldOf key fields with
  | none => simp
  | some value => simp

theorem parse_returns_iff (item : Json) :
    (∃ page, (parseCqlResult tables item : Except (PageError Error) ConfluencePage) = .ok page) ↔
      WellFormedHit item := by
  constructor
  · rintro ⟨page, returned⟩
    rcases (bind_eq_ok _ _ _).mp returned with ⟨nested, nestedRead, later⟩
    rcases (bind_eq_ok _ _ _).mp later with ⟨id, idRead, pageRead⟩
    rcases (get_or_returns _ _ _ _).mp nestedRead with ⟨fields, rfl, rfl⟩
    rcases subscript_object _ _ _ idRead (Or.inl ⟨id, rfl⟩) with ⟨inner, content, entry⟩
    rw [content] at pageRead
    exact ⟨fields, inner, rfl, content, (entry_of_returns inner "id").mp ⟨id, entry⟩,
      (hit_page_returns tables fields inner id).mp ⟨page, pageRead⟩⟩
  · rintro ⟨fields, inner, rfl, content, hasId, rest⟩
    apply bind_returns_iff _ _ |>.mpr
    refine ⟨_, rfl, ?_⟩
    dsimp only
    rw [content]
    apply bind_returns _ _ ((entry_of_returns inner "id").mpr hasId)
    exact fun id => (hit_page_returns tables fields inner id).mpr rest

/-- Only a missing id makes the loop skip a hit. -/
theorem parse_skips_iff (item : Json) :
    (∃ error, (parseCqlResult tables item : Except (PageError Error) ConfluencePage) =
      .error error ∧ error.isSkipped = true) ↔ MissesId item := by
  have skipped (error : PageError Error) :
      error.isSkipped = true ↔ ∃ missing, error = .keyError missing := by
    cases error <;> simp [PageError.isSkipped]
  constructor
  · rintro ⟨error, raised, isSkipped⟩
    rcases (skipped error).mp isSkipped with ⟨missing, rfl⟩
    rcases (bind_eq_error _ _ _).mp raised with early | ⟨nested, nestedRead, later⟩
    · rcases get_or_error _ _ _ _ early with ⟨message, same⟩
      cases same
    · rcases (get_or_returns _ _ _ _).mp nestedRead with ⟨fields, rfl, rfl⟩
      rcases (bind_eq_error _ _ _).mp later with idRead | ⟨id, -, pageRead⟩
      · rcases subscript_object _ _ _ idRead (Or.inr ⟨missing, rfl⟩) with ⟨inner, content, entry⟩
        exact ⟨fields, inner, rfl, content, (entry_of_misses inner "id").mp ⟨missing, entry⟩⟩
      · rcases hit_page_raises tables _ _ _ _ pageRead with ⟨message, same⟩
        cases same
  · rintro ⟨fields, inner, rfl, content, noId⟩
    have missing : (∃ missing, (entryOf inner "id" : Except (PageError Error) Json) =
        .error (.keyError missing)) := (entry_of_misses inner "id").mpr noId
    rcases missing with ⟨missing, entry⟩
    apply Exists.intro (.keyError missing)
    apply And.intro _ rfl
    apply (bind_eq_error _ _ _).mpr
    refine Or.inr ⟨_, rfl, ?_⟩
    dsimp only
    rw [content]
    exact (bind_eq_error _ _ _).mpr (Or.inl entry)

def ownPages (Error : Type) (items : List Json) : List ConfluencePage :=
  items.filterMap fun item =>
    (parseCqlResult tables item : Except (PageError Error) ConfluencePage).toOption

/-- Whenever the search call returns, so does the search, and a malformed hit
costs no page but its own. -/
def CostsOnlyItself (attempts : Nat → Except Error (List Json)) : Prop :=
  ∀ raw, requestHits settings isRetryable attempts = .ok raw →
    searchOne tables settings isRetryable attempts = .ok (ownPages tables Error raw)

theorem own_pages_cons
    (item : Json)
    (rest : List Json) :
    ownPages tables Error (item :: rest) =
      match (parseCqlResult tables item : Except (PageError Error) ConfluencePage) with
      | .ok page => page :: ownPages tables Error rest
      | .error _ => ownPages tables Error rest := by
  unfold ownPages
  rw [List.filterMap_cons]
  cases (parseCqlResult tables item : Except (PageError Error) ConfluencePage) <;> rfl

theorem parse_hits_iff (items : List Json) :
    (parseHits tables items : Except (PageError Error) (List ConfluencePage)) =
        .ok (ownPages tables Error items) ↔
      ∀ item ∈ items, WellFormedHit item ∨ MissesId item := by
  induction items with
  | nil => exact iff_of_true rfl nofun
  | cons item rest ih =>
      have returns : (∃ page, (parseCqlResult tables item :
          Except (PageError Error) ConfluencePage) = .ok page) ↔ WellFormedHit item :=
        parse_returns_iff tables item
      have skips : (∃ error, (parseCqlResult tables item :
          Except (PageError Error) ConfluencePage) = .error error ∧ error.isSkipped = true) ↔
          MissesId item := parse_skips_iff tables item
      rw [List.forall_mem_cons, ← ih, ← returns, ← skips]
      rw [own_pages_cons, parseHits]
      cases parsed : (parseCqlResult tables item : Except (PageError Error) ConfluencePage) with
      | ok page =>
          cases (parseHits tables rest : Except (PageError Error) (List ConfluencePage)) with
          | ok pages => simp [Except.map]
          | error error => simp [Except.map]
      | error error =>
          by_cases isSkipped : error.isSkipped = true
          · simp [isSkipped]
          · simp [isSkipped]

/-- A hit is lost alone if it misses its id. Any other malformed hit takes the
pages of all others with it. -/
theorem malformed_hit_costs_itself_iff
    (attempts : Nat → Except Error (List Json)) :
    CostsOnlyItself tables settings isRetryable attempts ↔
      ∀ raw, requestHits settings isRetryable attempts = .ok raw →
        ∀ item ∈ raw, WellFormedHit item ∨ MissesId item := by
  unfold CostsOnlyItself searchOne
  constructor
  · intro costs raw returned
    have pages := costs raw returned
    rw [returned] at pages
    exact (parse_hits_iff tables raw).mp pages
  · intro shapes raw returned
    rw [returned]
    exact (parse_hits_iff tables raw).mpr (shapes raw returned)

end Hits

def plainHit : Json := .obj [("id", .str "100"), ("title", .str "Release plan")]

/-- The space of a hit may be null, but then it is not passed over. -/
def hitWithoutSpace : Json := .obj [("id", .str "200"), ("space", .null)]

/-- The second hit raises an `AttributeError`, and the first one is lost as well. -/
theorem malformed_hit_costs_all :
    let attempts : Nat → Except Unit (List Json) := fun _ => .ok [plainHit, hitWithoutSpace]
    requestHits plainSettings (fun _ => true) attempts = .ok [plainHit, hitWithoutSpace] ∧
      searchOne plainClientTables plainSettings (fun _ => true) attempts =
        .error (.attributeError "'NoneType' object has no attribute 'get'") ∧
      ¬ CostsOnlyItself plainClientTables plainSettings (fun _ => true) attempts := by
  apply And.intro rfl
  apply And.intro rfl
  intro costs
  cases costs [plainHit, hitWithoutSpace] rfl

end AtlasMindNetra.ConfluenceClient
