import AtlasMindNetra.ListRules
import AtlasMindNetra.SearchContext

/-!
# Pinned pages in a context search

The merge of pinned and searched pages is cut once, and the cut of the searched
pages before it loses nothing. What the cut takes from the pinned pages leaves
no entry in the errors.
-/

namespace AtlasMindNetra.SearchContext

open AtlasMindNetra.PythonValues AtlasMindNetra.ConfluenceResearch AtlasMindNetra.CqlBuilder
open AtlasMindNetra.ListRules AtlasMindNetra.EffectRules
open AtlasMindNetra.ConfluencePipeline (ContextExtractionOutput)

set_option autoImplicit false

section Reading

variable (tables : UrlTables)

def Denotes (url pageId : String) : Prop := extractPageId tables url = .ok (some pageId)

theorem denotes_unique
    (url one other : String)
    (first : Denotes tables url one)
    (second : Denotes tables url other) : one = other :=
  Option.some.inj (Except.ok.inj (first.symm.trans second))

def denoted (url : String) : Option String :=
  match extractPageId tables url with
  | .ok pageId => pageId
  | .error _ => none

theorem denoted_eq_some
    (url pageId : String) : denoted tables url = some pageId ↔ Denotes tables url pageId := by
  unfold denoted Denotes
  cases extractPageId tables url with
  | ok found => simp
  | error error => simp

theorem denoted_concat
    (urls : List String)
    (url pageId : String)
    (denotes : Denotes tables url pageId) :
    (urls ++ [url]).filterMap (denoted tables) = urls.filterMap (denoted tables) ++ [pageId] := by
  rw [List.filterMap_append,
    List.filterMap_cons_some ((denoted_eq_some tables url pageId).mpr denotes)]
  rfl

/-- What the URLs so far have left: each page under its first URL, and an entry
for each URL that denotes no page. -/
structure UrlsRead (urls : List String) (reading : PinReading) : Prop where
  names : reading.pins.map Prod.snd = (urls.filterMap (denoted tables)).eraseDups
  firsts : ∀ pin ∈ reading.pins, ∃ index : Nat, urls[index]? = some pin.1 ∧
    Denotes tables pin.1 pin.2 ∧
    ∀ earlier < index, ∀ url, urls[earlier]? = some url → ¬ Denotes tables url pin.2
  notices : ∀ notice ∈ reading.notices, ∃ url ∈ urls, notice = .unrecognised url ∧
    extractPageId tables url = .ok none
  read : ∀ (index : Nat) (url : String), urls[index]? = some url →
    (ContextNotice.unrecognised url ∈ reading.notices) ∨
      ∃ pageId, Denotes tables url pageId ∧
        ((url, pageId) ∈ reading.pins ∨
          ∃ earlier < index, ∃ other, urls[earlier]? = some other ∧ Denotes tables other pageId)

section NextUrl

variable (urls : List String) (url : String) (reading next : PinReading)

theorem first_url_kept
    (pin : String × String)
    (first : ∃ index : Nat, urls[index]? = some pin.1 ∧ Denotes tables pin.1 pin.2 ∧
      ∀ earlier < index, ∀ other, urls[earlier]? = some other → ¬ Denotes tables other pin.2) :
    ∃ index : Nat, (urls ++ [url])[index]? = some pin.1 ∧ Denotes tables pin.1 pin.2 ∧
      ∀ earlier < index, ∀ other,
        (urls ++ [url])[earlier]? = some other → ¬ Denotes tables other pin.2 := by
  rcases first with ⟨index, inUrls, denotes, first⟩
  apply Exists.intro index
  apply And.intro (get_before_concat urls url pin.1 index inUrls)
  apply And.intro denotes
  intro earlier sooner other inEarlier
  rcases get_concat urls url other earlier inEarlier with inside | ⟨atEnd, _⟩
  · exact first earlier sooner other inside
  · have inside := (List.getElem?_eq_some_iff.mp inUrls).1
    omega

theorem notice_kept
    (before : UrlsRead tables urls reading)
    (notice : ContextNotice)
    (member : notice ∈ reading.notices) :
    ∃ other ∈ urls ++ [url], notice = .unrecognised other ∧
      extractPageId tables other = .ok none := by
  rcases before.notices notice member with ⟨other, inUrls, same⟩
  exact ⟨other, List.mem_append_left _ inUrls, same⟩

theorem earlier_url_read
    (before : UrlsRead tables urls reading)
    (notices : reading.notices ⊆ next.notices)
    (pins : reading.pins ⊆ next.pins)
    (index : Nat)
    (other : String)
    (inUrls : urls[index]? = some other) :
    (ContextNotice.unrecognised other ∈ next.notices) ∨
      ∃ pageId, Denotes tables other pageId ∧ ((other, pageId) ∈ next.pins ∨
        ∃ earlier < index, ∃ first, (urls ++ [url])[earlier]? = some first ∧
          Denotes tables first pageId) := by
  rcases before.read index other inUrls with noticed | ⟨pageId, denotes, kept⟩
  · exact Or.inl (notices noticed)
  · apply Or.inr
    apply Exists.intro pageId
    apply And.intro denotes
    rcases kept with pinned | ⟨earlier, sooner, first, inEarlier, same⟩
    · exact Or.inl (pins pinned)
    · exact Or.inr ⟨earlier, sooner, first, get_before_concat urls url first earlier inEarlier,
        same⟩

variable (before : UrlsRead tables urls reading)

include before

theorem unrecognised_url_read
    (extracted : extractPageId tables url = .ok none) :
    UrlsRead tables (urls ++ [url])
      { reading with notices := reading.notices ++ [.unrecognised url] } := by
  have nothing : denoted tables url = none := by
    unfold denoted
    rw [extracted]
  constructor
  · rw [List.filterMap_append, List.filterMap_cons_none nothing, List.filterMap_nil,
      List.append_nil]
    exact before.names
  · exact fun pin pinned => first_url_kept tables urls url pin (before.firsts pin pinned)
  · intro notice member
    rcases List.mem_append.mp member with earlier | last
    · exact notice_kept tables urls url reading before notice earlier
    · exact ⟨url, List.mem_append_right _ List.mem_cons_self, List.mem_singleton.mp last,
        extracted⟩
  · intro index other inUrls
    rcases get_concat urls url other index inUrls with inside | ⟨_, rfl⟩
    · exact earlier_url_read tables urls url reading
        { reading with notices := reading.notices ++ [.unrecognised url] } before
        (List.subset_append_left _ _) (List.Subset.refl _) index other inside
    · exact Or.inl (List.mem_append_right _ List.mem_cons_self)

variable (pageId : String) (denotes : Denotes tables url pageId)

include denotes

theorem known_url_read
    (known : pageId ∈ urls.filterMap (denoted tables)) :
    UrlsRead tables (urls ++ [url]) reading := by
  constructor
  · rw [denoted_concat tables urls url pageId denotes, erase_dups_concat, if_pos known]
    exact before.names
  · exact fun pin pinned => first_url_kept tables urls url pin (before.firsts pin pinned)
  · exact notice_kept tables urls url reading before
  · intro index other inUrls
    rcases get_concat urls url other index inUrls with inside | ⟨atEnd, rfl⟩
    · exact earlier_url_read tables urls url reading reading before (List.Subset.refl _)
        (List.Subset.refl _) index other inside
    · rcases List.mem_filterMap.mp known with ⟨first, inEarlier, found⟩
      rcases List.getElem?_of_mem inEarlier with ⟨earlier, atEarlier⟩
      have sooner := (List.getElem?_eq_some_iff.mp atEarlier).1
      exact Or.inr ⟨pageId, denotes, Or.inr ⟨earlier, by omega, first,
        get_before_concat urls other first earlier atEarlier,
        (denoted_eq_some tables first pageId).mp found⟩⟩

theorem new_url_read
    (new : pageId ∉ urls.filterMap (denoted tables)) :
    UrlsRead tables (urls ++ [url]) { reading with pins := reading.pins ++ [(url, pageId)] } := by
  constructor
  · rw [denoted_concat tables urls url pageId denotes, erase_dups_concat, if_neg new,
      List.map_append, before.names]
    rfl
  · intro pin pinned
    rcases List.mem_append.mp pinned with earlier | last
    · exact first_url_kept tables urls url pin (before.firsts pin earlier)
    · cases List.mem_singleton.mp last
      refine ⟨urls.length, List.getElem?_concat_length, denotes, ?_⟩
      intro earlier sooner other inEarlier same
      rcases get_concat urls url other earlier inEarlier with inside | ⟨atEnd, _⟩
      · exact new (List.mem_filterMap.mpr ⟨other, List.mem_of_getElem? inside,
          (denoted_eq_some tables other pageId).mpr same⟩)
      · omega
  · exact notice_kept tables urls url reading before
  · intro index other inUrls
    rcases get_concat urls url other index inUrls with inside | ⟨_, rfl⟩
    · exact earlier_url_read tables urls url reading
        { reading with pins := reading.pins ++ [(url, pageId)] } before
        (List.Subset.refl _) (List.subset_append_left _ _) index other inside
    · exact Or.inr ⟨pageId, denotes, Or.inl (List.mem_append_right _ List.mem_cons_self)⟩

omit denotes

theorem urls_read_step
    (step : readUrl tables reading url = .ok next) : UrlsRead tables (urls ++ [url]) next := by
  unfold readUrl at step
  rw [bind_eq_ok] at step
  rcases step with ⟨found, extracted, step⟩
  cases found with
  | none =>
      cases step
      exact unrecognised_url_read tables urls url reading before extracted
  | some pageId =>
      dsimp only at step
      split_ifs at step with known
      · cases step
        rw [before.names, List.mem_eraseDups] at known
        exact known_url_read tables urls url reading before pageId extracted known
      · cases step
        rw [before.names, List.mem_eraseDups] at known
        exact new_url_read tables urls url reading before pageId extracted known

end NextUrl

theorem urls_read
    (urls : List String)
    (reading : PinReading)
    (returned : readUrls tables urls = .ok reading) : UrlsRead tables urls reading := by
  induction urls using List.reverseRecOn generalizing reading with
  | nil =>
      cases returned
      exact ⟨rfl, fun _ member => (nomatch member), fun _ member => (nomatch member),
        fun _ _ found => (nomatch found)⟩
  | append_singleton earlier url ih =>
      unfold readUrls at returned
      rw [List.foldlM_append, bind_eq_ok] at returned
      rcases returned with ⟨middle, first, last⟩
      rw [List.foldlM_cons, bind_eq_ok] at last
      rcases last with ⟨next, step, last⟩
      cases last
      exact urls_read_step tables earlier url middle reading (ih middle first) step

end Reading

def FiledById (seen : OrderedDict String ConfluencePage) : Prop :=
  ∀ pageId page, seen.get? pageId = some page → page.pageId = pageId

theorem add_pages_filed
    (seen : OrderedDict String ConfluencePage)
    (result : SearchResult)
    (filed : FiledById seen) : FiledById (addPages seen result) := by
  cases result with
  | error error => exact filed
  | ok pages =>
      intro pageId page found
      unfold addPages at found
      rw [MergeRules.get?_keep_first, Option.or_eq_some_iff] at found
      rcases found with known | ⟨_, new⟩
      · exact filed pageId page known
      · rcases List.mem_map.mp (OrderedDict.mem_of_lookup new) with ⟨_, _, same⟩
        cases same
        rfl

theorem filed_values_distinct
    (seen : OrderedDict String ConfluencePage)
    (filed : FiledById seen) : (seen.values.map ConfluencePage.pageId).Nodup := by
  have names : seen.values.map ConfluencePage.pageId = seen.keys := by
    unfold OrderedDict.values OrderedDict.keys
    rw [List.map_map]
    apply List.map_congr_left
    intro entry member
    exact filed entry.1 entry.2 ((seen.mem_entries_iff entry.1 entry.2).mp member)
  rw [names]
  exact seen.distinct

theorem search_pages_distinct
    (search : CqlVariant → String → SearchResult)
    (intent : QueryIntent)
    (spaces : List String)
    (recencyDays : Int) :
    ((searchPagesMulti search intent spaces recencyDays).map ConfluencePage.pageId).Nodup := by
  apply filed_values_distinct
  have empty : FiledById ∅ := fun _ _ found => nomatch found
  exact add_pages_filed _ _ (add_pages_filed _ _ (add_pages_filed _ _ empty))

section Search

variable (tables : UrlTables) (settings : ResearchSettings) (side : ContextSide)
variable (call : ContextCall)

/-- The page API answers with the page that was asked for. -/
def AnswersRequested : Prop :=
  ∀ position pageId url forceRefresh page,
    side.fetchPageMetadata position pageId url forceRefresh = .returned page →
      page.pageId = pageId

/-- The keyword search is consulted only while the pinned pages leave room. -/
def SearchedPages (pinned : Nat) (searched : List ConfluencePage) : Prop :=
  if pinned < call.limit then
    ∃ intent, side.analyseIntent call.query = .ok intent ∧
      searched = searchPagesMulti side.search intent (resolvedSpaces settings call.spaces)
        (call.recencyDays.getD settings.recencyDays)
  else searched = []

def ContextNotice.pageId? : ContextNotice → Option String
  | pageFailed pageId _ => some pageId
  | unrecognised _ | fetchFailed _ _ => none

def resultsOf (pageId : String) (response : ConfluenceContextResponse) : List ContextSearchResult :=
  response.results.filter fun result => result.page.pageId = pageId

def failuresOf (pageId : String) (response : ConfluenceContextResponse) : List ContextNotice :=
  response.errors.filter fun notice => notice.pageId? = some pageId

/-- The response has one entry for each of the pages: a result, in their order,
or an error. -/
structure ProcessedInOrder (pages : List ConfluencePage) (response : ConfluenceContextResponse) :
    Prop where
  counted : response.totalPagesFound = pages.length
  distinct : (pages.map ConfluencePage.pageId).Nodup
  ordered : (response.results.map ContextSearchResult.page).Sublist pages
  returned : ∀ (index : Nat) page extraction, pages[index]? = some page →
    side.fetchOne index page call.forceRefresh = .returned extraction →
      resultsOf page.pageId response = [contextResult page extraction] ∧
        failuresOf page.pageId response = []
  raised : ∀ (index : Nat) page message, pages[index]? = some page →
    side.fetchOne index page call.forceRefresh = .raised message →
      resultsOf page.pageId response = [] ∧
        failuresOf page.pageId response = [.pageFailed page.pageId message]

theorem pinned_ids_sublist
    (requested : AnswersRequested side)
    (pins : List (String × String)) :
    ((pinnedPages side call pins).map ConfluencePage.pageId).Sublist (pins.map Prod.snd) := by
  have names := labels_sublist (fun started : (String × String) × Nat => started.1.2)
    (fun started => (side.fetchPageMetadata started.2 started.1.2 started.1.1
      call.forceRefresh).value?) ConfluencePage.pageId
    (by
      intro started page answered
      apply requested started.2 started.1.2 started.1.1 call.forceRefresh page
      cases outcome : side.fetchPageMetadata started.2 started.1.2 started.1.1 call.forceRefresh <;>
        rw [outcome] at answered <;> cases answered
      rfl)
    pins.zipIdx
  rw [map_numbered Prod.snd pins] at names
  unfold pinnedPages pinOutcomes
  rw [List.filterMap_map]
  exact names

theorem results_in_order
    (pages : List ConfluencePage) :
    ((pageResults side call pages).map ContextSearchResult.page).Sublist pages := by
  have names := labels_sublist (fun started : ConfluencePage × Nat => started.1)
    (fun started => (side.fetchOne started.2 started.1 call.forceRefresh).value?.map
      (contextResult started.1)) ContextSearchResult.page
    (by
      intro started result made
      rcases Option.map_eq_some_iff.mp made with ⟨extraction, _, rfl⟩
      rfl)
    pages.zipIdx
  rw [List.zipIdx_map_fst] at names
  unfold pageResults pageOutcomes
  rw [List.filterMap_map]
  exact names

variable (pages : List ConfluencePage) (apart : (pages.map ConfluencePage.pageId).Nodup)
variable (index : Nat) (page : ConfluencePage) (found : pages[index]? = some page)

include apart found

theorem page_results_of :
    (pageResults side call pages).filter (fun result => result.page.pageId = page.pageId) =
      ((side.fetchOne index page call.forceRefresh).value?.map (contextResult page)).toList := by
  unfold pageResults pageOutcomes
  rw [List.filterMap_map]
  apply results_of_name (fun started : ConfluencePage × Nat => started.1.pageId) _
    (fun result : ContextSearchResult => result.page.pageId) _ pages.zipIdx _ (page, index)
    (List.mk_mem_zipIdx_iff_getElem?.mpr found)
  · intro started result made
    rcases Option.map_eq_some_iff.mp made with ⟨extraction, _, rfl⟩
    rfl
  · rw [map_numbered]
    exact apart

theorem page_notices_of :
    (pageNotices side call pages).filter (fun notice => notice.pageId? = some page.pageId) =
      ((side.fetchOne index page call.forceRefresh).message?.map
        (ContextNotice.pageFailed page.pageId)).toList := by
  unfold pageNotices pageOutcomes
  rw [List.filterMap_map]
  apply results_of_name (fun started : ConfluencePage × Nat => some started.1.pageId) _
    ContextNotice.pageId? _ pages.zipIdx _ (page, index)
    (List.mk_mem_zipIdx_iff_getElem?.mpr found)
  · intro started notice made
    rcases Option.map_eq_some_iff.mp made with ⟨message, _, rfl⟩
    rfl
  · have names : pages.map (fun page => some page.pageId) =
        (pages.map ConfluencePage.pageId).map some := List.map_map.symm
    rw [map_numbered (fun page : ConfluencePage => some page.pageId) pages, names]
    exact apart.map fun _ _ same => Option.some.inj same

omit apart found in
theorem pin_notices_about
    (pins : List (String × String))
    (pageId : String) :
    (pinNotices side call pins).filter (fun notice => notice.pageId? = some pageId) = [] := by
  rw [List.filter_eq_nil_iff]
  intro notice member
  rcases List.mem_filterMap.mp member with ⟨fetched, _, made⟩
  rcases Option.map_eq_some_iff.mp made with ⟨message, _, rfl⟩
  intro named
  cases of_decide_eq_true named

end Search

section Merge

variable (tables : UrlTables) (settings : ResearchSettings) (side : ContextSide)
variable (call : ContextCall)

theorem keyword_search_pages
    (pinned : Nat)
    (limit_nonneg : 0 ≤ call.limit)
    (found : List ConfluencePage × List String)
    (returned : keywordSearch settings side call pinned = .ok found) :
    ∃ searched, SearchedPages settings side call pinned searched ∧
      found.1 = searched.take call.limit.toNat ∧
      (searched.map ConfluencePage.pageId).Nodup := by
  unfold keywordSearch at returned
  unfold SearchedPages
  split_ifs at returned with room
  · rw [bind_eq_ok] at returned
    rcases returned with ⟨intent, analysed, same⟩
    cases same
    have distinct := search_pages_distinct side.search intent
      (resolvedSpaces settings call.spaces) (call.recencyDays.getD settings.recencyDays)
    refine ⟨_, ?_, ?_, distinct⟩
    · rw [if_pos room]
      exact ⟨intent, analysed, rfl⟩
    · rw [sliceTo, if_neg (by omega)]
  · cases returned
    refine ⟨[], ?_, List.take_nil.symm, List.nodup_nil⟩
    exact (if_neg room).mpr rfl

end Merge

def ContextNotice.Names (tables : UrlTables) (url : String) : ContextNotice → Prop
  | unrecognised other => other = url
  | fetchFailed other _ => other = url
  | pageFailed pageId _ => Denotes tables url pageId

/-- The response shows the page of the URL, or an error about it, or the page
was denoted by an earlier URL. -/
inductive Accounted (tables : UrlTables) (response : ConfluenceContextResponse)
    (urls : List String) (index : Nat) (url : String) : Prop
  | result (result : ContextSearchResult) (shown : result ∈ response.results)
      (denotes : Denotes tables url result.page.pageId)
  | error (notice : ContextNotice) (noted : notice ∈ response.errors)
      (names : notice.Names tables url)
  | earlier (earlier : Nat) (other pageId : String) (sooner : earlier < index)
      (mentioned : urls[earlier]? = some other) (same : Denotes tables other pageId)
      (denotes : Denotes tables url pageId)

section Accounting

variable (tables : UrlTables) (settings : ResearchSettings) (side : ContextSide)
variable (call : ContextCall)

/-- No call is cancelled. -/
structure Ordinary : Prop where
  fetches : ∀ position pageId url forceRefresh,
    side.fetchPageMetadata position pageId url forceRefresh ≠ .cancelled
  extractions : ∀ position page forceRefresh,
    side.fetchOne position page forceRefresh ≠ .cancelled

def fetchedCount (pins : List (String × String)) : Nat :=
  pins.zipIdx.countP fun started =>
    (side.fetchPageMetadata started.2 started.1.2 started.1.1 call.forceRefresh).value?.isSome

def EveryUrlAccounted : Prop :=
  ∃ response, searchContext tables settings call (some side) = .ok response ∧
    ∀ (index : Nat) (url : String), call.pageUrls[index]? = some url →
      Accounted tables response call.pageUrls index url

theorem pinned_count
    (pins : List (String × String)) :
    (pinnedPages side call pins).length = fetchedCount side call pins := by
  unfold pinnedPages pinOutcomes fetchedCount
  rw [List.filterMap_map, List.length_filterMap_eq_countP]
  rfl

theorem mem_pin_outcomes
    (pins : List (String × String))
    (pin : String × String)
    (outcome : Gathered ConfluencePage) :
    (pin, outcome) ∈ pinOutcomes side call pins ↔ ∃ position : Nat, pins[position]? = some pin ∧
      side.fetchPageMetadata position pin.2 pin.1 call.forceRefresh = outcome := by
  unfold pinOutcomes
  rw [List.mem_map]
  constructor
  · rintro ⟨started, member, same⟩
    cases same
    exact ⟨started.2, List.mem_zipIdx_iff_getElem?.mp member, rfl⟩
  · rintro ⟨position, found, rfl⟩
    exact ⟨(pin, position), List.mk_mem_zipIdx_iff_getElem?.mpr found, rfl⟩

theorem mem_page_outcomes
    (pages : List ConfluencePage)
    (page : ConfluencePage)
    (outcome : Gathered ContextExtractionOutput) :
    (page, outcome) ∈ pageOutcomes side call pages ↔
      ∃ position : Nat, pages[position]? = some page ∧
        side.fetchOne position page call.forceRefresh = outcome := by
  unfold pageOutcomes
  rw [List.mem_map]
  constructor
  · rintro ⟨started, member, same⟩
    cases same
    exact ⟨started.2, List.mem_zipIdx_iff_getElem?.mp member, rfl⟩
  · rintro ⟨position, found, rfl⟩
    exact ⟨(page, position), List.mk_mem_zipIdx_iff_getElem?.mpr found, rfl⟩

theorem page_accounted
    (ordinary : Ordinary side)
    (pages : List ConfluencePage)
    (page : ConfluencePage)
    (member : page ∈ pages) :
    (∃ result ∈ pageResults side call pages, result.page = page) ∨
      ∃ message, ContextNotice.pageFailed page.pageId message ∈ pageNotices side call pages := by
  rcases List.getElem?_of_mem member with ⟨position, found⟩
  have processed := (mem_page_outcomes side call pages page _).mpr ⟨position, found, rfl⟩
  cases outcome : side.fetchOne position page call.forceRefresh with
  | returned extraction =>
      rw [outcome] at processed
      exact Or.inl ⟨_, List.mem_filterMap.mpr ⟨_, processed, rfl⟩, rfl⟩
  | raised message =>
      rw [outcome] at processed
      exact Or.inr ⟨message, List.mem_filterMap.mpr ⟨_, processed, rfl⟩⟩
  | cancelled => exact absurd outcome (ordinary.extractions position page call.forceRefresh)

/-- While all fetched pages fit, every URL leaves a trace. -/
theorem accounted_of_fit
    (requested : AnswersRequested side)
    (ordinary : Ordinary side)
    (reading : PinReading)
    (spec : UrlsRead tables call.pageUrls reading)
    (searched : List ConfluencePage)
    (fits : fetchedCount side call reading.pins = 0 ∨
      fetchedCount side call reading.pins ≤ call.limit)
    (cqlUsed : List String)
    (index : Nat)
    (url : String)
    (given : call.pageUrls[index]? = some url) :
    Accounted tables
      { results := pageResults side call
          (mergePages call.limit (pinnedPages side call reading.pins) searched)
        totalPagesFound :=
          (mergePages call.limit (pinnedPages side call reading.pins) searched).length
        cqlUsed := cqlUsed
        errors := reading.notices ++ pinNotices side call reading.pins ++
          pageNotices side call
            (mergePages call.limit (pinnedPages side call reading.pins) searched) }
      call.pageUrls index url := by
  rcases spec.read index url given with unread | ⟨pageId, denotes, pinned | ⟨earlier, sooner, other,
    mentioned, same⟩⟩
  · apply Accounted.error (.unrecognised url) _ rfl
    exact List.mem_append_left _ (List.mem_append_left _ unread)
  · rcases List.getElem?_of_mem pinned with ⟨position, found⟩
    have fetched := (mem_pin_outcomes side call reading.pins (url, pageId) _).mpr
      ⟨position, found, rfl⟩
    cases outcome : side.fetchPageMetadata position pageId url call.forceRefresh with
    | returned page =>
        rw [outcome] at fetched
        have shown : page ∈ pinnedPages side call reading.pins :=
          List.mem_filterMap.mpr ⟨_, fetched, rfl⟩
        have kept : page ∈ mergePages call.limit (pinnedPages side call reading.pins) searched := by
          have length := List.length_pos_of_mem shown
          rw [pinned_count] at length
          have room : ¬ call.limit < 0 := by omega
          rw [mergePages, sliceTo, if_neg room, List.take_append, List.mem_append]
          rw [List.take_of_length_le (by rw [pinned_count]; omega)]
          exact Or.inl shown
        have own : Denotes tables url page.pageId :=
          (requested position pageId url call.forceRefresh page outcome).symm ▸ denotes
        rcases page_accounted side call ordinary _ page kept with ⟨result, inResults, rfl⟩ | ⟨message,
          noted⟩
        · exact Accounted.result result inResults own
        · exact Accounted.error (.pageFailed page.pageId message) (List.mem_append_right _ noted) own
    | raised message =>
        rw [outcome] at fetched
        apply Accounted.error (.fetchFailed url message) _ rfl
        apply List.mem_append_left
        apply List.mem_append_right
        exact List.mem_filterMap.mpr ⟨_, fetched, rfl⟩
    | cancelled =>
        exact absurd outcome (ordinary.fetches position pageId url call.forceRefresh)
  · exact Accounted.earlier earlier other pageId sooner mentioned same denotes

theorem unaccounted_of_cut
    (requested : AnswersRequested side)
    (reading : PinReading)
    (spec : UrlsRead tables call.pageUrls reading)
    (nonzero : fetchedCount side call reading.pins ≠ 0)
    (cut : call.limit < fetchedCount side call reading.pins)
    (cqlUsed : List String) :
    ∃ (index : Nat) (url : String), call.pageUrls[index]? = some url ∧
      ¬ Accounted tables
        { results := pageResults side call
            (mergePages call.limit (pinnedPages side call reading.pins) [])
          totalPagesFound :=
            (mergePages call.limit (pinnedPages side call reading.pins) []).length
          cqlUsed := cqlUsed
          errors := reading.notices ++ pinNotices side call reading.pins ++
            pageNotices side call
              (mergePages call.limit (pinnedPages side call reading.pins) []) }
        call.pageUrls index url := by
  have pinsApart : (reading.pins.map Prod.snd).Nodup := by
    rw [spec.names]
    exact erase_dups_nodup _
  have pagesApart := (pinned_ids_sublist side call requested reading.pins).nodup pinsApart
  rw [← pinned_count] at nonzero cut
  rcases slice_to_short _ call.limit (fun none => nonzero (by rw [none]; rfl)) cut with
    ⟨kept, short, pages⟩
  rcases name_left_out ConfluencePage.pageId _ pagesApart kept short with ⟨page, fetched, left⟩
  have merged : mergePages call.limit (pinnedPages side call reading.pins) [] =
      (pinnedPages side call reading.pins).take kept := by
    rw [mergePages, List.filter_nil, List.append_nil, pages]
  rw [merged]
  rcases List.mem_filterMap.mp fetched with ⟨⟨pin, outcome⟩, inOutcomes, answered⟩
  rcases (mem_pin_outcomes side call reading.pins pin outcome).mp inOutcomes with
    ⟨position, found, fetch⟩
  have own : page.pageId = pin.2 := by
    apply requested position pin.2 pin.1 call.forceRefresh page
    rw [fetch]
    cases outcome <;> cases answered
    rfl
  rw [own] at left
  have absent (other : ConfluencePage)
      (inPages : other ∈ (pinnedPages side call reading.pins).take kept) :
      ¬ Denotes tables pin.1 other.pageId := by
    intro denotes
    rcases spec.firsts pin (List.mem_of_getElem? found) with ⟨_, _, denotesOwn, _⟩
    rw [denotes_unique tables pin.1 pin.2 other.pageId denotesOwn denotes] at left
    exact left (List.mem_map_of_mem inPages)
  rcases spec.firsts pin (List.mem_of_getElem? found) with ⟨index, given, denotes, first⟩
  refine ⟨index, pin.1, given, ?_⟩
  rintro (⟨result, shown, named⟩ | ⟨notice, noted, names⟩ | ⟨earlier, other, pageId, sooner,
    mentioned, same, named⟩)
  · have inPages := (results_in_order side call _).subset (List.mem_map_of_mem shown)
    exact absent result.page inPages named
  · rcases List.mem_append.mp noted with before | failed
    · rcases List.mem_append.mp before with unread | unfetched
      · rcases spec.notices notice unread with ⟨url, _, rfl, none⟩
        cases names
        rw [Denotes, none] at denotes
        cases denotes
      · rcases List.mem_filterMap.mp unfetched with ⟨⟨other, raised⟩, inOthers, made⟩
        rcases Option.map_eq_some_iff.mp made with ⟨message, failed, rfl⟩
        rcases (mem_pin_outcomes side call reading.pins other raised).mp inOthers with
          ⟨otherPosition, otherFound, otherFetch⟩
        rcases spec.firsts other (List.mem_of_getElem? otherFound) with ⟨_, _, otherDenotes, _⟩
        have sameUrl : other.1 = pin.1 := names
        rw [sameUrl] at otherDenotes
        have sameId := denotes_unique tables pin.1 pin.2 other.2 denotes otherDenotes
        have samePosition := position_of_name Prod.snd reading.pins pinsApart position
          otherPosition pin other found otherFound sameId
        rw [← samePosition, ← sameId, sameUrl, fetch] at otherFetch
        rw [← otherFetch] at failed
        cases outcome <;> cases failed
        cases answered
    · rcases List.mem_filterMap.mp failed with ⟨⟨other, raised⟩, inOthers, made⟩
      rcases Option.map_eq_some_iff.mp made with ⟨message, _, rfl⟩
      rcases (mem_page_outcomes side call _ other raised).mp inOthers with
        ⟨otherPosition, otherFound, _⟩
      exact absent other (List.mem_of_getElem? otherFound) names
  · rw [← denotes_unique tables pin.1 pin.2 pageId denotes named] at same
    exact first earlier sooner other mentioned same

/-- Every URL is accounted for exactly when the fetched pages fit into the limit. -/
theorem pinned_urls_accounted_iff
    (requested : AnswersRequested side)
    (ordinary : Ordinary side)
    (analysed : ∃ intent, side.analyseIntent call.query = .ok intent) :
    EveryUrlAccounted tables settings side call ↔
      ∃ reading, readUrls tables call.pageUrls = .ok reading ∧
        (fetchedCount side call reading.pins = 0 ∨
          fetchedCount side call reading.pins ≤ call.limit) := by
  constructor
  · rintro ⟨response, returned, accounted⟩
    unfold searchContext searchConfluence at returned
    rw [bind_eq_ok] at returned
    rcases returned with ⟨reading, read, returned⟩
    rw [bind_eq_ok] at returned
    rcases returned with ⟨found, searching, built⟩
    cases built
    refine ⟨reading, read, ?_⟩
    by_contra cut
    rw [not_or, Int.not_le] at cut
    have full : ¬ (reading.pins.length : Int) < call.limit := by
      have within := List.countP_le_length (p := fun started =>
        (side.fetchPageMetadata started.2 started.1.2 started.1.1
          call.forceRefresh).value?.isSome) (l := reading.pins.zipIdx)
      rw [List.length_zipIdx] at within
      have counted := cut.2
      unfold fetchedCount at counted
      omega
    rw [keywordSearch, if_neg full] at searching
    cases searching
    rcases unaccounted_of_cut tables side call requested reading
      (urls_read tables call.pageUrls reading read) cut.1 cut.2 [] with ⟨index, url, given, missing⟩
    exact missing (accounted index url given)
  · rintro ⟨reading, read, fits⟩
    have searches : ∃ found,
        keywordSearch settings side call reading.pins.length = .ok found := by
      unfold keywordSearch
      split_ifs
      · rcases analysed with ⟨intent, analysed⟩
        rw [analysed]
        exact ⟨_, rfl⟩
      · exact ⟨_, rfl⟩
    rcases searches with ⟨found, searching⟩
    refine ⟨_, ?_, accounted_of_fit tables side call requested ordinary reading
      (urls_read tables call.pageUrls reading read) found.1 fits found.2⟩
    unfold searchContext searchConfluence
    simp only [read, searching, bind, Except.bind]
    rfl

end Accounting

def asciiUrls : UrlTables where
  isDecimal := Char.isDigit
  queryPageId := fun _ => .ok none

def openSide : ContextSide where
  analyseIntent := fun _ => .ok {}
  search := fun _ _ => .ok [{ pageId := "1" }, { pageId := "3" }]
  fetchPageMetadata := fun _ pageId _ _ => .returned { pageId := pageId }
  fetchOne := fun _ _ _ => .returned {}

def pinnedCall (limit : Int) : ContextCall where
  query := "risk"
  limit := limit
  pageUrls := ["/pages/1", "/pages/2/plan", "/display/plan"]

theorem open_side_requested : AnswersRequested openSide := by
  intro position pageId url forceRefresh page answered
  cases answered
  rfl

theorem open_side_ordinary : Ordinary openSide :=
  ⟨fun _ _ _ _ => nofun, fun _ _ _ => nofun⟩

/-- With room for one page the second one leaves no trace. -/
theorem pinned_page_cut_silently :
    ¬ EveryUrlAccounted asciiUrls {} openSide (pinnedCall 1) := by
  rintro ⟨response, returned, accounted⟩
  have evaluated : searchContext asciiUrls {} (pinnedCall 1) (some openSide) =
      .ok {
        results := [{ page := { pageId := "1" } }]
        totalPagesFound := 1
        errors := [.unrecognised "/display/plan"] } := rfl
  rw [evaluated] at returned
  cases returned
  have second : Denotes asciiUrls "/pages/2/plan" "2" := rfl
  rcases accounted 1 "/pages/2/plan" rfl with ⟨result, shown, named⟩ | ⟨notice, noted, names⟩ |
    ⟨earlier, other, pageId, sooner, mentioned, same, named⟩
  · cases List.mem_singleton.mp shown
    exact absurd (denotes_unique asciiUrls _ _ _ second named) (by decide)
  · cases List.mem_singleton.mp noted
    have same : "/display/plan" = "/pages/2/plan" := names
    exact absurd same (by decide)
  · cases denotes_unique asciiUrls _ _ _ second named
    obtain rfl : earlier = 0 := by omega
    cases mentioned
    have first : Denotes asciiUrls "/pages/1" "1" := rfl
    exact absurd (denotes_unique asciiUrls _ _ _ first same) (by decide)

theorem pinned_pages_fit :
    EveryUrlAccounted asciiUrls {} openSide (pinnedCall 2) := by
  apply (pinned_urls_accounted_iff asciiUrls {} openSide (pinnedCall 2) open_side_requested
    open_side_ordinary ⟨{}, rfl⟩).mpr
  refine ⟨_, rfl, Or.inr ?_⟩
  decide +kernel

end AtlasMindNetra.SearchContext
