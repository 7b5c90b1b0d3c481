import AtlasMindNetra.FetchOrder

/-!
# One fetch and one extraction

The cache is looked up again under the lock. So without `force_refresh`, and as
long as nothing is lost, whoever gets the lock after a fetch has succeeded finds
the body, and one fetch is enough for every call. The same holds for the
extraction of a page's version.
-/

namespace AtlasMindNetra.ConfluencePipeline

open AtlasMindNetra.PythonValues AtlasMindNetra.ResourceRules AtlasMindNetra.RunRules
open PipelineState

set_option autoImplicit false

/-- Where a coroutine stands that holds the lock of the page: `none` while it
waits for the site, then the body. -/
def standing (pageId : String) : Coroutine → List (Option String)
  | .page own _ .fetching => if own.pageId = pageId then [none] else []
  | .page own _ (.fetched html) => if own.pageId = pageId then [some html] else []
  | .pin own .fetching => if own = pageId then [none] else []
  | .pin own (.fetched html _) => if own = pageId then [some html] else []
  | _ => []

/-- Nothing but `get_page_sections` without `force_refresh` begins for the page,
and the page stays in the cache. -/
def OnlyPlainReads (pageId : String) (_ : PipelineState) : PipelineInput → Prop
  | .beginPage page forceRefresh => page.pageId = pageId → forceRefresh = false
  | .beginPin own => own ≠ pageId
  | .losePage own => own ≠ pageId
  | _ => True

instance (pageId : String) (state : PipelineState) (input : PipelineInput) :
    Decidable (OnlyPlainReads pageId state input) := by
  cases input <;> unfold OnlyPlainReads <;> infer_instance

/-- A coroutine of the page is one of `get_page_sections` without `force_refresh`. -/
def Coroutine.isPlain (pageId : String) : Coroutine → Prop
  | .page own forceRefresh _ => own.pageId = pageId → forceRefresh = false
  | .pin own _ => own ≠ pageId

section SingleFetch

variable (extractSections : String → Sections) (pageId : String)

/-- How far the page has come: not fetched, fetched but not cached, or cached. -/
inductive FetchStage (state : PipelineState) (events : List FetchEvent) : Prop
  | before (uncached : state.pageCache.get? pageId = none)
      (lock : state.coroutines.flatMap (standing pageId) = [] ∨
        state.coroutines.flatMap (standing pageId) = [none])
      (fetched : successes events = []) (read : returns events = [])
  | between (html : String) (uncached : state.pageCache.get? pageId = none)
      (lock : state.coroutines.flatMap (standing pageId) = [some html])
      (fetched : successes events = [html]) (read : returns events = [])
  | cached (html : String) (cached : state.pageCache.get? pageId = some html)
      (lock : state.coroutines.flatMap (standing pageId) = [])
      (fetched : successes events = [html])
      (read : ∀ sections ∈ returns events, sections = extractSections html)

@[simp]
theorem successes_append
    (events later : List FetchEvent) :
    successes (events ++ later) = successes events ++ successes later := List.filterMap_append

@[simp]
theorem returns_append
    (events later : List FetchEvent) :
    returns (events ++ later) = returns events ++ returns later := List.filterMap_append

theorem standing_held
    (coroutine : Coroutine)
    (body : Option String)
    (stands : body ∈ standing pageId coroutine) : pageId ∈ heldPages coroutine := by
  cases coroutine with
  | page own forceRefresh phase =>
      cases phase <;> simp [standing] at stands <;> simp [heldPages, stands.1]
  | pin own phase =>
      cases phase <;> simp [standing] at stands <;> simp [heldPages, stands.1]

variable {extractSections} {pageId}

theorem fetch_stage_quiet
    (state after : PipelineState)
    (events : List FetchEvent)
    (cache : after.pageCache.get? pageId = state.pageCache.get? pageId)
    (lock : after.coroutines.flatMap (standing pageId) =
      state.coroutines.flatMap (standing pageId))
    (stage : FetchStage extractSections pageId state events) :
    FetchStage extractSections pageId after events := by
  cases stage with
  | before uncached free fetched read =>
      exact .before (cache.trans uncached) (by rwa [lock]) fetched read
  | between html uncached held fetched read =>
      exact .between html (cache.trans uncached) (lock.trans held) fetched read
  | cached html cached free fetched read =>
      exact .cached html (cache.trans cached) (lock.trans free) fetched read

theorem free_standing
    (capacity : Nat)
    (state : PipelineState)
    (balanced : Balanced capacity state)
    (free : pageId ∉ state.pageLocks) : state.coroutines.flatMap (standing pageId) = [] := by
  apply List.flatMap_eq_nil_iff.mpr
  intro coroutine member
  apply List.eq_nil_iff_forall_not_mem.mpr
  intro body stands
  exact free (accounted_taken pageId balanced.pageLocks coroutine member
    (standing_held pageId coroutine body stands))

variable (capacity : Nat) (state : PipelineState) (events : List FetchEvent)

theorem waiting_stage
    (waits : none ∈ state.coroutines.flatMap (standing pageId))
    (stage : FetchStage extractSections pageId state events) :
    state.pageCache.get? pageId = none ∧ state.coroutines.flatMap (standing pageId) = [none] ∧
      successes events = [] ∧ returns events = [] := by
  cases stage with
  | before uncached lock fetched read =>
      rcases lock with free | held
      · rw [free] at waits
        cases waits
      · exact ⟨uncached, held, fetched, read⟩
  | between html uncached held fetched read =>
      rw [held] at waits
      cases List.mem_singleton.mp waits
  | cached html cached free fetched read =>
      rw [free] at waits
      cases waits

theorem fetched_stage
    (html : String)
    (stands : some html ∈ state.coroutines.flatMap (standing pageId))
    (stage : FetchStage extractSections pageId state events) :
    state.coroutines.flatMap (standing pageId) = [some html] ∧
      successes events = [html] ∧ returns events = [] := by
  cases stage with
  | before uncached lock fetched read =>
      rcases lock with free | held
      · rw [free] at stands
        cases stands
      · rw [held] at stands
        cases List.mem_singleton.mp stands
  | between body uncached held fetched read =>
      rw [held] at stands
      obtain rfl : html = body := Option.some.inj (List.mem_singleton.mp stands)
      exact ⟨held, fetched, read⟩
  | cached body cached free fetched read =>
      rw [free] at stands
      cases stands

theorem read_stage
    (after : PipelineState)
    (html : String)
    (later : List FetchEvent)
    (hit : state.pageCache.get? pageId = some html)
    (cache : after.pageCache = state.pageCache)
    (lock : after.coroutines.flatMap (standing pageId) =
      state.coroutines.flatMap (standing pageId))
    (returned : later = [.returned (extractSections html)])
    (stage : FetchStage extractSections pageId state events) :
    FetchStage extractSections pageId after (events ++ later) := by
  cases stage with
  | before uncached free fetched read => cases uncached.symm.trans hit
  | between body uncached held fetched read => cases uncached.symm.trans hit
  | cached body cached free fetched read =>
      obtain rfl : body = html := Option.some.inj (cached.symm.trans hit)
      apply FetchStage.cached body
      · rw [cache]
        exact cached
      · exact lock.trans free
      · rw [successes_append, returned, fetched]
        rfl
      · rw [returns_append, returned]
        intro sections member
        rcases List.mem_append.mp member with earlier | now
        · exact read sections earlier
        · exact List.mem_singleton.mp now

theorem page_move_stage
    (balanced : Balanced capacity state)
    (index : Nat)
    (page : ConfluencePage)
    (phase next : PagePhase)
    (after : PipelineState)
    (output : PipelineOutput)
    (atIndex : state.coroutines[index]? = some (.page page false phase))
    (move : PageMove extractSections state page false phase next after output)
    (stage : FetchStage extractSections page.pageId state events) :
    FetchStage extractSections page.pageId (after.moved index (.page page false next))
      (events ++ moveEvents index (.page page false phase) (.page page false next)) := by
  have looked : cachedPage state page false = state.pageCache.get? page.pageId := rfl
  have keeps := held_of_set_same (standing page.pageId) state.coroutines index _
    (.page page false next) atIndex
  have only := held_of_set_only (standing page.pageId) state.coroutines index _
    (.page page false next) atIndex
  -- What the coroutine stands for is among what all of them stand for.
  have among (body : Option String)
      (stands : standing page.pageId (.page page false phase) = [body]) :
      body ∈ state.coroutines.flatMap (standing page.pageId) := by
    apply List.mem_flatMap.mpr
    exact ⟨_, List.mem_of_getElem? atIndex, by rw [stands]; exact List.mem_cons_self⟩
  have quiet (silent : moveEvents index (.page page false phase) (.page page false next) = [])
      (cache : after.pageCache = state.pageCache) (coroutines : after.coroutines = state.coroutines)
      (same : standing page.pageId (.page page false next) =
        standing page.pageId (.page page false phase)) :
      FetchStage extractSections page.pageId (after.moved index (.page page false next))
        (events ++ moveEvents index (.page page false phase) (.page page false next)) := by
    rw [silent, List.append_nil]
    apply fetch_stage_quiet state _ events _ _ stage
    · rw [PipelineState.moved, cache]
    · rw [PipelineState.moved, coroutines]
      exact keeps same
  have fetching : standing page.pageId (.page page false .fetching) = [none] := if_pos rfl
  have fetched (html : String) : standing page.pageId (.page page false (.fetched html)) =
      [some html] := if_pos rfl
  cases move with
  | enters free => exact quiet rfl rfl rfl rfl
  | misses miss => exact quiet rfl rfl rfl rfl
  | extractionMisses sections miss => exact quiet rfl rfl rfl rfl
  | extractionHits sections extraction hit => exact quiet rfl rfl rfl rfl
  | extractionLocks sections free miss => exact quiet rfl rfl rfl rfl
  | extractionHitsLocked sections extraction free hit => exact quiet rfl rfl rfl rfl
  | replied sections reply => exact quiet rfl rfl rfl rfl
  | failed sections error => exact quiet rfl rfl rfl rfl
  | hits html hit =>
      rw [looked] at hit
      exact read_stage state events _ html _ hit rfl (keeps rfl) rfl stage
  | hitsLocked html free hit =>
      rw [looked] at hit
      exact read_stage state events _ html _ hit rfl (keeps rfl) rfl stage
  | locks free miss =>
      have nobody := free_standing capacity state balanced free
      cases stage with
      | before uncached lock unfetched read =>
          apply FetchStage.before
          · exact uncached
          · rw [← fetching]
            exact Or.inr (only nobody (by rw [fetching]; exact Nat.le_refl 1))
          · rw [successes_append, unfetched]
            rfl
          · rw [returns_append, read]
            rfl
      | between html uncached held one read => cases nobody.symm.trans held
      | cached html cached lock one read => cases miss.symm.trans cached
  | answered html newest =>
      rcases waiting_stage state events (among none fetching) stage with
        ⟨uncached, held, unfetched, read⟩
      apply FetchStage.between html
      · exact uncached
      · rw [← fetched html]
        exact only (held.trans fetching.symm) (by rw [fetched]; exact Nat.le_refl 1)
      · rw [successes_append, unfetched]
        rfl
      · rw [returns_append, read]
        rfl
  | refused message =>
      rcases waiting_stage state events (among none fetching) stage with
        ⟨uncached, held, unfetched, read⟩
      apply FetchStage.before
      · exact uncached
      · exact Or.inl (only (held.trans fetching.symm) (Nat.zero_le 1))
      · rw [successes_append, unfetched]
        rfl
      · rw [returns_append, read]
        rfl
  | stores html =>
      rcases fetched_stage state events html (among (some html) (fetched html)) stage with
        ⟨held, one, read⟩
      apply FetchStage.cached html
      · exact OrderedDict.get?_set_self _ _ _
      · exact only (held.trans (fetched html).symm) (Nat.zero_le 1)
      · rw [successes_append, one]
        rfl
      · rw [returns_append, read]
        intro sections member
        exact List.mem_singleton.mp member

theorem standing_foreign
    (coroutine : Coroutine)
    (foreign : coroutine.pageId ≠ pageId) : standing pageId coroutine = [] := by
  cases coroutine with
  | page own forceRefresh phase =>
      cases phase with
      | fetching => exact if_neg foreign
      | fetched html => exact if_neg foreign
      | _ => rfl
  | pin own phase =>
      cases phase with
      | fetching => exact if_neg foreign
      | fetched html lastModified => exact if_neg foreign
      | _ => rfl

theorem foreign_move_stage
    (index : Nat)
    (old new : Coroutine)
    (after : PipelineState)
    (atIndex : state.coroutines[index]? = some old)
    (foreign : old.pageId ≠ pageId)
    (same : new.pageId = old.pageId)
    (coroutines : after.coroutines = state.coroutines)
    (cache : after.pageCache.get? pageId = state.pageCache.get? pageId)
    (stage : FetchStage extractSections pageId state events) :
    FetchStage extractSections pageId (after.moved index new)
      (events ++ if old.pageId = pageId then moveEvents index old new else []) := by
  rw [if_neg foreign, List.append_nil]
  apply fetch_stage_quiet state (after.moved index new) events cache _ stage
  rw [PipelineState.moved, coroutines]
  apply held_of_set_same _ _ index old new atIndex
  rw [standing_foreign old foreign, standing_foreign new (same ▸ foreign)]

structure PlainRun (extractSections : String → Sections) (pageId : String) (capacity : Nat)
    (state : PipelineState) (events : List FetchEvent) : Prop where
  balanced : Balanced capacity state
  plain : ∀ coroutine ∈ state.coroutines, coroutine.isPlain pageId
  stage : FetchStage extractSections pageId state events

theorem step_plain
    (input : PipelineInput)
    (allowed : OnlyPlainReads pageId state input)
    (plain : ∀ coroutine ∈ state.coroutines, coroutine.isPlain pageId) :
    ∀ coroutine ∈ (pipelineStep extractSections state input).1.coroutines,
      coroutine.isPlain pageId := by
  apply step_coroutines extractSections state input
  · exact fun _ _ _ _ own => own
  · exact fun _ _ _ foreign => foreign
  · rintro page forceRefresh rfl
    exact allowed
  · rintro own rfl
    exact allowed
  · exact plain

theorem step_plain_run
    (input : PipelineInput)
    (run : PlainRun extractSections pageId capacity state events)
    (allowed : OnlyPlainReads pageId state input) :
    PlainRun extractSections pageId capacity (pipelineStep extractSections state input).1
      (events ++ fetchEvents extractSections pageId state input) := by
  apply PlainRun.mk (step_balanced extractSections capacity state run.balanced input)
    (step_plain state input allowed run.plain)
  have moves := pipeline_moves extractSections state input
  have observes := events_of_moved extractSections pageId state
  have waiting := events_of_waiting extractSections pageId state input
  generalize stepped : (pipelineStep extractSections state input).1 = after at moves waiting ⊢
  generalize (pipelineStep extractSections state input).2 = output at moves
  have still (same : after.coroutines = state.coroutines)
      (cache : after.pageCache.get? pageId = state.pageCache.get? pageId) :
      FetchStage extractSections pageId after
        (events ++ fetchEvents extractSections pageId state input) := by
    rw [waiting same, List.append_nil]
    exact fetch_stage_quiet state after events cache (by rw [same]) run.stage
  have begun (coroutine : Coroutine) (stands : standing pageId coroutine = [])
      (silent : fetchEvents extractSections pageId state input = [])
      (cache : after.pageCache = state.pageCache)
      (same : after.coroutines = state.coroutines ++ [coroutine]) :
      FetchStage extractSections pageId after
        (events ++ fetchEvents extractSections pageId state input) := by
    rw [silent, List.append_nil]
    apply fetch_stage_quiet state after events (by rw [cache]) _ run.stage
    rw [same, List.flatMap_append, List.flatMap_singleton, stands, List.append_nil]
  cases moves with
  | pageMoved index page forceRefresh phase next before _ _ turn resumed atIndex move =>
      have same := page_move_coroutines extractSections state page forceRefresh phase next before _
        move
      rw [observes before input index _ _ turn atIndex same stepped]
      by_cases own : page.pageId = pageId
      · have refreshes : forceRefresh = false := run.plain _ (List.mem_of_getElem? atIndex) own
        subst own refreshes
        simp only [Coroutine.pageId, if_true]
        exact page_move_stage capacity state events run.balanced index page phase next before _ atIndex
          move run.stage
      · apply foreign_move_stage state events index _ (.page page forceRefresh next) before atIndex
          own rfl same _ run.stage
        cases move with
        | stores html => exact OrderedDict.get?_set_other _ _ (Ne.symm own)
        | _ => rfl
  | pinMoved index own phase next before _ _ turn resumed atIndex move =>
      have same := pin_move_coroutines state own phase next before _ move
      have foreign : own ≠ pageId := run.plain _ (List.mem_of_getElem? atIndex)
      rw [observes before input index _ _ turn atIndex same stepped]
      apply foreign_move_stage state events index _ (.pin own next) before atIndex foreign rfl same _
        run.stage
      cases move with
      | stores html lastModified => exact OrderedDict.get?_set_other _ _ (Ne.symm foreign)
      | _ => rfl
  | pageBegun page forceRefresh found => exact begun _ rfl rfl rfl rfl
  | pinBegun own => exact begun _ rfl rfl rfl rfl
  | waits => exact still rfl rfl
  | edited own html => exact still rfl rfl
  | found own page => exact still rfl rfl
  | pageLost own =>
      apply still rfl
      rw [OrderedDict.get?_erase, if_neg (Ne.symm allowed)]
  | extractionLost key => exact still rfl rfl

end SingleFetch

/-- How a call of `extract` has ended that returned. -/
inductive ExtractionEvent where
  | answered (extraction : Extraction)
  | reused (extraction : Extraction)
  deriving DecidableEq

def endEvents (key : String × Nat) : Coroutine → PipelineOutput → List ExtractionEvent
  | .page own _ (.asking _), .extracted _ extraction =>
      if extractionKey own = key then [.answered extraction] else []
  | .page own _ _, .extracted _ extraction =>
      if extractionKey own = key then [.reused extraction] else []
  | _, _ => []

def extractionEvents (extractSections : String → Sections) (key : String × Nat)
    (state : PipelineState) (input : PipelineInput) : List ExtractionEvent :=
  match (turnOf input).bind fun index => state.coroutines[index]? with
  | some coroutine => endEvents key coroutine (pipelineStep extractSections state input).2
  | none => []

def answers (events : List ExtractionEvent) : List Extraction :=
  events.filterMap fun event =>
    match event with
    | .answered extraction => some extraction
    | .reused _ => none

/-- What the calls of `extract` have returned. -/
def extractions (events : List ExtractionEvent) : List Extraction :=
  events.map fun event =>
    match event with
    | .answered extraction | .reused extraction => extraction

/-- Nothing but `extract` without `force_refresh` begins for the version, and
the version stays in the cache. -/
def OnlyPlainExtractions (key : String × Nat) (_ : PipelineState) : PipelineInput → Prop
  | .beginPage page forceRefresh => extractionKey page = key → forceRefresh = false
  | .loseExtraction own => own ≠ key
  | _ => True

instance (key : String × Nat) (state : PipelineState) (input : PipelineInput) :
    Decidable (OnlyPlainExtractions key state input) := by
  cases input <;> unfold OnlyPlainExtractions <;> infer_instance

/-- A coroutine of the version does without `force_refresh`. -/
def Coroutine.extractsPlain (key : String × Nat) : Coroutine → Prop
  | .page own forceRefresh _ => extractionKey own = key → forceRefresh = false
  | .pin _ _ => True

section SingleExtraction

variable (extractSections : String → Sections) (key : String × Nat)

/-- Nothing is extracted yet, or one extraction is cached and nobody asks for another. -/
inductive ExtractionStage (state : PipelineState) (events : List ExtractionEvent) : Prop
  | before (uncached : state.extractCache.get? key = none) (nothing : events = [])
  | cached (extraction : Extraction) (cached : state.extractCache.get? key = some extraction)
      (silent : ∀ coroutine ∈ state.coroutines, key ∉ heldVersions coroutine)
      (answered : answers events = [extraction])
      (returned : ∀ other ∈ extractions events, other = extraction)

@[simp]
theorem answers_append
    (events later : List ExtractionEvent) :
    answers (events ++ later) = answers events ++ answers later := List.filterMap_append

@[simp]
theorem extractions_append
    (events later : List ExtractionEvent) :
    extractions (events ++ later) = extractions events ++ extractions later := List.map_append

variable {extractSections key}
variable (capacity : Nat) (state after : PipelineState) (events : List ExtractionEvent)

theorem extraction_stage_quiet
    (cache : after.extractCache.get? key = state.extractCache.get? key)
    (askers : ∀ coroutine ∈ after.coroutines, key ∈ heldVersions coroutine →
      ∃ old ∈ state.coroutines, key ∈ heldVersions old)
    (stage : ExtractionStage key state events) : ExtractionStage key after events := by
  cases stage with
  | before uncached nothing => exact .before (cache.trans uncached) nothing
  | cached extraction cached silent answered returned =>
      apply ExtractionStage.cached extraction (cache.trans cached)
      · intro coroutine member asks
        rcases askers coroutine member asks with ⟨old, known, asked⟩
        exact silent old known asked
      · exact answered
      · exact returned

theorem moved_askers
    (index : Nat)
    (old new : Coroutine)
    (atIndex : state.coroutines[index]? = some old)
    (moved : after.coroutines = state.coroutines.set index new)
    (fewer : key ∈ heldVersions new → key ∈ heldVersions old)
    (coroutine : Coroutine)
    (member : coroutine ∈ after.coroutines)
    (asks : key ∈ heldVersions coroutine) :
    ∃ old ∈ state.coroutines, key ∈ heldVersions old := by
  rw [moved] at member
  rcases List.mem_or_eq_of_mem_set member with before | rfl
  · exact ⟨coroutine, before, asks⟩
  · exact ⟨old, List.mem_of_getElem? atIndex, fewer asks⟩

theorem reuse_stage
    (extraction : Extraction)
    (later : List ExtractionEvent)
    (hit : state.extractCache.get? key = some extraction)
    (cache : after.extractCache = state.extractCache)
    (askers : ∀ coroutine ∈ after.coroutines, key ∈ heldVersions coroutine →
      ∃ old ∈ state.coroutines, key ∈ heldVersions old)
    (returned : later = [.reused extraction])
    (stage : ExtractionStage key state events) : ExtractionStage key after (events ++ later) := by
  cases stage with
  | before uncached nothing => cases uncached.symm.trans hit
  | cached known cached silent answered all =>
      obtain rfl : known = extraction := Option.some.inj (cached.symm.trans hit)
      apply ExtractionStage.cached known
      · rw [cache]
        exact cached
      · intro coroutine member asks
        rcases askers coroutine member asks with ⟨old, here, asked⟩
        exact silent old here asked
      · rw [answers_append, returned, answered]
        rfl
      · rw [extractions_append, returned]
        intro other member
        rcases List.mem_append.mp member with earlier | now
        · exact all other earlier
        · exact List.mem_singleton.mp now

theorem page_move_extraction
    (balanced : Balanced capacity state)
    (index : Nat)
    (page : ConfluencePage)
    (phase next : PagePhase)
    (output : PipelineOutput)
    (atIndex : state.coroutines[index]? = some (.page page false phase))
    (move : PageMove extractSections state page false phase next after output)
    (stage : ExtractionStage (extractionKey page) state events) :
    ExtractionStage (extractionKey page) (after.moved index (.page page false next))
      (events ++ endEvents (extractionKey page) (.page page false phase) output) := by
  have same := page_move_coroutines extractSections state page false phase next after output move
  have looked : cachedExtraction state page false =
      state.extractCache.get? (extractionKey page) := rfl
  -- A coroutine that asks for nothing after its turn leaves nobody else to ask.
  have askers (idle : heldVersions (.page page false next) = []) :
      ∀ coroutine ∈ (after.moved index (.page page false next)).coroutines,
        extractionKey page ∈ heldVersions coroutine →
          ∃ old ∈ state.coroutines, extractionKey page ∈ heldVersions old := by
    apply moved_askers state _ index _ _ atIndex (by rw [PipelineState.moved, same])
    rw [idle]
    intro member
    cases member
  have quiet (silent : endEvents (extractionKey page) (.page page false phase) output = [])
      (cache : after.extractCache = state.extractCache)
      (idle : heldVersions (.page page false next) = []) :
      ExtractionStage (extractionKey page) (after.moved index (.page page false next))
        (events ++ endEvents (extractionKey page) (.page page false phase) output) := by
    rw [silent, List.append_nil]
    apply extraction_stage_quiet state (after.moved index (.page page false next)) events
    · rw [PipelineState.moved, cache]
    · exact askers idle
    · exact stage
  cases move with
  | extractionHits sections extraction hit =>
      rw [looked] at hit
      exact reuse_stage state _ events extraction _ hit rfl (askers rfl) (if_pos rfl) stage
  | extractionHitsLocked sections extraction free hit =>
      rw [looked] at hit
      exact reuse_stage state _ events extraction _ hit rfl (askers rfl) (if_pos rfl) stage
  | extractionLocks sections free miss =>
      cases stage with
      | before uncached nothing =>
          apply ExtractionStage.before
          · exact uncached
          · rw [nothing]
            rfl
      | cached known cached silent answered all => cases miss.symm.trans cached
  | replied sections reply =>
      have asked : extractionKey page ∈ heldVersions (.page page false (.asking sections)) :=
        List.mem_singleton.mpr rfl
      cases stage with
      | before uncached nothing =>
          have ended : endEvents (extractionKey page) (.page page false (.asking sections))
              (.extracted page { output := reply, sections }) =
                [.answered { output := reply, sections }] := if_pos rfl
          rw [nothing, ended]
          apply ExtractionStage.cached { output := reply, sections }
          · exact OrderedDict.get?_set_self _ _ _
          · intro coroutine member asks
            rcases List.getElem?_of_mem member with ⟨position, found⟩
            rcases moved_position state _ index _ (.page page false .finished) atIndex rfl position
              coroutine found with ⟨_, rfl⟩ | ⟨apart, stood⟩
            · cases asks
            · exact apart (accounted_unique (extractionKey page) balanced.extractLocks
                balanced.extractLocksOnce position index coroutine _ stood atIndex asks asked)
          · rfl
          · intro other member
            exact List.mem_singleton.mp member
      | cached known cached silent answered all =>
          exact absurd asked (silent _ (List.mem_of_getElem? atIndex))
  | extractionMisses sections miss => exact quiet rfl rfl rfl
  | failed sections error => exact quiet rfl rfl rfl
  | enters free => exact quiet rfl rfl rfl
  | misses miss => exact quiet rfl rfl rfl
  | hits html hit => exact quiet rfl rfl rfl
  | locks free miss => exact quiet rfl rfl rfl
  | hitsLocked html free hit => exact quiet rfl rfl rfl
  | answered html newest => exact quiet rfl rfl rfl
  | refused message => exact quiet rfl rfl rfl
  | stores html => exact quiet rfl rfl rfl

theorem foreign_move_extraction
    (index : Nat)
    (old new : Coroutine)
    (output : PipelineOutput)
    (atIndex : state.coroutines[index]? = some old)
    (silent : endEvents key old output = [])
    (coroutines : after.coroutines = state.coroutines)
    (cache : after.extractCache.get? key = state.extractCache.get? key)
    (idle : key ∉ heldVersions new)
    (stage : ExtractionStage key state events) :
    ExtractionStage key (after.moved index new) (events ++ endEvents key old output) := by
  rw [silent, List.append_nil]
  apply extraction_stage_quiet state (after.moved index new) events cache _ stage
  exact moved_askers state _ index old new atIndex (by rw [PipelineState.moved, coroutines])
    fun asks => absurd asks idle

theorem foreign_version
    (page : ConfluencePage)
    (forceRefresh : Bool)
    (phase : PagePhase)
    (foreign : extractionKey page ≠ key) :
    key ∉ heldVersions (.page page forceRefresh phase) ∧
      ∀ output, endEvents key (.page page forceRefresh phase) output = [] := by
  constructor
  · intro holds
    cases phase with
    | asking sections => exact foreign (List.mem_singleton.mp holds).symm
    | _ => cases holds
  · intro output
    cases output with
    | extracted own extraction => cases phase <;> exact if_neg foreign
    | silent => cases phase <;> rfl
    | raised error => cases phase <;> rfl

theorem pin_events
    (pageId : String)
    (phase : PinPhase)
    (output : PipelineOutput) : endEvents key (.pin pageId phase) output = [] := by
  cases output <;> rfl

/-- What is observed of a step of a coroutine. -/
theorem extraction_events_of_moved
    (extractSections : String → Sections)
    (input : PipelineInput)
    (index : Nat)
    (old : Coroutine)
    (output : PipelineOutput)
    (turn : turnOf input = some index)
    (atIndex : state.coroutines[index]? = some old)
    (given : (pipelineStep extractSections state input).2 = output) :
    extractionEvents extractSections key state input = endEvents key old output := by
  simp only [extractionEvents, turn, Option.bind_some, atIndex, given]

/-- A run so far without `force_refresh` for the version. -/
structure PlainExtractionRun (key : String × Nat) (capacity : Nat) (state : PipelineState)
    (events : List ExtractionEvent) : Prop where
  balanced : Balanced capacity state
  plain : ∀ coroutine ∈ state.coroutines, coroutine.extractsPlain key
  stage : ExtractionStage key state events

theorem extraction_events_silent
    (extractSections : String → Sections)
    (input : PipelineInput)
    (given : (pipelineStep extractSections state input).2 = .silent) :
    extractionEvents extractSections key state input = [] := by
  unfold extractionEvents
  rw [given]
  split
  · rename_i coroutine _
    cases coroutine with
    | page page forceRefresh phase => cases phase <;> rfl
    | pin pageId phase => rfl
  · rfl

theorem step_extracts_plain
    (input : PipelineInput)
    (allowed : OnlyPlainExtractions key state input)
    (plain : ∀ coroutine ∈ state.coroutines, coroutine.extractsPlain key) :
    ∀ coroutine ∈ (pipelineStep extractSections state input).1.coroutines,
      coroutine.extractsPlain key := by
  apply step_coroutines extractSections state input
  · exact fun _ _ _ _ own => own
  · exact fun _ _ _ _ => trivial
  · rintro page forceRefresh rfl
    exact allowed
  · exact fun _ _ => trivial
  · exact plain

theorem step_plain_extraction
    (input : PipelineInput)
    (run : PlainExtractionRun key capacity state events)
    (allowed : OnlyPlainExtractions key state input) :
    PlainExtractionRun key capacity (pipelineStep extractSections state input).1
      (events ++ extractionEvents extractSections key state input) := by
  apply PlainExtractionRun.mk (step_balanced extractSections capacity state run.balanced input)
    (step_extracts_plain state input allowed run.plain)
  have moves := pipeline_moves extractSections state input
  have observes := @extraction_events_of_moved key state extractSections input
  have silences := @extraction_events_silent key state extractSections input
  generalize (pipelineStep extractSections state input).1 = after at moves ⊢
  generalize (pipelineStep extractSections state input).2 = output at moves observes silences
  have still (same : ∀ coroutine ∈ after.coroutines, key ∈ heldVersions coroutine →
        coroutine ∈ state.coroutines) (quiet : output = .silent)
      (cache : after.extractCache.get? key = state.extractCache.get? key) :
      ExtractionStage key after (events ++ extractionEvents extractSections key state input) := by
    rw [silences quiet, List.append_nil]
    exact extraction_stage_quiet state after events cache
      (fun coroutine member asks => ⟨coroutine, same coroutine member asks, asks⟩) run.stage
  cases moves with
  | pageMoved index page forceRefresh phase next before _ _ turn resumed atIndex move =>
      have same := page_move_coroutines extractSections state page forceRefresh phase next before _
        move
      rw [observes index _ _ turn atIndex rfl]
      by_cases own : extractionKey page = key
      · have refreshes : forceRefresh = false := run.plain _ (List.mem_of_getElem? atIndex) own
        subst own refreshes
        exact page_move_extraction capacity state before events run.balanced index page phase next _
          atIndex move run.stage
      · apply foreign_move_extraction state before events index _ (.page page forceRefresh next) _
          atIndex ((foreign_version page forceRefresh phase own).2 _) same _
          (foreign_version page forceRefresh next own).1 run.stage
        cases move with
        | replied sections reply => exact OrderedDict.get?_set_other _ _ (Ne.symm own)
        | _ => rfl
  | pinMoved index own phase next before _ _ turn resumed atIndex move =>
      have same := pin_move_coroutines state own phase next before _ move
      rw [observes index _ _ turn atIndex rfl]
      apply foreign_move_extraction state before events index _ (.pin own next) _ atIndex
        (pin_events own phase _) same _ nofun run.stage
      cases move <;> rfl
  | pageBegun page forceRefresh found =>
      apply still _ rfl rfl
      intro coroutine member asks
      rcases List.mem_append.mp member with old | new
      · exact old
      · rw [List.mem_singleton.mp new] at asks
        cases asks
  | pinBegun own =>
      apply still _ rfl rfl
      intro coroutine member asks
      rcases List.mem_append.mp member with old | new
      · exact old
      · rw [List.mem_singleton.mp new] at asks
        cases asks
  | waits => exact still (fun _ member _ => member) rfl rfl
  | edited own html => exact still (fun _ member _ => member) rfl rfl
  | found own page => exact still (fun _ member _ => member) rfl rfl
  | pageLost own => exact still (fun _ member _ => member) rfl rfl
  | extractionLost own =>
      apply still (fun _ member _ => member) rfl
      rw [OrderedDict.get?_erase, if_neg (Ne.symm allowed)]

end SingleExtraction

section Runs

variable (extractSections : String → Sections) (capacity : Nat) (initial : PipelineState)
variable (idle : Idle capacity initial) (inputs : List PipelineInput)

include idle

theorem one_fetch_in_flight
    (pageId : String) :
    (run (pipelineStep extractSections) initial inputs).1.coroutines.countP
      (Coroutine.fetches pageId) ≤ 1 := by
  have balanced := run_balanced extractSections capacity initial idle inputs
  have once := accounted_once pageId balanced.pageLocks balanced.pageLocksOnce
  apply Nat.le_trans _ once
  apply List.countP_mono_left
  intro coroutine _ fetches
  apply decide_eq_true
  cases coroutine with
  | page page forceRefresh phase =>
      cases phase with
      | fetching => exact List.mem_singleton.mpr (of_decide_eq_true fetches).symm
      | _ => cases fetches
  | pin own phase =>
      cases phase with
      | fetching => exact List.mem_singleton.mpr (of_decide_eq_true fetches).symm
      | _ => cases fetches

theorem fetches_ordered
    (pageId : String) :
    Ordered pageId (run (pipelineStep extractSections) initial inputs).1
      (observed (pipelineStep extractSections) (fetchEvents extractSections pageId) initial
        inputs) := by
  have begins : Ordered pageId initial [] := by
    constructor
    · intro index coroutine atIndex
      rw [idle.coroutines] at atIndex
      cases atIndex
    · exact List.Sublist.refl _
    · exact nofun
    · exact List.nodup_nil
  have invariant := run_observed_invariant
    (fun state events => Balanced capacity state ∧ Ordered pageId state events)
    (fun state events input holds _ => ⟨step_balanced extractSections capacity state holds.1 input,
      step_ordered extractSections pageId capacity state events input holds.1 holds.2⟩)
    initial [] inputs ⟨idle_balanced capacity initial idle, begins⟩
    (every_step_always (fun _ _ => trivial) initial inputs)
  exact invariant.2

theorem one_fetch_suffices
    (pageId : String)
    (uncached : initial.pageCache.get? pageId = none)
    (plain : EveryStep (pipelineStep extractSections) (OnlyPlainReads pageId) initial inputs) :
    FetchStage extractSections pageId (run (pipelineStep extractSections) initial inputs).1
      (observed (pipelineStep extractSections) (fetchEvents extractSections pageId) initial
        inputs) := by
  have begins : PlainRun extractSections pageId capacity initial [] := by
    constructor
    · exact idle_balanced capacity initial idle
    · rw [idle.coroutines]
      exact nofun
    · apply FetchStage.before uncached _ rfl rfl
      rw [idle.coroutines]
      exact Or.inl rfl
  have invariant := run_observed_invariant (PlainRun extractSections pageId capacity)
    (fun state events input holds allowed => step_plain_run capacity state events input holds allowed)
    initial [] inputs begins plain
  exact invariant.stage

theorem one_extraction_suffices
    (key : String × Nat)
    (uncached : initial.extractCache.get? key = none)
    (plain : EveryStep (pipelineStep extractSections) (OnlyPlainExtractions key) initial inputs) :
    ExtractionStage key (run (pipelineStep extractSections) initial inputs).1
      (observed (pipelineStep extractSections) (extractionEvents extractSections key) initial
        inputs) := by
  have begins : PlainExtractionRun key capacity initial [] := by
    constructor
    · exact idle_balanced capacity initial idle
    · rw [idle.coroutines]
      exact nofun
    · exact .before uncached rfl
  have invariant := run_observed_invariant (PlainExtractionRun key capacity)
    (fun state events input holds allowed =>
      step_plain_extraction capacity state events input holds allowed)
    initial [] inputs begins plain
  exact invariant.stage

/-- Of one page there is one fetch at a time, and its bodies are cached in the
order in which their fetches have started. Without `force_refresh` and losses
one successful fetch serves all calls, and so does one successful extraction of
a version. -/
theorem fetches_serialised :
    (∀ pageId,
      let events := observed (pipelineStep extractSections) (fetchEvents extractSections pageId)
        initial inputs
      (run (pipelineStep extractSections) initial inputs).1.coroutines.countP
          (Coroutine.fetches pageId) ≤ 1 ∧
        (starters events).Nodup ∧ (writers events).Sublist (starters events) ∧
        (initial.pageCache.get? pageId = none →
          EveryStep (pipelineStep extractSections) (OnlyPlainReads pageId) initial inputs →
            (successes events).length ≤ 1 ∧
              ∀ sections ∈ returns events, ∃ html ∈ successes events,
                sections = extractSections html)) ∧
      ∀ key,
        let events := observed (pipelineStep extractSections)
          (extractionEvents extractSections key) initial inputs
        initial.extractCache.get? key = none →
          EveryStep (pipelineStep extractSections) (OnlyPlainExtractions key) initial inputs →
            (answers events).length ≤ 1 ∧
              ∀ extraction ∈ extractions events, extraction ∈ answers events := by
  constructor
  · intro pageId events
    have ordered := fetches_ordered extractSections capacity initial idle inputs pageId
    apply And.intro (one_fetch_in_flight extractSections capacity initial idle inputs pageId)
    apply And.intro ordered.once
    apply And.intro ordered.order
    intro uncached plain
    cases one_fetch_suffices extractSections capacity initial idle inputs pageId uncached plain with
    | before _ _ fetched read =>
        rw [fetched, read]
        exact ⟨Nat.zero_le 1, nofun⟩
    | between html _ _ fetched read =>
        rw [fetched, read]
        exact ⟨Nat.le_refl 1, nofun⟩
    | cached html _ _ fetched read =>
        rw [fetched]
        exact ⟨Nat.le_refl 1, fun sections member =>
          ⟨html, List.mem_singleton.mpr rfl, read sections member⟩⟩
  · intro key events uncached plain
    cases one_extraction_suffices extractSections capacity initial idle inputs key uncached plain with
    | before _ nothing =>
        change events = [] at nothing
        rw [nothing]
        exact ⟨Nat.zero_le 1, nofun⟩
    | cached extraction _ _ answered returned =>
        rw [answered]
        exact ⟨Nat.le_refl 1, fun other member =>
          List.mem_singleton.mpr (returned other member)⟩

end Runs

/-- Two plain calls for one page: the fetch of the first one fails, and the
second one fetches the page and asks the LLM. A third call finds both. -/
def retriedFetch : List PipelineInput :=
  [.beginPage ⟨"100", 0⟩ false, .beginPage ⟨"100", 0⟩ false, .resume 0, .resume 1, .resume 0,
    .resume 1, .resume 0, .refuse 0 "503", .resume 1, .respond 1, .resume 1, .resume 1, .resume 1,
    .reply 1 (.ok {}), .beginPage ⟨"100", 0⟩ false, .resume 2, .resume 2, .resume 2]

def knownPage : PipelineState :=
  { start (fun _ => ["<p>CAR-101 blocked</p>"]) 2 with found := [⟨"100", 0⟩] }

def wholePage (html : String) : Sections := [("Status", html)]

theorem retried_fetch_serialised :
    (run (pipelineStep wholePage) knownPage retriedFetch).1.coroutines.countP
        (Coroutine.fetches "100") ≤ 1 ∧
      (successes (observed (pipelineStep wholePage) (fetchEvents wholePage "100") knownPage
        retriedFetch)).length ≤ 1 ∧
      (answers (observed (pipelineStep wholePage) (extractionEvents wholePage ("100", 0)) knownPage
        retriedFetch)).length ≤ 1 ∧
      returns (observed (pipelineStep wholePage) (fetchEvents wholePage "100") knownPage
        retriedFetch) ≠ [] := by
  have idle : Idle 2 knownPage := ⟨rfl, rfl, rfl, rfl⟩
  have serialised := fetches_serialised wholePage 2 knownPage idle retriedFetch
  apply And.intro (serialised.1 "100").1
  apply And.intro ((serialised.1 "100").2.2.2 rfl (by decide +kernel)).1
  apply And.intro (serialised.2 ("100", 0) rfl (by decide +kernel)).1
  decide +kernel

end AtlasMindNetra.ConfluencePipeline
