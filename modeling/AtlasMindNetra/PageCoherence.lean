import AtlasMindNetra.CacheRules
import AtlasMindNetra.ConfluencePipeline
import AtlasMindNetra.RunRules

/-!
# Coherence of the page and extraction caches

An extraction is filed under the version that a search or a pinned fetch named,
and computed from whatever body `get_page_sections` had. A body that was
fetched after the page was named is of that version or a later one. A body that
was cached before may be older, and then an extraction of the old body is filed
under the new version.
-/

namespace AtlasMindNetra.ConfluencePipeline

open AtlasMindNetra.PythonValues AtlasMindNetra.RunRules AtlasMindNetra.CacheRules
open PipelineState

set_option autoImplicit false

/-- The text is a body that the page had at its stamp or later. -/
def BodySince (site : String → List String) (page : ConfluencePage) (html : String) : Prop :=
  ∃ version, page.lastModified ≤ version ∧ (site page.pageId)[version]? = some html

def Stamped (site : String → List String) (page : ConfluencePage) : Prop :=
  page.lastModified < (site page.pageId).length

section Coherence

variable (extractSections : String → Sections)

def SectionsSince (site : String → List String) (page : ConfluencePage)
    (sections : Sections) : Prop :=
  ∃ html, BodySince site page html ∧ extractSections html = sections

def PhaseCoherent (site : String → List String) (page : ConfluencePage) : PagePhase → Prop
  | .fetched html => BodySince site page html
  | .extracting sections | .extractLocking sections | .asking sections =>
      SectionsSince extractSections site page sections
  | .queued | .reading | .locking | .fetching | .finished => True

def CoroutineCoherent (site : String → List String) : Coroutine → Prop
  | .page page _ phase => Stamped site page ∧ PhaseCoherent extractSections site page phase
  | .pin pageId (.fetched _ lastModified) => Stamped site ⟨pageId, lastModified⟩
  | .pin _ _ => True

/-- An extraction belongs under a key if its sections are of that version or a later one. -/
def Belongs (site : String → List String) (key : String × Nat) (extraction : Extraction) : Prop :=
  SectionsSince extractSections site ⟨key.1, key.2⟩ extraction.sections

structure Coherent (state : PipelineState) : Prop where
  found : ∀ page ∈ state.found, Stamped state.site page
  coroutines : ∀ coroutine ∈ state.coroutines,
    CoroutineCoherent extractSections state.site coroutine
  extractions : Sound (Belongs extractSections state.site) state.extractCache

def OutputCoherent (site : String → List String) : PipelineOutput → Prop
  | .extracted page extraction => SectionsSince extractSections site page extraction.sections
  | .silent | .raised _ => True

end Coherence

def pageHit (state : PipelineState) : PipelineInput → Option (ConfluencePage × String)
  | .resume index =>
      match state.coroutines[index]? with
      | some (.page page forceRefresh .reading) =>
          (cachedPage state page forceRefresh).map fun html => (page, html)
      | some (.page page forceRefresh .locking) =>
          if page.pageId ∈ state.pageLocks then none
          else (cachedPage state page forceRefresh).map fun html => (page, html)
      | _ => none
  | _ => none

/-- Where the next turn is answered from the page cache, the cached body is of
the version that the page was found at, or of a later one. -/
def ServedCurrent (state : PipelineState) (input : PipelineInput) : Prop :=
  ∀ hit ∈ pageHit state input, BodySince state.site hit.1 hit.2

theorem body_since_iff
    (site : String → List String)
    (page : ConfluencePage)
    (html : String) :
    BodySince site page html ↔ html ∈ (site page.pageId).drop page.lastModified := by
  unfold BodySince
  rw [List.mem_iff_getElem?]
  simp only [List.getElem?_drop]
  constructor
  · intro ⟨version, late, body⟩
    refine ⟨version - page.lastModified, ?_⟩
    rw [Nat.add_sub_cancel' late]
    exact body
  · intro ⟨offset, body⟩
    exact ⟨page.lastModified + offset, Nat.le_add_right _ _, body⟩

instance (site : String → List String) (page : ConfluencePage) (html : String) :
    Decidable (BodySince site page html) :=
  decidable_of_iff _ (body_since_iff site page html).symm

instance (state : PipelineState) (input : PipelineInput) : Decidable (ServedCurrent state input) :=
  inferInstanceAs (Decidable (∀ hit ∈ pageHit state input, BodySince state.site hit.1 hit.2))

section Growth

variable (extractSections : String → Sections)

theorem edited_grows
    (site : String → List String)
    (pageId html other : String) :
    site other <+: edited site pageId html other := by
  unfold edited
  split_ifs
  · exact List.prefix_append _ _
  · exact List.prefix_rfl

variable {site later : String → List String} (grows : ∀ pageId, site pageId <+: later pageId)

include grows

theorem stamped_later
    (page : ConfluencePage)
    (stamped : Stamped site page) :
    Stamped later page :=
  Nat.lt_of_lt_of_le stamped (grows page.pageId).length_le

theorem body_since_later
    (page : ConfluencePage)
    (html : String)
    (since : BodySince site page html) :
    BodySince later page html := by
  rcases since with ⟨version, late, body⟩
  rcases grows page.pageId with ⟨more, same⟩
  refine ⟨version, late, ?_⟩
  have inside : version < (site page.pageId).length := (List.getElem?_eq_some_iff.mp body).1
  rw [← same, List.getElem?_append_left inside]
  exact body

theorem sections_since_later
    (page : ConfluencePage)
    (sections : Sections)
    (since : SectionsSince extractSections site page sections) :
    SectionsSince extractSections later page sections := by
  rcases since with ⟨html, body, same⟩
  exact ⟨html, body_since_later grows page html body, same⟩

theorem coroutine_coherent_later
    (coroutine : Coroutine)
    (coherent : CoroutineCoherent extractSections site coroutine) :
    CoroutineCoherent extractSections later coroutine := by
  cases coroutine with
  | page page forceRefresh phase =>
      rcases coherent with ⟨stamped, phaseCoherent⟩
      refine ⟨stamped_later grows page stamped, ?_⟩
      cases phase with
      | fetched html => exact body_since_later grows page html phaseCoherent
      | extracting sections =>
          exact sections_since_later extractSections grows page sections phaseCoherent
      | extractLocking sections =>
          exact sections_since_later extractSections grows page sections phaseCoherent
      | asking sections =>
          exact sections_since_later extractSections grows page sections phaseCoherent
      | queued => trivial
      | reading => trivial
      | locking => trivial
      | fetching => trivial
      | finished => trivial
  | pin pageId phase =>
      cases phase with
      | fetched html lastModified => exact stamped_later grows _ coherent
      | locking => trivial
      | fetching => trivial
      | finished => trivial

end Growth

section Step

variable (extractSections : String → Sections)

theorem edit_coherent
    (state : PipelineState)
    (pageId html : String)
    (coherent : Coherent extractSections state) :
    Coherent extractSections { state with site := edited state.site pageId html } where
  found page member :=
    stamped_later (edited_grows state.site pageId html) page (coherent.found page member)
  coroutines coroutine member :=
    coroutine_coherent_later extractSections (edited_grows state.site pageId html) coroutine
      (coherent.coroutines coroutine member)
  extractions :=
    sound_weaken coherent.extractions fun _ _ belongs =>
      sections_since_later extractSections (edited_grows state.site pageId html) _ _ belongs

theorem moved_coherent
    (state : PipelineState)
    (index : Nat)
    (coroutine : Coroutine)
    (coherent : Coherent extractSections state)
    (next : CoroutineCoherent extractSections state.site coroutine) :
    Coherent extractSections (state.moved index coroutine) where
  found := coherent.found
  coroutines other member := by
    rcases List.mem_or_eq_of_mem_set member with old | new
    · exact coherent.coroutines other old
    · rw [new]
      exact next
  extractions := coherent.extractions

theorem newest_body_since
    (site : String → List String)
    (page : ConfluencePage)
    (html : String)
    (stamped : Stamped site page)
    (newest : (site page.pageId).getLast? = some html) :
    BodySince site page html := by
  rw [List.getLast?_eq_getElem?] at newest
  exact ⟨_, Nat.le_sub_one_of_lt stamped, newest⟩

theorem newest_stamped
    (site : String → List String)
    (pageId html : String)
    (newest : (site pageId).getLast? = some html) :
    Stamped site ⟨pageId, (site pageId).length - 1⟩ := by
  have present : site pageId ≠ [] := by
    intro missing
    rw [missing] at newest
    exact absurd newest (by simp)
  have positive := List.length_pos_of_ne_nil present
  exact Nat.sub_lt positive Nat.one_pos

theorem frame_coherent
    (state : PipelineState)
    (pageCache : OrderedDict String String)
    (pageLocks : List String)
    (extractLocks : List (String × Nat))
    (slots : Nat)
    (coherent : Coherent extractSections state) :
    Coherent extractSections { state with pageCache, pageLocks, extractLocks, slots } :=
  ⟨coherent.found, coherent.coroutines, coherent.extractions⟩

theorem returned_coherent
    (state : PipelineState)
    (page : ConfluencePage)
    (coherent : Coherent extractSections state)
    (stamped : Stamped state.site page) :
    Coherent extractSections (state.returned page) where
  found other member := by
    rcases List.mem_append.mp member with old | new
    · exact coherent.found other old
    · rw [List.mem_singleton.mp new]
      exact stamped
  coroutines := coherent.coroutines
  extractions := coherent.extractions

theorem cached_extraction_since
    (state : PipelineState)
    (page : ConfluencePage)
    (forceRefresh : Bool)
    (extraction : Extraction)
    (coherent : Coherent extractSections state)
    (hit : cachedExtraction state page forceRefresh = some extraction) :
    SectionsSince extractSections state.site page extraction.sections := by
  unfold cachedExtraction at hit
  split_ifs at hit
  exact coherent.extractions (extractionKey page) extraction hit

theorem resume_page_coherent
    (state : PipelineState)
    (index : Nat)
    (page : ConfluencePage)
    (forceRefresh : Bool)
    (phase : PagePhase)
    (coherent : Coherent extractSections state)
    (atIndex : state.coroutines[index]? = some (.page page forceRefresh phase))
    (served : ServedCurrent state (.resume index)) :
    Coherent extractSections (resumePage extractSections state index page forceRefresh phase).1 ∧
      OutputCoherent extractSections state.site
        (resumePage extractSections state index page forceRefresh phase).2 := by
  rcases coherent.coroutines _ (List.mem_of_getElem? atIndex) with ⟨stamped, phaseCoherent⟩
  cases phase with
  | queued =>
      simp only [resumePage]
      split_ifs
      · exact ⟨coherent, trivial⟩
      · exact ⟨moved_coherent extractSections _ index _
          (frame_coherent extractSections state _ _ _ _ coherent) ⟨stamped, trivial⟩, trivial⟩
  | reading =>
      simp only [resumePage]
      cases hit : cachedPage state page forceRefresh with
      | some html =>
          have body := served (page, html) (by simp [pageHit, atIndex, hit])
          exact ⟨moved_coherent extractSections state index _ coherent
            ⟨stamped, html, body, rfl⟩, trivial⟩
      | none =>
          exact ⟨moved_coherent extractSections state index _ coherent ⟨stamped, trivial⟩, trivial⟩
  | locking =>
      simp only [resumePage]
      split_ifs with locked
      · exact ⟨coherent, trivial⟩
      · cases hit : cachedPage state page forceRefresh with
        | some html =>
            have body := served (page, html) (by simp [pageHit, atIndex, locked, hit])
            exact ⟨moved_coherent extractSections state index _ coherent
              ⟨stamped, html, body, rfl⟩, trivial⟩
        | none =>
            exact ⟨moved_coherent extractSections _ index _
              (frame_coherent extractSections state _ _ _ _ coherent) ⟨stamped, trivial⟩, trivial⟩
  | fetched html =>
      exact ⟨moved_coherent extractSections _ index _
        (frame_coherent extractSections state _ _ _ _ coherent)
        ⟨stamped, html, phaseCoherent, rfl⟩, trivial⟩
  | extracting sections =>
      simp only [resumePage]
      cases hit : cachedExtraction state page forceRefresh with
      | some extraction =>
          exact ⟨moved_coherent extractSections _ index _
            (frame_coherent extractSections state _ _ _ _ coherent) ⟨stamped, trivial⟩,
            cached_extraction_since extractSections state page forceRefresh extraction coherent hit⟩
      | none =>
          exact ⟨moved_coherent extractSections state index _ coherent ⟨stamped, phaseCoherent⟩,
            trivial⟩
  | extractLocking sections =>
      simp only [resumePage]
      split_ifs
      · exact ⟨coherent, trivial⟩
      · cases hit : cachedExtraction state page forceRefresh with
        | some extraction =>
            exact ⟨moved_coherent extractSections _ index _
              (frame_coherent extractSections state _ _ _ _ coherent) ⟨stamped, trivial⟩,
              cached_extraction_since extractSections state page forceRefresh extraction coherent
                hit⟩
        | none =>
            exact ⟨moved_coherent extractSections _ index _
              (frame_coherent extractSections state _ _ _ _ coherent) ⟨stamped, phaseCoherent⟩,
              trivial⟩
  | fetching => exact ⟨coherent, trivial⟩
  | asking sections => exact ⟨coherent, trivial⟩
  | finished => exact ⟨coherent, trivial⟩

theorem resume_pin_coherent
    (state : PipelineState)
    (index : Nat)
    (pageId : String)
    (phase : PinPhase)
    (coherent : Coherent extractSections state)
    (pinCoherent : CoroutineCoherent extractSections state.site (.pin pageId phase)) :
    Coherent extractSections (resumePin state index pageId phase).1 ∧
      OutputCoherent extractSections state.site (resumePin state index pageId phase).2 := by
  cases phase with
  | locking =>
      simp only [resumePin]
      split_ifs
      · exact ⟨coherent, trivial⟩
      · exact ⟨moved_coherent extractSections _ index _
          (frame_coherent extractSections state _ _ _ _ coherent) trivial, trivial⟩
  | fetched html lastModified =>
      have framed := frame_coherent extractSections state (state.pageCache.set pageId html)
        (state.pageLocks.erase pageId) state.extractLocks state.slots coherent
      have known := returned_coherent extractSections _ ⟨pageId, lastModified⟩ framed pinCoherent
      exact ⟨moved_coherent extractSections _ index _ known trivial, trivial⟩
  | fetching => exact ⟨coherent, trivial⟩
  | finished => exact ⟨coherent, trivial⟩

theorem resume_coherent
    (state : PipelineState)
    (index : Nat)
    (coherent : Coherent extractSections state)
    (served : ServedCurrent state (.resume index)) :
    Coherent extractSections (resume extractSections state index).1 ∧
      OutputCoherent extractSections state.site (resume extractSections state index).2 := by
  unfold resume
  cases atIndex : state.coroutines[index]? with
  | none => exact ⟨coherent, trivial⟩
  | some coroutine =>
      have own := coherent.coroutines coroutine (List.mem_of_getElem? atIndex)
      cases coroutine with
      | page page forceRefresh phase =>
          exact resume_page_coherent extractSections state index page forceRefresh phase coherent
            atIndex served
      | pin pageId phase =>
          exact resume_pin_coherent extractSections state index pageId phase coherent own

theorem respond_coherent
    (state : PipelineState)
    (index : Nat)
    (coherent : Coherent extractSections state) :
    Coherent extractSections (respond state index) := by
  unfold respond
  split
  · rename_i page forceRefresh atIndex
    have own := coherent.coroutines _ (List.mem_of_getElem? atIndex)
    cases newest : (state.site page.pageId).getLast? with
    | none => exact coherent
    | some html =>
        exact moved_coherent extractSections state index _ coherent
          ⟨own.1, newest_body_since state.site page html own.1 newest⟩
  · rename_i pageId atIndex
    cases newest : (state.site pageId).getLast? with
    | none => exact coherent
    | some html =>
        exact moved_coherent extractSections state index _ coherent
          (newest_stamped state.site pageId html newest)
  · exact coherent

theorem refuse_coherent
    (state : PipelineState)
    (index : Nat)
    (message : String)
    (coherent : Coherent extractSections state) :
    Coherent extractSections (refuse state index message).1 ∧
      OutputCoherent extractSections state.site (refuse state index message).2 := by
  unfold refuse
  split
  · rename_i page forceRefresh atIndex
    have own := coherent.coroutines _ (List.mem_of_getElem? atIndex)
    exact ⟨moved_coherent extractSections _ index _
      (frame_coherent extractSections state _ _ _ _ coherent) ⟨own.1, trivial⟩, trivial⟩
  · exact ⟨moved_coherent extractSections _ index _
      (frame_coherent extractSections state _ _ _ _ coherent) trivial, trivial⟩
  · exact ⟨coherent, trivial⟩

theorem reply_coherent
    (state : PipelineState)
    (index : Nat)
    (answer : Except AgentError ContextExtractionOutput)
    (coherent : Coherent extractSections state) :
    Coherent extractSections (reply state index answer).1 ∧
      OutputCoherent extractSections state.site (reply state index answer).2 := by
  unfold reply
  split
  · rename_i page forceRefresh sections atIndex
    have own := coherent.coroutines _ (List.mem_of_getElem? atIndex)
    cases answer with
    | error error =>
        exact ⟨moved_coherent extractSections _ index _
          (frame_coherent extractSections state _ _ _ _ coherent) ⟨own.1, trivial⟩, trivial⟩
    | ok output =>
        have filed : Sound (Belongs extractSections state.site)
            (state.extractCache.set (extractionKey page) { output, sections }) :=
          sound_file coherent.extractions own.2 fun _ _ _ belongs => belongs
        have stored : Coherent extractSections
            { state.released with
              extractLocks := state.extractLocks.erase (extractionKey page)
              extractCache := state.extractCache.set (extractionKey page) { output, sections } } :=
          ⟨coherent.found, coherent.coroutines, filed⟩
        exact ⟨moved_coherent extractSections _ index _ stored ⟨own.1, trivial⟩, own.2⟩
  · exact ⟨coherent, trivial⟩

theorem search_coherent
    (state : PipelineState)
    (pageId : String)
    (coherent : Coherent extractSections state) :
    Coherent extractSections (search state pageId) := by
  unfold search
  split
  · exact coherent
  · rename_i first later bodies
    apply returned_coherent extractSections state _ coherent
    unfold Stamped
    rw [bodies]
    exact Nat.lt_succ_self _

theorem begun_coherent
    (state : PipelineState)
    (coroutine : Coroutine)
    (coherent : Coherent extractSections state)
    (own : CoroutineCoherent extractSections state.site coroutine) :
    Coherent extractSections { state with coroutines := state.coroutines ++ [coroutine] } where
  found := coherent.found
  coroutines other member := by
    rcases List.mem_append.mp member with old | new
    · exact coherent.coroutines other old
    · rw [List.mem_singleton.mp new]
      exact own
  extractions := coherent.extractions

theorem step_coherent
    (state : PipelineState)
    (input : PipelineInput)
    (coherent : Coherent extractSections state)
    (served : ServedCurrent state input) :
    Coherent extractSections (pipelineStep extractSections state input).1 ∧
      OutputCoherent extractSections state.site (pipelineStep extractSections state input).2 := by
  cases input with
  | edit pageId html => exact ⟨edit_coherent extractSections state pageId html coherent, trivial⟩
  | search pageId => exact ⟨search_coherent extractSections state pageId coherent, trivial⟩
  | beginPage page forceRefresh =>
      simp only [pipelineStep]
      split_ifs with found
      · exact ⟨begun_coherent extractSections state _ coherent
          ⟨coherent.found page found, trivial⟩, trivial⟩
      · exact ⟨coherent, trivial⟩
  | beginPin pageId =>
      exact ⟨begun_coherent extractSections state _ coherent trivial, trivial⟩
  | resume index => exact resume_coherent extractSections state index coherent served
  | respond index => exact ⟨respond_coherent extractSections state index coherent, trivial⟩
  | refuse index message => exact refuse_coherent extractSections state index message coherent
  | reply index answer => exact reply_coherent extractSections state index answer coherent
  | losePage pageId =>
      exact ⟨frame_coherent extractSections state _ _ _ _ coherent, trivial⟩
  | loseExtraction key =>
      exact ⟨⟨coherent.found, coherent.coroutines,
        sound_forget coherent.extractions (get?_of_erase state.extractCache key)⟩, trivial⟩

theorem start_coherent
    (site : String → List String)
    (slots : Nat) :
    Coherent extractSections (start site slots) :=
  ⟨by simp [start], by simp [start], sound_empty _⟩

/-- After every run whose lookups in the page cache were current, the
extraction cache holds only extractions that belong there, and whatever
`extract` returns next was computed from a body of the page's version or a later one. -/
theorem extractions_coherent
    (site : String → List String)
    (slots : Nat)
    (inputs : List PipelineInput)
    (steps : EveryStep (pipelineStep extractSections) ServedCurrent (start site slots) inputs)
    (next : PipelineInput)
    (served : ServedCurrent (run (pipelineStep extractSections) (start site slots) inputs).1 next) :
    Sound
        (Belongs extractSections
          (run (pipelineStep extractSections) (start site slots) inputs).1.site)
        (run (pipelineStep extractSections) (start site slots) inputs).1.extractCache ∧
      OutputCoherent extractSections
        (run (pipelineStep extractSections) (start site slots) inputs).1.site
        (pipelineStep extractSections
          (run (pipelineStep extractSections) (start site slots) inputs).1 next).2 := by
  have coherent := run_invariant (Coherent extractSections)
    (fun state input coherent served => (step_coherent extractSections state input coherent served).1)
    (start site slots) inputs (start_coherent extractSections site slots) steps
  exact ⟨coherent.extractions, (step_coherent extractSections _ next coherent served).2⟩

end Step

def olderBody : String := "<h2>Status</h2><p>CAR-101 blocked</p>"

def newerBody : String := "<h2>Status</h2><p>CAR-101 resolved</p>"

def sampleSections (html : String) : Sections :=
  if html = olderBody then [("Status", "CAR-101 blocked")]
  else if html = newerBody then [("Status", "CAR-101 resolved")]
  else []

def sampleSite (pageId : String) : List String := if pageId = "100" then [olderBody] else []

def sampleOutput : ContextExtractionOutput where
  jiraKeysMentioned := ["CAR-101"]

/-- The page is edited before its body is fetched, and found again in its newer
version, whose body the page cache then serves. -/
def servedResearch : List PipelineInput :=
  [.search "100", .edit "100" newerBody, .beginPage ⟨"100", 0⟩ false, .resume 0, .resume 0,
    .resume 0, .respond 0, .resume 0, .resume 0, .resume 0, .reply 0 (.ok sampleOutput),
    .search "100", .beginPage ⟨"100", 1⟩ false, .resume 1, .resume 1, .resume 1, .resume 1]

theorem served_research_coherent :
    EveryStep (pipelineStep sampleSections) ServedCurrent (start sampleSite 5) servedResearch ∧
      OutputCoherent sampleSections
        (run (pipelineStep sampleSections) (start sampleSite 5) servedResearch).1.site
        (pipelineStep sampleSections
          (run (pipelineStep sampleSections) (start sampleSite 5) servedResearch).1
          (.reply 1 (.ok sampleOutput))).2 := by
  have steps : EveryStep (pipelineStep sampleSections) ServedCurrent (start sampleSite 5)
      servedResearch := by decide +kernel
  have served : ServedCurrent (run (pipelineStep sampleSections) (start sampleSite 5)
      servedResearch).1 (.reply 1 (.ok sampleOutput)) := by decide +kernel
  exact ⟨steps, (extractions_coherent sampleSections sampleSite 5 servedResearch steps _ served).2⟩

def firstResearch : List PipelineInput :=
  [.search "100", .beginPage ⟨"100", 0⟩ false, .resume 0, .resume 0, .resume 0, .respond 0,
    .resume 0, .resume 0, .resume 0]

/-- The page is edited after its body was fetched, found again, and served from the
page cache. -/
def secondResearch : List PipelineInput :=
  firstResearch ++
    [.reply 0 (.ok sampleOutput), .edit "100" newerBody, .search "100",
      .beginPage ⟨"100", 1⟩ false, .resume 1, .resume 1, .resume 1, .resume 1]

/-- The extraction of the older body is returned for the newer version. -/
theorem second_research_outdated :
    ¬ OutputCoherent sampleSections
      (run (pipelineStep sampleSections) (start sampleSite 5) secondResearch).1.site
      (pipelineStep sampleSections
        (run (pipelineStep sampleSections) (start sampleSite 5) secondResearch).1
        (.reply 1 (.ok sampleOutput))).2 := by
  have bodies :
      (run (pipelineStep sampleSections) (start sampleSite 5) secondResearch).1.site "100" =
        [olderBody, newerBody] := by decide +kernel
  have output :
      (pipelineStep sampleSections
        (run (pipelineStep sampleSections) (start sampleSite 5) secondResearch).1
        (.reply 1 (.ok sampleOutput))).2 =
      .extracted ⟨"100", 1⟩ ⟨sampleOutput, [("Status", "CAR-101 blocked")]⟩ := by decide +kernel
  rw [output]
  intro coherent
  rcases coherent with ⟨html, since, sections⟩
  rw [body_since_iff, bodies] at since
  have newest : html = newerBody := by simpa using since
  subst newest
  exact absurd sections (by decide)

end AtlasMindNetra.ConfluencePipeline
