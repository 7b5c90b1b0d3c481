import AtlasMindNetra.ConfluencePipeline
import AtlasMindNetra.ResourceRules
import AtlasMindNetra.RunRules

/-!
# What one step of the pipeline can do

A step moves at most one coroutine, from one place to the next, and takes or
gives back at most one lock and one slot with it. The moves are listed once.
From them it follows that the taken locks and slots are always those of the
coroutines that stand inside the blocks they guard.
-/

namespace AtlasMindNetra.ConfluencePipeline

open AtlasMindNetra.PythonValues AtlasMindNetra.ResourceRules AtlasMindNetra.RunRules
open PipelineState

set_option autoImplicit false

/-- A move of a page coroutine: the place it leaves and the one it reaches, with
the state but for the coroutine itself. -/
inductive PageMove (extractSections : String → Sections) (state : PipelineState)
    (page : ConfluencePage) (forceRefresh : Bool) :
    PagePhase → PagePhase → PipelineState → PipelineOutput → Prop
  | enters (free : state.slots ≠ 0) :
      PageMove extractSections state page forceRefresh .queued .reading
        { state with slots := state.slots - 1 } .silent
  | misses (miss : cachedPage state page forceRefresh = none) :
      PageMove extractSections state page forceRefresh .reading .locking state .silent
  | hits (html : String) (hit : cachedPage state page forceRefresh = some html) :
      PageMove extractSections state page forceRefresh .reading
        (.extracting (extractSections html)) state .silent
  | locks (free : page.pageId ∉ state.pageLocks)
      (miss : cachedPage state page forceRefresh = none) :
      PageMove extractSections state page forceRefresh .locking .fetching
        { state with pageLocks := page.pageId :: state.pageLocks } .silent
  | hitsLocked (html : String) (free : page.pageId ∉ state.pageLocks)
      (hit : cachedPage state page forceRefresh = some html) :
      PageMove extractSections state page forceRefresh .locking
        (.extracting (extractSections html)) state .silent
  | answered (html : String) (newest : (state.site page.pageId).getLast? = some html) :
      PageMove extractSections state page forceRefresh .fetching (.fetched html) state .silent
  | refused (message : String) :
      PageMove extractSections state page forceRefresh .fetching .finished
        { state.released with pageLocks := state.pageLocks.erase page.pageId }
        (.raised (.other message))
  | stores (html : String) :
      PageMove extractSections state page forceRefresh (.fetched html)
        (.extracting (extractSections html))
        { state with
          pageCache := state.pageCache.set page.pageId html
          pageLocks := state.pageLocks.erase page.pageId } .silent
  | extractionMisses (sections : Sections)
      (miss : cachedExtraction state page forceRefresh = none) :
      PageMove extractSections state page forceRefresh (.extracting sections)
        (.extractLocking sections) state .silent
  | extractionHits (sections : Sections) (extraction : Extraction)
      (hit : cachedExtraction state page forceRefresh = some extraction) :
      PageMove extractSections state page forceRefresh (.extracting sections) .finished
        state.released (.extracted page extraction)
  | extractionLocks (sections : Sections) (free : extractionKey page ∉ state.extractLocks)
      (miss : cachedExtraction state page forceRefresh = none) :
      PageMove extractSections state page forceRefresh (.extractLocking sections)
        (.asking sections)
        { state with extractLocks := extractionKey page :: state.extractLocks } .silent
  | extractionHitsLocked (sections : Sections) (extraction : Extraction)
      (free : extractionKey page ∉ state.extractLocks)
      (hit : cachedExtraction state page forceRefresh = some extraction) :
      PageMove extractSections state page forceRefresh (.extractLocking sections) .finished
        state.released (.extracted page extraction)
  | replied (sections : Sections) (output : ContextExtractionOutput) :
      PageMove extractSections state page forceRefresh (.asking sections) .finished
        { state.released with
          extractLocks := state.extractLocks.erase (extractionKey page)
          extractCache := state.extractCache.set (extractionKey page) { output, sections } }
        (.extracted page { output, sections })
  | failed (sections : Sections) (error : AgentError) :
      PageMove extractSections state page forceRefresh (.asking sections) .finished
        { state.released with
          extractLocks := state.extractLocks.erase (extractionKey page) }
        (.raised (agentFailure page error))

/-- A turn of a coroutine of `fetch_page_metadata`, or the answer it gets. -/
inductive PinMove (state : PipelineState) (pageId : String) :
    PinPhase → PinPhase → PipelineState → PipelineOutput → Prop
  | locks (free : pageId ∉ state.pageLocks) :
      PinMove state pageId .locking .fetching
        { state with pageLocks := pageId :: state.pageLocks } .silent
  | answered (html : String) (newest : (state.site pageId).getLast? = some html) :
      PinMove state pageId .fetching (.fetched html ((state.site pageId).length - 1)) state .silent
  | refused (message : String) :
      PinMove state pageId .fetching .finished
        { state with pageLocks := state.pageLocks.erase pageId } (.raised (.other message))
  | stores (html : String) (lastModified : Nat) :
      PinMove state pageId (.fetched html lastModified) .finished
        ({ state with
          pageLocks := state.pageLocks.erase pageId
          pageCache := state.pageCache.set pageId html }.returned ⟨pageId, lastModified⟩) .silent

def turnOf : PipelineInput → Option Nat
  | .resume index | .respond index | .refuse index _ | .reply index _ => some index
  | _ => none

def PagePhase.awaitsAnswer : PagePhase → Bool
  | .fetching | .asking _ => true
  | _ => false

def PinPhase.awaitsAnswer : PinPhase → Bool
  | .fetching => true
  | _ => false

/-- What a step does. -/
inductive PipelineMove (extractSections : String → Sections) (state : PipelineState) :
    PipelineInput → PipelineState → PipelineOutput → Prop
  | waits (input : PipelineInput) : PipelineMove extractSections state input state .silent
  | edited (pageId html : String) :
      PipelineMove extractSections state (.edit pageId html)
        { state with site := edited state.site pageId html } .silent
  | found (pageId : String) (page : ConfluencePage) :
      PipelineMove extractSections state (.search pageId) (state.returned page) .silent
  | pageBegun (page : ConfluencePage) (forceRefresh : Bool) (found : page ∈ state.found) :
      PipelineMove extractSections state (.beginPage page forceRefresh)
        { state with coroutines := state.coroutines ++ [.page page forceRefresh .queued] } .silent
  | pinBegun (pageId : String) :
      PipelineMove extractSections state (.beginPin pageId)
        { state with coroutines := state.coroutines ++ [.pin pageId .locking] } .silent
  | pageMoved (index : Nat) (page : ConfluencePage) (forceRefresh : Bool)
      (phase next : PagePhase) (after : PipelineState) (input : PipelineInput)
      (output : PipelineOutput) (turn : turnOf input = some index)
      (resumed : phase.awaitsAnswer = false → input = .resume index)
      (atIndex : state.coroutines[index]? = some (.page page forceRefresh phase))
      (move : PageMove extractSections state page forceRefresh phase next after output) :
      PipelineMove extractSections state input
        (after.moved index (.page page forceRefresh next)) output
  | pinMoved (index : Nat) (pageId : String) (phase next : PinPhase) (after : PipelineState)
      (input : PipelineInput) (output : PipelineOutput) (turn : turnOf input = some index)
      (resumed : phase.awaitsAnswer = false → input = .resume index)
      (atIndex : state.coroutines[index]? = some (.pin pageId phase))
      (move : PinMove state pageId phase next after output) :
      PipelineMove extractSections state input (after.moved index (.pin pageId next)) output
  | pageLost (pageId : String) :
      PipelineMove extractSections state (.losePage pageId)
        { state with pageCache := state.pageCache.erase pageId } .silent
  | extractionLost (key : String × Nat) :
      PipelineMove extractSections state (.loseExtraction key)
        { state with extractCache := state.extractCache.erase key } .silent

section Moves

variable (extractSections : String → Sections) (state : PipelineState)

theorem resume_page_moves
    (index : Nat)
    (page : ConfluencePage)
    (forceRefresh : Bool)
    (phase : PagePhase)
    (atIndex : state.coroutines[index]? = some (.page page forceRefresh phase)) :
    PipelineMove extractSections state (.resume index)
      (resumePage extractSections state index page forceRefresh phase).1
      (resumePage extractSections state index page forceRefresh phase).2 := by
  have moves (next : PagePhase) (after : PipelineState) (output : PipelineOutput) :=
    @PipelineMove.pageMoved extractSections state index page forceRefresh phase next after
      (.resume index) output rfl (fun _ => rfl) atIndex
  cases phase with
  | queued =>
      simp only [resumePage]
      split_ifs with taken
      · exact .waits _
      · exact moves _ _ _ (.enters taken)
  | reading =>
      simp only [resumePage]
      cases looked : cachedPage state page forceRefresh with
      | some html => exact moves _ _ _ (.hits html looked)
      | none => exact moves _ _ _ (.misses looked)
  | locking =>
      simp only [resumePage]
      split_ifs with taken
      · exact .waits _
      · cases looked : cachedPage state page forceRefresh with
        | some html => exact moves _ _ _ (.hitsLocked html taken looked)
        | none => exact moves _ _ _ (.locks taken looked)
  | fetched html => exact moves _ _ _ (.stores html)
  | extracting sections =>
      simp only [resumePage]
      cases looked : cachedExtraction state page forceRefresh with
      | some extraction => exact moves _ _ _ (.extractionHits sections extraction looked)
      | none => exact moves _ _ _ (.extractionMisses sections looked)
  | extractLocking sections =>
      simp only [resumePage]
      split_ifs with taken
      · exact .waits _
      · cases looked : cachedExtraction state page forceRefresh with
        | some extraction =>
            exact moves _ _ _ (.extractionHitsLocked sections extraction taken looked)
        | none => exact moves _ _ _ (.extractionLocks sections taken looked)
  | fetching => exact .waits _
  | asking sections => exact .waits _
  | finished => exact .waits _

theorem resume_pin_moves
    (index : Nat)
    (pageId : String)
    (phase : PinPhase)
    (atIndex : state.coroutines[index]? = some (.pin pageId phase)) :
    PipelineMove extractSections state (.resume index) (resumePin state index pageId phase).1
      (resumePin state index pageId phase).2 := by
  have moves (next : PinPhase) (after : PipelineState) (output : PipelineOutput) :=
    @PipelineMove.pinMoved extractSections state index pageId phase next after (.resume index)
      output rfl (fun _ => rfl) atIndex
  cases phase with
  | locking =>
      simp only [resumePin]
      split_ifs with taken
      · exact .waits _
      · exact moves _ _ _ (.locks taken)
  | fetched html lastModified => exact moves _ _ _ (.stores html lastModified)
  | fetching => exact .waits _
  | finished => exact .waits _

theorem resume_moves
    (index : Nat) :
    PipelineMove extractSections state (.resume index) (resume extractSections state index).1
      (resume extractSections state index).2 := by
  unfold resume
  split
  · rename_i page forceRefresh phase atIndex
    exact resume_page_moves extractSections state index page forceRefresh phase atIndex
  · rename_i pageId phase atIndex
    exact resume_pin_moves extractSections state index pageId phase atIndex
  · exact .waits _

theorem respond_moves
    (index : Nat) :
    PipelineMove extractSections state (.respond index) (respond state index) .silent := by
  unfold respond
  split
  · rename_i page forceRefresh atIndex
    cases newest : (state.site page.pageId).getLast? with
    | none => exact .waits _
    | some html =>
        exact .pageMoved index page forceRefresh _ _ _ _ _ rfl (by exact nofun) atIndex
          (.answered html newest)
  · rename_i pageId atIndex
    cases newest : (state.site pageId).getLast? with
    | none => exact .waits _
    | some html =>
        exact .pinMoved index pageId _ _ _ _ _ rfl (by exact nofun) atIndex (.answered html newest)
  · exact .waits _

theorem refuse_moves
    (index : Nat)
    (message : String) :
    PipelineMove extractSections state (.refuse index message) (refuse state index message).1
      (refuse state index message).2 := by
  unfold refuse
  split
  · rename_i page forceRefresh atIndex
    exact .pageMoved index page forceRefresh _ _ _ _ _ rfl (by exact nofun) atIndex
      (.refused message)
  · rename_i pageId atIndex
    exact .pinMoved index pageId _ _ _ _ _ rfl (by exact nofun) atIndex (.refused message)
  · exact .waits _

theorem reply_moves
    (index : Nat)
    (answer : Except AgentError ContextExtractionOutput) :
    PipelineMove extractSections state (.reply index answer) (reply state index answer).1
      (reply state index answer).2 := by
  unfold reply
  split
  · rename_i page forceRefresh sections atIndex
    cases answer with
    | ok output =>
        exact .pageMoved index page forceRefresh _ _ _ _ _ rfl (by exact nofun) atIndex
          (.replied sections output)
    | error error =>
        exact .pageMoved index page forceRefresh _ _ _ _ _ rfl (by exact nofun) atIndex
          (.failed sections error)
  · exact .waits _

/-- Every step is one of the moves. -/
theorem pipeline_moves
    (input : PipelineInput) :
    PipelineMove extractSections state input (pipelineStep extractSections state input).1
      (pipelineStep extractSections state input).2 := by
  cases input with
  | edit pageId html => exact .edited pageId html
  | search pageId =>
      simp only [pipelineStep, search]
      split
      · exact .waits _
      · exact .found pageId _
  | beginPage page forceRefresh =>
      simp only [pipelineStep]
      split_ifs with found
      · exact .pageBegun page forceRefresh found
      · exact .waits _
  | beginPin pageId => exact .pinBegun pageId
  | resume index => exact resume_moves extractSections state index
  | respond index => exact respond_moves extractSections state index
  | refuse index message => exact refuse_moves extractSections state index message
  | reply index answer => exact reply_moves extractSections state index answer
  | losePage pageId => exact .pageLost pageId
  | loseExtraction key => exact .extractionLost key

theorem page_move_coroutines
    (page : ConfluencePage)
    (forceRefresh : Bool)
    (phase next : PagePhase)
    (after : PipelineState)
    (output : PipelineOutput)
    (move : PageMove extractSections state page forceRefresh phase next after output) :
    after.coroutines = state.coroutines := by
  cases move <;> rfl

omit extractSections in
theorem pin_move_coroutines
    (pageId : String)
    (phase next : PinPhase)
    (after : PipelineState)
    (output : PipelineOutput)
    (move : PinMove state pageId phase next after output) :
    after.coroutines = state.coroutines := by
  cases move <;> rfl

/-- What holds of a coroutine in every phase, or in none, holds of all of them after
a step if it holds of the one that begins. -/
theorem step_coroutines
    (input : PipelineInput)
    (kept : Coroutine → Prop)
    (pages : ∀ page forceRefresh phase next,
      kept (.page page forceRefresh phase) → kept (.page page forceRefresh next))
    (pins : ∀ pageId phase next, kept (.pin pageId phase) → kept (.pin pageId next))
    (newPage : ∀ page forceRefresh,
      input = .beginPage page forceRefresh → kept (.page page forceRefresh .queued))
    (newPin : ∀ pageId, input = .beginPin pageId → kept (.pin pageId .locking))
    (before : ∀ coroutine ∈ state.coroutines, kept coroutine) :
    ∀ coroutine ∈ (pipelineStep extractSections state input).1.coroutines, kept coroutine := by
  have moves := pipeline_moves extractSections state input
  generalize (pipelineStep extractSections state input).1 = after at moves ⊢
  generalize (pipelineStep extractSections state input).2 = output at moves
  intro coroutine member
  cases moves with
  | pageMoved index page forceRefresh phase next moved _ _ turn resumed atIndex move =>
      have same := page_move_coroutines extractSections state page forceRefresh phase next moved _
        move
      rw [PipelineState.moved, same] at member
      rcases List.mem_or_eq_of_mem_set member with old | rfl
      · exact before coroutine old
      · exact pages page forceRefresh phase next (before _ (List.mem_of_getElem? atIndex))
  | pinMoved index pageId phase next moved _ _ turn resumed atIndex move =>
      have same := pin_move_coroutines state pageId phase next moved _ move
      rw [PipelineState.moved, same] at member
      rcases List.mem_or_eq_of_mem_set member with old | rfl
      · exact before coroutine old
      · exact pins pageId phase next (before _ (List.mem_of_getElem? atIndex))
  | pageBegun page forceRefresh found =>
      rcases List.mem_append.mp member with old | new
      · exact before coroutine old
      · rw [List.mem_singleton.mp new]
        exact newPage page forceRefresh rfl
  | pinBegun pageId =>
      rcases List.mem_append.mp member with old | new
      · exact before coroutine old
      · rw [List.mem_singleton.mp new]
        exact newPin pageId rfl
  | _ => exact before coroutine member

end Moves

/-- `async with self._page_fetch_locks[page_id]` -/
def heldPages : Coroutine → List String
  | .page page _ .fetching | .page page _ (.fetched _) => [page.pageId]
  | .pin pageId .fetching | .pin pageId (.fetched _ _) => [pageId]
  | _ => []

/-- `async with self._locks[key]` of the extractor -/
def heldVersions : Coroutine → List (String × Nat)
  | .page page _ (.asking _) => [extractionKey page]
  | _ => []

/-- `async with sem` -/
def heldSlots : Coroutine → List Unit
  | .page _ _ .queued | .page _ _ .finished | .pin _ _ => []
  | .page _ _ _ => [()]

/-- The tables of taken locks and slots agree with what the coroutines hold,
and no lock is taken twice. -/
structure Balanced (capacity : Nat) (state : PipelineState) : Prop where
  pageLocks : Accounted heldPages state.coroutines state.pageLocks
  pageLocksOnce : state.pageLocks.Nodup
  extractLocks : Accounted heldVersions state.coroutines state.extractLocks
  extractLocksOnce : state.extractLocks.Nodup
  slots : Counted heldSlots state.coroutines state.slots capacity

/-- No coroutine is under way. The caches may hold anything. -/
structure Idle (capacity : Nat) (state : PipelineState) : Prop where
  coroutines : state.coroutines = []
  pageLocks : state.pageLocks = []
  extractLocks : state.extractLocks = []
  slots : state.slots = capacity

theorem start_idle
    (site : String → List String)
    (capacity : Nat) : Idle capacity (start site capacity) := ⟨rfl, rfl, rfl, rfl⟩

section Balance

variable (extractSections : String → Sections) (capacity : Nat) (state : PipelineState)

theorem idle_balanced
    (idle : Idle capacity state) : Balanced capacity state := by
  constructor
  · rw [Accounted, idle.pageLocks, idle.coroutines]
    exact List.Perm.refl _
  · rw [idle.pageLocks]
    exact List.nodup_nil
  · rw [Accounted, idle.extractLocks, idle.coroutines]
    exact List.Perm.refl _
  · rw [idle.extractLocks]
    exact List.nodup_nil
  · rw [Counted, idle.slots, idle.coroutines]
    rfl

variable (balanced : Balanced capacity state)

include balanced

theorem begun_balanced
    (coroutine : Coroutine)
    (pages : heldPages coroutine = [])
    (versions : heldVersions coroutine = [])
    (slots : heldSlots coroutine = []) :
    Balanced capacity { state with coroutines := state.coroutines ++ [coroutine] } := by
  constructor
  · exact accounted_begin coroutine balanced.pageLocks pages
  · exact balanced.pageLocksOnce
  · exact accounted_begin coroutine balanced.extractLocks versions
  · exact balanced.extractLocksOnce
  · exact counted_begin coroutine balanced.slots slots

theorem moved_balanced
    (index : Nat)
    (old new : Coroutine)
    (atIndex : state.coroutines[index]? = some old)
    (pages : heldPages new = heldPages old)
    (versions : heldVersions new = heldVersions old)
    (slots : heldSlots new = heldSlots old) : Balanced capacity (state.moved index new) := by
  constructor
  · exact accounted_keep index old new balanced.pageLocks atIndex pages
  · exact balanced.pageLocksOnce
  · exact accounted_keep index old new balanced.extractLocks atIndex versions
  · exact balanced.extractLocksOnce
  · apply counted_set index old new balanced.slots atIndex
    rw [slots]
    rfl

theorem page_move_balanced
    (index : Nat)
    (page : ConfluencePage)
    (forceRefresh : Bool)
    (phase next : PagePhase)
    (after : PipelineState)
    (output : PipelineOutput)
    (atIndex : state.coroutines[index]? = some (.page page forceRefresh phase))
    (move : PageMove extractSections state page forceRefresh phase next after output) :
    Balanced capacity (after.moved index (.page page forceRefresh next)) := by
  have keepsPages := accounted_keep index _ (.page page forceRefresh next) balanced.pageLocks atIndex
  have keepsVersions := accounted_keep index _ (.page page forceRefresh next) balanced.extractLocks
    atIndex
  have slots := fun free => counted_set index _ (.page page forceRefresh next) balanced.slots atIndex
    free
  cases move with
  | enters free =>
      constructor
      · exact keepsPages rfl
      · exact balanced.pageLocksOnce
      · exact keepsVersions rfl
      · exact balanced.extractLocksOnce
      · exact slots _ (Nat.sub_add_cancel (Nat.pos_of_ne_zero free))
  | misses miss =>
      exact moved_balanced capacity state balanced index _ _ atIndex rfl rfl rfl
  | hits html hit =>
      exact moved_balanced capacity state balanced index _ _ atIndex rfl rfl rfl
  | locks free miss =>
      constructor
      · exact accounted_take index _ _ page.pageId balanced.pageLocks atIndex rfl
      · exact List.nodup_cons.mpr ⟨free, balanced.pageLocksOnce⟩
      · exact keepsVersions rfl
      · exact balanced.extractLocksOnce
      · exact slots _ rfl
  | hitsLocked html free hit =>
      exact moved_balanced capacity state balanced index _ _ atIndex rfl rfl rfl
  | answered html newest =>
      exact moved_balanced capacity state balanced index _ _ atIndex rfl rfl rfl
  | refused message =>
      constructor
      · exact accounted_release index _ _ page.pageId balanced.pageLocks atIndex rfl
      · exact balanced.pageLocksOnce.erase _
      · exact keepsVersions rfl
      · exact balanced.extractLocksOnce
      · exact slots _ rfl
  | stores html =>
      constructor
      · exact accounted_release index _ _ page.pageId balanced.pageLocks atIndex rfl
      · exact balanced.pageLocksOnce.erase _
      · exact keepsVersions rfl
      · exact balanced.extractLocksOnce
      · exact slots _ rfl
  | extractionMisses sections miss =>
      exact moved_balanced capacity state balanced index _ _ atIndex rfl rfl rfl
  | extractionHits sections extraction hit =>
      exact ⟨keepsPages rfl, balanced.pageLocksOnce, keepsVersions rfl, balanced.extractLocksOnce,
        slots _ rfl⟩
  | extractionLocks sections free miss =>
      constructor
      · exact keepsPages rfl
      · exact balanced.pageLocksOnce
      · exact accounted_take index _ _ (extractionKey page) balanced.extractLocks atIndex rfl
      · exact List.nodup_cons.mpr ⟨free, balanced.extractLocksOnce⟩
      · exact slots _ rfl
  | extractionHitsLocked sections extraction free hit =>
      exact ⟨keepsPages rfl, balanced.pageLocksOnce, keepsVersions rfl, balanced.extractLocksOnce,
        slots _ rfl⟩
  | replied sections output =>
      constructor
      · exact keepsPages rfl
      · exact balanced.pageLocksOnce
      · exact accounted_release index _ (.page page forceRefresh .finished) (extractionKey page)
          balanced.extractLocks atIndex rfl
      · exact balanced.extractLocksOnce.erase _
      · exact slots _ rfl
  | failed sections error =>
      constructor
      · exact keepsPages rfl
      · exact balanced.pageLocksOnce
      · exact accounted_release index _ (.page page forceRefresh .finished) (extractionKey page)
          balanced.extractLocks atIndex rfl
      · exact balanced.extractLocksOnce.erase _
      · exact slots _ rfl

theorem pin_move_balanced
    (index : Nat)
    (pageId : String)
    (phase next : PinPhase)
    (after : PipelineState)
    (output : PipelineOutput)
    (atIndex : state.coroutines[index]? = some (.pin pageId phase))
    (move : PinMove state pageId phase next after output) :
    Balanced capacity (after.moved index (.pin pageId next)) := by
  have keepsVersions := accounted_keep index _ (.pin pageId next) balanced.extractLocks atIndex rfl
  have slots := counted_set index _ (.pin pageId next) balanced.slots atIndex state.slots rfl
  cases move with
  | locks free =>
      exact ⟨accounted_take index _ _ pageId balanced.pageLocks atIndex rfl,
        List.nodup_cons.mpr ⟨free, balanced.pageLocksOnce⟩, keepsVersions,
        balanced.extractLocksOnce, slots⟩
  | answered html newest =>
      exact moved_balanced capacity state balanced index _ _ atIndex rfl rfl rfl
  | refused message =>
      exact ⟨accounted_release index _ _ pageId balanced.pageLocks atIndex rfl,
        balanced.pageLocksOnce.erase _, keepsVersions, balanced.extractLocksOnce, slots⟩
  | stores html lastModified =>
      exact ⟨accounted_release index _ _ pageId balanced.pageLocks atIndex rfl,
        balanced.pageLocksOnce.erase _, keepsVersions, balanced.extractLocksOnce, slots⟩

theorem step_balanced
    (input : PipelineInput) :
    Balanced capacity (pipelineStep extractSections state input).1 := by
  have moves := pipeline_moves extractSections state input
  generalize (pipelineStep extractSections state input).1 = after at moves ⊢
  generalize (pipelineStep extractSections state input).2 = output at moves
  cases moves with
  | waits => exact balanced
  | edited pageId html =>
      exact ⟨balanced.pageLocks, balanced.pageLocksOnce, balanced.extractLocks,
        balanced.extractLocksOnce, balanced.slots⟩
  | found pageId page =>
      exact ⟨balanced.pageLocks, balanced.pageLocksOnce, balanced.extractLocks,
        balanced.extractLocksOnce, balanced.slots⟩
  | pageBegun page forceRefresh found =>
      exact begun_balanced capacity state balanced _ rfl rfl rfl
  | pinBegun pageId => exact begun_balanced capacity state balanced _ rfl rfl rfl
  | pageMoved index page forceRefresh phase next after _ _ turn resumed atIndex move =>
      exact page_move_balanced extractSections capacity state balanced index page forceRefresh phase
        next after output atIndex move
  | pinMoved index pageId phase next after _ _ turn resumed atIndex move =>
      exact pin_move_balanced capacity state balanced index pageId phase next after output atIndex
        move
  | pageLost pageId =>
      exact ⟨balanced.pageLocks, balanced.pageLocksOnce, balanced.extractLocks,
        balanced.extractLocksOnce, balanced.slots⟩
  | extractionLost key =>
      exact ⟨balanced.pageLocks, balanced.pageLocksOnce, balanced.extractLocks,
        balanced.extractLocksOnce, balanced.slots⟩

end Balance

/-- In every state of every run the tables are balanced. -/
theorem run_balanced
    (extractSections : String → Sections)
    (capacity : Nat)
    (initial : PipelineState)
    (idle : Idle capacity initial)
    (inputs : List PipelineInput) :
    Balanced capacity (run (pipelineStep extractSections) initial inputs).1 :=
  run_invariant (Balanced capacity)
    (fun state input balanced _ => step_balanced extractSections capacity state balanced input)
    initial inputs (idle_balanced capacity initial idle)
    (every_step_always (fun _ _ => trivial) initial inputs)

end AtlasMindNetra.ConfluencePipeline
