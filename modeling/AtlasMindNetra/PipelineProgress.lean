import AtlasMindNetra.PipelineMoves

/-!
# Progress of the pipeline

The semaphore is taken before any lock, and the locks one after the other: the
lock of the page is given back before the lock of its version is asked for. So
whoever waits for a lock waits for a coroutine that waits for an answer from
outside, and whoever waits for the semaphore waits for one that has a slot.
-/

namespace AtlasMindNetra.ConfluencePipeline

open AtlasMindNetra.PythonValues AtlasMindNetra.ResourceRules AtlasMindNetra.RunRules
open PipelineState

set_option autoImplicit false

def Coroutine.isFinished : Coroutine → Bool
  | .page _ _ .finished | .pin _ .finished => true
  | _ => false

def Coroutine.isQueued : Coroutine → Bool
  | .page _ _ .queued => true
  | _ => false

/-- A turn, or an answer that is due, changes the coroutine at `index`. -/
def CanStep (extractSections : String → Sections) (state : PipelineState) (index : Nat) : Prop :=
  ∃ input, turnOf input = some index ∧
    (pipelineStep extractSections state input).1.coroutines[index]? ≠ state.coroutines[index]?

section Progress

variable (extractSections : String → Sections) (state : PipelineState)

theorem can_step_to
    (index : Nat)
    (old new : Coroutine)
    (input : PipelineInput)
    (turn : turnOf input = some index)
    (atIndex : state.coroutines[index]? = some old)
    (moves : ∃ after : PipelineState, after.coroutines = state.coroutines ∧
      (pipelineStep extractSections state input).1 = after.moved index new)
    (differs : new ≠ old) : CanStep extractSections state index := by
  rcases moves with ⟨after, same, stepped⟩
  have inside : index < state.coroutines.length := (List.getElem?_eq_some_iff.mp atIndex).1
  apply Exists.intro input
  apply And.intro turn
  rw [stepped, atIndex, PipelineState.moved, same, List.getElem?_set_self inside]
  intro unchanged
  exact differs (Option.some.inj unchanged)

theorem resumed_page_can_step
    (index : Nat)
    (page : ConfluencePage)
    (forceRefresh : Bool)
    (phase next : PagePhase)
    (after : PipelineState)
    (atIndex : state.coroutines[index]? = some (.page page forceRefresh phase))
    (same : after.coroutines = state.coroutines)
    (resumed : (resumePage extractSections state index page forceRefresh phase).1 =
      after.moved index (.page page forceRefresh next))
    (differs : next ≠ phase) : CanStep extractSections state index := by
  apply can_step_to extractSections state index _ (.page page forceRefresh next) (.resume index)
    rfl atIndex
  · apply Exists.intro after
    apply And.intro same
    simp only [pipelineStep, resume, atIndex]
    exact resumed
  · simpa using differs

theorem unblocked_can_step
    (index : Nat)
    (page : ConfluencePage)
    (forceRefresh : Bool)
    (phase : PagePhase)
    (atIndex : state.coroutines[index]? = some (.page page forceRefresh phase))
    (unfinished : phase ≠ .finished)
    (slot : phase = .queued → state.slots ≠ 0)
    (pageLock : phase = .locking → page.pageId ∉ state.pageLocks)
    (extractLock : ∀ sections, phase = .extractLocking sections →
      extractionKey page ∉ state.extractLocks) : CanStep extractSections state index := by
  have turn (next : PagePhase) (after : PipelineState) :=
    resumed_page_can_step extractSections state index page forceRefresh phase next after atIndex
  have answer (input : PipelineInput) (own : turnOf input = some index) :=
    can_step_to extractSections state index _ (.page page forceRefresh .finished) input own atIndex
  cases phase with
  | queued =>
      apply turn .reading { state with slots := state.slots - 1 } rfl
      · simp only [resumePage, if_neg (slot rfl)]
      · simp
  | reading =>
      cases looked : cachedPage state page forceRefresh with
      | some html =>
          apply turn (.extracting (extractSections html)) state rfl
          · simp only [resumePage, looked]
          · simp
      | none =>
          apply turn .locking state rfl
          · simp only [resumePage, looked]
          · simp
  | locking =>
      cases looked : cachedPage state page forceRefresh with
      | some html =>
          apply turn (.extracting (extractSections html)) state rfl
          · simp only [resumePage, if_neg (pageLock rfl), looked]
          · simp
      | none =>
          apply turn .fetching { state with pageLocks := page.pageId :: state.pageLocks } rfl
          · simp only [resumePage, if_neg (pageLock rfl), looked]
          · simp
  | fetching =>
      apply answer (.refuse index "") rfl
      · apply Exists.intro
          { state.released with pageLocks := state.pageLocks.erase page.pageId }
        apply And.intro rfl
        simp only [pipelineStep, refuse, atIndex]
      · simp
  | fetched html =>
      apply turn (.extracting (extractSections html))
        { state with
          pageCache := state.pageCache.set page.pageId html
          pageLocks := state.pageLocks.erase page.pageId } rfl
      · simp only [resumePage]
      · simp
  | extracting sections =>
      cases looked : cachedExtraction state page forceRefresh with
      | some extraction =>
          apply turn .finished state.released rfl
          · simp only [resumePage, looked]
          · simp
      | none =>
          apply turn (.extractLocking sections) state rfl
          · simp only [resumePage, looked]
          · simp
  | extractLocking sections =>
      cases looked : cachedExtraction state page forceRefresh with
      | some extraction =>
          apply turn .finished state.released rfl
          · simp only [resumePage, if_neg (extractLock sections rfl), looked]
          · simp
      | none =>
          apply turn (.asking sections)
            { state with extractLocks := extractionKey page :: state.extractLocks } rfl
          · simp only [resumePage, if_neg (extractLock sections rfl), looked]
          · simp
  | asking sections =>
      apply answer (.reply index (.error (.other ""))) rfl
      · apply Exists.intro { state.released with
          extractLocks := state.extractLocks.erase (extractionKey page) }
        apply And.intro rfl
        simp only [pipelineStep, reply, atIndex]
      · simp
  | finished => exact absurd rfl unfinished

theorem unblocked_pin_can_step
    (index : Nat)
    (pageId : String)
    (phase : PinPhase)
    (atIndex : state.coroutines[index]? = some (.pin pageId phase))
    (unfinished : phase ≠ .finished)
    (pageLock : phase = .locking → pageId ∉ state.pageLocks) :
    CanStep extractSections state index := by
  have steps (input : PipelineInput) (next : PinPhase) (turn : turnOf input = some index) :=
    can_step_to extractSections state index _ (.pin pageId next) input turn atIndex
  cases phase with
  | locking =>
      apply steps (.resume index) .fetching rfl
      · apply Exists.intro { state with pageLocks := pageId :: state.pageLocks }
        apply And.intro rfl
        simp only [pipelineStep, resume, atIndex, resumePin, if_neg (pageLock rfl)]
      · simp
  | fetching =>
      apply steps (.refuse index "") .finished rfl
      · apply Exists.intro { state with pageLocks := state.pageLocks.erase pageId }
        apply And.intro rfl
        simp only [pipelineStep, refuse, atIndex]
      · simp
  | fetched html lastModified =>
      apply steps (.resume index) .finished rfl
      · apply Exists.intro ({ state with
          pageLocks := state.pageLocks.erase pageId
          pageCache := state.pageCache.set pageId html }.returned ⟨pageId, lastModified⟩)
        apply And.intro rfl
        simp only [pipelineStep, resume, atIndex, resumePin]
      · simp
  | finished => exact absurd rfl unfinished

/-- Whoever holds the lock of a page waits for the site or has its answer. -/
theorem page_holder_can_step
    (coroutine : Coroutine)
    (member : coroutine ∈ state.coroutines)
    (pageId : String)
    (holds : pageId ∈ heldPages coroutine) : ∃ index, CanStep extractSections state index := by
  rcases List.getElem?_of_mem member with ⟨index, atIndex⟩
  apply Exists.intro index
  cases coroutine with
  | page page forceRefresh phase =>
      apply unblocked_can_step extractSections state index page forceRefresh phase atIndex <;>
        cases phase <;> simp [heldPages] at holds ⊢
  | pin pageId phase =>
      apply unblocked_pin_can_step extractSections state index pageId phase atIndex <;>
        cases phase <;> simp [heldPages] at holds ⊢

theorem version_holder_can_step
    (coroutine : Coroutine)
    (member : coroutine ∈ state.coroutines)
    (key : String × Nat)
    (holds : key ∈ heldVersions coroutine) : ∃ index, CanStep extractSections state index := by
  rcases List.getElem?_of_mem member with ⟨index, atIndex⟩
  apply Exists.intro index
  cases coroutine with
  | page page forceRefresh phase =>
      apply unblocked_can_step extractSections state index page forceRefresh phase atIndex <;>
        cases phase <;> simp [heldVersions] at holds ⊢
  | pin pageId phase => cases holds

/-- Past the semaphore somebody can step: the coroutine itself, or the one
whose lock it waits for. -/
theorem entered_can_step
    (capacity : Nat)
    (balanced : Balanced capacity state)
    (coroutine : Coroutine)
    (member : coroutine ∈ state.coroutines)
    (unfinished : coroutine.isFinished = false)
    (entered : coroutine.isQueued = false) : ∃ index, CanStep extractSections state index := by
  rcases List.getElem?_of_mem member with ⟨index, atIndex⟩
  cases coroutine with
  | page page forceRefresh phase =>
      have running : phase ≠ .finished := by
        rintro rfl
        cases unfinished
      have passed : phase ≠ .queued := by
        rintro rfl
        cases entered
      by_cases pageLock : page.pageId ∈ state.pageLocks
      · rcases accounted_holder page.pageId balanced.pageLocks pageLock with ⟨holder, known, holds⟩
        exact page_holder_can_step extractSections state holder known page.pageId holds
      · by_cases extractLock : extractionKey page ∈ state.extractLocks
        · rcases accounted_holder (extractionKey page) balanced.extractLocks extractLock with
            ⟨holder, known, holds⟩
          exact version_holder_can_step extractSections state holder known (extractionKey page) holds
        · exact ⟨index, unblocked_can_step extractSections state index page forceRefresh phase atIndex
            running (fun queued => absurd queued passed) (fun _ => pageLock) fun _ _ => extractLock⟩
  | pin pageId phase =>
      have running : phase ≠ .finished := by
        rintro rfl
        cases unfinished
      by_cases pageLock : pageId ∈ state.pageLocks
      · rcases accounted_holder pageId balanced.pageLocks pageLock with ⟨holder, known, holds⟩
        exact page_holder_can_step extractSections state holder known pageId holds
      · exact ⟨index, unblocked_pin_can_step extractSections state index pageId phase atIndex running
          fun _ => pageLock⟩

theorem unfinished_can_step
    (capacity : Nat)
    (positive : 1 ≤ capacity)
    (balanced : Balanced capacity state)
    (coroutine : Coroutine)
    (member : coroutine ∈ state.coroutines)
    (unfinished : coroutine.isFinished = false) : ∃ index, CanStep extractSections state index := by
  cases queued : coroutine.isQueued with
  | false =>
      exact entered_can_step extractSections state capacity balanced coroutine member unfinished
        queued
  | true =>
      by_cases none : state.slots = 0
      · rcases counted_holder balanced.slots none positive with ⟨holder, known, holds⟩
        have running : holder.isFinished = false ∧ holder.isQueued = false := by
          cases holder with
          | page page forceRefresh phase =>
              cases phase <;> simp [heldSlots, Coroutine.isFinished, Coroutine.isQueued] at holds ⊢
          | pin pageId phase => exact absurd rfl holds
        exact entered_can_step extractSections state capacity balanced holder known running.1 running.2
      · rcases List.getElem?_of_mem member with ⟨index, atIndex⟩
        apply Exists.intro index
        cases coroutine with
        | page page forceRefresh phase =>
            cases phase with
            | queued =>
                apply unblocked_can_step extractSections state index page forceRefresh .queued atIndex
                · simp
                · exact fun _ => none
                · simp
                · simp
            | _ => cases queued
        | pin pageId phase => cases queued

theorem queued_holds_nothing
    (coroutine : Coroutine)
    (queued : coroutine.isQueued = true) : heldPages coroutine = [] ∧ heldVersions coroutine = [] := by
  cases coroutine with
  | page page forceRefresh phase =>
      cases phase with
      | queued => exact ⟨rfl, rfl⟩
      | _ => cases queued
  | pin pageId phase => cases queued

theorem finished_holds_nothing
    (coroutine : Coroutine)
    (finished : coroutine.isFinished = true) :
    heldPages coroutine = [] ∧ heldVersions coroutine = [] ∧ heldSlots coroutine = [] := by
  cases coroutine with
  | page page forceRefresh phase =>
      cases phase with
      | finished => exact ⟨rfl, rfl, rfl⟩
      | _ => cases finished
  | pin pageId phase =>
      cases phase with
      | finished => exact ⟨rfl, rfl, rfl⟩
      | _ => cases finished

end Progress

/-- In every reachable state some coroutine can step unless all have finished;
the locks taken are those of coroutines that do not wait for the semaphore; and
when all have finished, everything has been given back. -/
theorem pipeline_never_stuck
    (extractSections : String → Sections)
    (capacity : Nat)
    (positive : 1 ≤ capacity)
    (initial : PipelineState)
    (idle : Idle capacity initial)
    (inputs : List PipelineInput) :
    let state := (run (pipelineStep extractSections) initial inputs).1
    ((∃ coroutine ∈ state.coroutines, coroutine.isFinished = false) →
        ∃ index, CanStep extractSections state index) ∧
      Accounted heldPages (state.coroutines.filter fun coroutine => !coroutine.isQueued)
        state.pageLocks ∧
      Accounted heldVersions (state.coroutines.filter fun coroutine => !coroutine.isQueued)
        state.extractLocks ∧
      ((∀ coroutine ∈ state.coroutines, coroutine.isFinished = true) →
        state.pageLocks = [] ∧ state.extractLocks = [] ∧ state.slots = capacity) := by
  intro state
  have balanced : Balanced capacity state :=
    run_balanced extractSections capacity initial idle inputs
  have queued (coroutine : Coroutine) (counted : (!coroutine.isQueued) = false) :=
    queued_holds_nothing coroutine (by simpa using counted)
  constructor
  · rintro ⟨coroutine, member, unfinished⟩
    exact unfinished_can_step extractSections state capacity positive balanced coroutine member
      unfinished
  constructor
  · exact accounted_filter balanced.pageLocks _ fun coroutine _ counted => (queued coroutine counted).1
  constructor
  · exact accounted_filter balanced.extractLocks _ fun coroutine _ counted =>
      (queued coroutine counted).2
  · intro finished
    have nothing (coroutine : Coroutine) (member : coroutine ∈ state.coroutines) :=
      finished_holds_nothing coroutine (finished coroutine member)
    constructor
    · exact accounted_nothing balanced.pageLocks fun coroutine member => (nothing coroutine member).1
    constructor
    · exact accounted_nothing balanced.extractLocks fun coroutine member =>
        (nothing coroutine member).2.1
    · exact counted_nothing balanced.slots fun coroutine member => (nothing coroutine member).2.2

/-- Two coroutines for one page and a pinned fetch of it, which gets the lock
first. The other coroutine waits for the only slot. -/
def contended : List PipelineInput :=
  [.search "100", .beginPage ⟨"100", 0⟩ false, .beginPage ⟨"100", 0⟩ true, .beginPin "100",
    .resume 2, .resume 0, .resume 0, .resume 0]

def emptySections (_ : String) : Sections := []

def onePage (_ : String) : List String := ["<p>CAR-101 blocked</p>"]

theorem contended_moves_on :
    (run (pipelineStep emptySections) (start onePage 1) contended).1.slots = 0 ∧
      (run (pipelineStep emptySections) (start onePage 1) contended).1.pageLocks = ["100"] ∧
      ∃ index, CanStep emptySections
        (run (pipelineStep emptySections) (start onePage 1) contended).1 index := by
  apply And.intro (by decide +kernel)
  apply And.intro (by decide +kernel)
  apply (pipeline_never_stuck emptySections 1 (Nat.le_refl 1) (start onePage 1)
    (start_idle onePage 1) contended).1
  exact ⟨.page ⟨"100", 0⟩ true .queued, by decide +kernel, rfl⟩

end AtlasMindNetra.ConfluencePipeline
