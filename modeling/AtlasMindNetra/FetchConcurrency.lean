import AtlasMindNetra.PipelineMoves

/-!
# Concurrency of page fetches

The semaphore bounds the fetches of page coroutines. `search_context` starts
the fetches of its pinned pages without it, so they come on top. The bound
holds as long as the slots that are free would suffice for the pinned fetches.
-/

namespace AtlasMindNetra.ConfluencePipeline

open AtlasMindNetra.PythonValues AtlasMindNetra.ResourceRules AtlasMindNetra.RunRules
open PipelineState

set_option autoImplicit false

/-- A pinned page waits for `get_page_by_id`. -/
def Coroutine.isPinFetch : Coroutine → Bool
  | .pin _ .fetching => true
  | _ => false

/-- A call of `get_page_by_id` is in flight. -/
def Coroutine.isFetch : Coroutine → Bool
  | .page _ _ .fetching | .pin _ .fetching => true
  | _ => false

def pinFetches (state : PipelineState) : Nat := state.coroutines.countP Coroutine.isPinFetch

def fetchesInFlight (state : PipelineState) : Nat := state.coroutines.countP Coroutine.isFetch

/-- The step starts the fetch of a pinned page, or takes a slot of the semaphore. -/
def admits (state : PipelineState) : PipelineInput → Bool
  | .resume index =>
      match state.coroutines[index]? with
      | some (.pin pageId .locking) => pageId ∉ state.pageLocks
      | some (.page _ _ .queued) => state.slots ≠ 0
      | _ => false
  | _ => false

/-- Where a pinned fetch starts or a slot is taken, more slots are free than
pinned fetches are in flight. -/
def PinsFit (state : PipelineState) (input : PipelineInput) : Prop :=
  admits state input = true → pinFetches state < state.slots

instance (state : PipelineState) (input : PipelineInput) : Decidable (PinsFit state input) :=
  inferInstanceAs (Decidable (_ → _))

section Bound

variable (extractSections : String → Sections)

theorem page_move_slots
    (state : PipelineState)
    (page : ConfluencePage)
    (forceRefresh : Bool)
    (phase next : PagePhase)
    (after : PipelineState)
    (output : PipelineOutput)
    (move : PageMove extractSections state page forceRefresh phase next after output) :
    after.coroutines = state.coroutines ∧
      (state.slots ≤ after.slots ∨
        phase = .queued ∧ state.slots ≠ 0 ∧ after.slots = state.slots - 1) := by
  cases move with
  | enters free => exact ⟨rfl, Or.inr ⟨rfl, free, rfl⟩⟩
  | refused message => exact ⟨rfl, Or.inl (Nat.le_succ _)⟩
  | extractionHits sections extraction hit => exact ⟨rfl, Or.inl (Nat.le_succ _)⟩
  | extractionHitsLocked sections extraction free hit => exact ⟨rfl, Or.inl (Nat.le_succ _)⟩
  | replied sections output => exact ⟨rfl, Or.inl (Nat.le_succ _)⟩
  | failed sections error => exact ⟨rfl, Or.inl (Nat.le_succ _)⟩
  | _ => exact ⟨rfl, Or.inl (Nat.le_refl _)⟩

theorem step_fits
    (state : PipelineState)
    (input : PipelineInput)
    (fits : pinFetches state ≤ state.slots)
    (allowed : PinsFit state input) :
    pinFetches (pipelineStep extractSections state input).1 ≤
      (pipelineStep extractSections state input).1.slots := by
  have moves := pipeline_moves extractSections state input
  generalize (pipelineStep extractSections state input).1 = after at moves ⊢
  generalize (pipelineStep extractSections state input).2 = output at moves
  cases moves with
  | pageMoved index page forceRefresh phase next after _ _ turn resumed atIndex move =>
      rcases page_move_slots extractSections state page forceRefresh phase next after _ move with
        ⟨same, slots⟩
      have counted := count_of_set Coroutine.isPinFetch state.coroutines index _
        (.page page forceRefresh next) atIndex
      simp [Coroutine.isPinFetch] at counted
      unfold pinFetches at fits ⊢
      simp only [PipelineState.moved, same]
      rcases slots with more | ⟨rfl, free, fewer⟩
      · omega
      · have room := allowed (by simp [resumed rfl, admits, atIndex, free])
        unfold pinFetches at room
        omega
  | pinMoved index pageId phase next after _ _ turn resumed atIndex move =>
      have counted := count_of_set Coroutine.isPinFetch state.coroutines index _ (.pin pageId next)
        atIndex
      unfold pinFetches at fits ⊢
      cases move with
      | locks free =>
          have room := allowed (by simp [resumed rfl, admits, atIndex, free])
          unfold pinFetches at room
          simp [Coroutine.isPinFetch] at counted
          simp only [PipelineState.moved]
          omega
      | answered html newest =>
          simp [Coroutine.isPinFetch] at counted
          simp only [PipelineState.moved]
          omega
      | refused message =>
          simp [Coroutine.isPinFetch] at counted
          simp only [PipelineState.moved]
          omega
      | stores html lastModified =>
          simp [Coroutine.isPinFetch] at counted
          simp only [PipelineState.moved, PipelineState.returned]
          omega
  | pageBegun page forceRefresh found =>
      simp only [pinFetches, List.countP_append] at fits ⊢
      exact fits
  | pinBegun pageId =>
      simp only [pinFetches, List.countP_append] at fits ⊢
      exact fits
  | _ => exact fits

theorem fetches_split
    (coroutines : List Coroutine) :
    coroutines.countP Coroutine.isFetch ≤
      (coroutines.flatMap heldSlots).length + coroutines.countP Coroutine.isPinFetch := by
  induction coroutines with
  | nil => exact Nat.le_refl 0
  | cons coroutine rest ih =>
      have own : (if coroutine.isFetch then 1 else 0) ≤
          (heldSlots coroutine).length + if coroutine.isPinFetch then 1 else 0 := by
        cases coroutine with
        | page page forceRefresh phase =>
            cases phase <;> simp [Coroutine.isFetch, Coroutine.isPinFetch, heldSlots]
        | pin pageId phase =>
            cases phase <;> simp [Coroutine.isFetch, Coroutine.isPinFetch, heldSlots]
      rw [List.countP_cons, List.countP_cons, List.flatMap_cons, List.length_append]
      omega

/-- As long as the pinned fetches would fit into the free slots, no more pages
are fetched at a time than the semaphore admits. -/
theorem fetches_bounded
    (capacity : Nat)
    (initial : PipelineState)
    (idle : Idle capacity initial)
    (inputs : List PipelineInput)
    (steps : EveryStep (pipelineStep extractSections) PinsFit initial inputs) :
    fetchesInFlight (run (pipelineStep extractSections) initial inputs).1 ≤ capacity := by
  have begins : pinFetches initial ≤ initial.slots := by
    rw [pinFetches, idle.coroutines]
    exact Nat.zero_le _
  have fits := run_invariant (fun state => pinFetches state ≤ state.slots)
    (fun state input fits allowed => step_fits extractSections state input fits allowed) initial
    inputs begins steps
  have balanced := run_balanced extractSections capacity initial idle inputs
  have split := fetches_split (run (pipelineStep extractSections) initial inputs).1.coroutines
  have counted := balanced.slots
  unfold Counted at counted
  unfold fetchesInFlight
  unfold pinFetches at fits
  omega

def NoPins (state : PipelineState) : Prop :=
  ∀ pageId phase, .pin pageId phase ∉ state.coroutines

theorem step_without_pins
    (state : PipelineState)
    (input : PipelineInput)
    (none : NoPins state)
    (unpinned : ∀ pageId, input ≠ .beginPin pageId) :
    NoPins (pipelineStep extractSections state input).1 := by
  have kept : ∀ coroutine ∈ (pipelineStep extractSections state input).1.coroutines,
      ∀ pageId phase, coroutine ≠ .pin pageId phase := by
    apply step_coroutines extractSections state input
    · exact fun _ _ _ _ _ _ _ => nofun
    · intro pageId phase _ isNoPin
      exact absurd rfl (isNoPin pageId phase)
    · exact fun _ _ _ _ _ => nofun
    · intro pageId begins
      exact absurd begins (unpinned pageId)
    · rintro _ known pageId phase rfl
      exact none pageId phase known
  intro pageId phase member
  exact kept _ member pageId phase rfl

theorem step_without_pins_fits
    (state : PipelineState)
    (input : PipelineInput)
    (none : NoPins state) : PinsFit state input := by
  intro admitted
  have empty : pinFetches state = 0 := by
    apply List.countP_eq_zero.mpr
    intro coroutine member
    cases coroutine with
    | page page forceRefresh phase => simp [Coroutine.isPinFetch]
    | pin pageId phase => exact absurd member (none pageId phase)
  rw [empty]
  unfold admits at admitted
  split at admitted
  · split at admitted
    · rename_i pageId atIndex
      exact absurd (List.mem_of_getElem? atIndex) (none pageId _)
    · exact Nat.pos_of_ne_zero (of_decide_eq_true admitted)
    · cases admitted
  · cases admitted

/-- Runs that pin no page meet the condition, so the semaphore bounds their fetches. -/
theorem unpinned_run_fits
    (capacity : Nat)
    (initial : PipelineState)
    (idle : Idle capacity initial)
    (inputs : List PipelineInput)
    (unpinned : ∀ pageId, .beginPin pageId ∉ inputs) :
    EveryStep (pipelineStep extractSections) PinsFit initial inputs := by
  have begins : NoPins initial := by
    intro pageId phase member
    rw [idle.coroutines] at member
    cases member
  clear idle
  induction inputs generalizing initial with
  | nil => trivial
  | cons input rest ih =>
      constructor
      · exact step_without_pins_fits initial input begins
      · apply ih
        · intro pageId member
          exact unpinned pageId (List.mem_cons_of_mem _ member)
        · apply step_without_pins extractSections initial input begins
          rintro pageId rfl
          exact unpinned pageId List.mem_cons_self

end Bound

def oneOfEach : List PipelineInput :=
  [.search "100", .beginPage ⟨"100", 0⟩ false, .beginPin "200", .resume 0, .resume 0, .resume 0,
    .resume 1]

def plainSite (_ : String) : List String := ["<p>on track</p>"]

theorem one_of_each_bounded :
    fetchesInFlight (run (pipelineStep fun _ => []) (start plainSite 3) oneOfEach).1 ≤ 3 :=
  fetches_bounded (fun _ => []) 3 (start plainSite 3) (start_idle plainSite 3) oneOfEach
    (by decide +kernel)

def fourPins : List PipelineInput :=
  [.beginPin "100", .beginPin "200", .beginPin "300", .beginPin "400", .resume 0, .resume 1,
    .resume 2, .resume 3]

/-- All four are fetched at a time, where three are allowed. -/
theorem four_pins_exceed :
    fetchesInFlight (run (pipelineStep fun _ => []) (start plainSite 3) fourPins).1 = 4 := by
  decide +kernel

end AtlasMindNetra.ConfluencePipeline
