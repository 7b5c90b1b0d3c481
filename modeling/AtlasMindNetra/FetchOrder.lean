import AtlasMindNetra.PipelineMoves

/-!
# The order of page fetches

What happens to one page in a run is read off the coroutines that move: a fetch
starts under the lock, it is answered, its body is cached, sections are
returned. A pinned fetch caches its body after it has given the lock back, but
in the same turn, so the bodies are cached in the order in which their fetches
have started.
-/

namespace AtlasMindNetra.ConfluencePipeline

open AtlasMindNetra.PythonValues AtlasMindNetra.ResourceRules AtlasMindNetra.RunRules
open PipelineState

set_option autoImplicit false

/-- A fetch is named by its coroutine, which makes at most one. -/
inductive FetchEvent where
  | started (index : Nat)
  | succeeded (html : String)
  | written (index : Nat)
  | returned (sections : Sections)
  deriving DecidableEq

def Coroutine.pageId : Coroutine → String
  | .page own _ _ => own.pageId
  | .pin own _ => own

/-- What the coroutine at `index` does when it moves from one place to the next. -/
def moveEvents (index : Nat) : Coroutine → Coroutine → List FetchEvent
  | .page _ _ .reading, .page _ _ (.extracting sections)
  | .page _ _ .locking, .page _ _ (.extracting sections) => [.returned sections]
  | .page _ _ .locking, .page _ _ .fetching | .pin _ .locking, .pin _ .fetching => [.started index]
  | .page _ _ .fetching, .page _ _ (.fetched html)
  | .pin _ .fetching, .pin _ (.fetched html _) => [.succeeded html]
  | .page _ _ (.fetched _), .page _ _ (.extracting sections) => [.written index, .returned sections]
  | .pin _ (.fetched _ _), .pin _ .finished => [.written index]
  | _, _ => []

section Events

variable (extractSections : String → Sections) (pageId : String)

def fetchEvents (state : PipelineState) (input : PipelineInput) : List FetchEvent :=
  match turnOf input with
  | none => []
  | some index =>
      match state.coroutines[index]?,
        (pipelineStep extractSections state input).1.coroutines[index]? with
      | some old, some new => if old.pageId = pageId then moveEvents index old new else []
      | _, _ => []

end Events

def starters (events : List FetchEvent) : List Nat :=
  events.filterMap fun event =>
    match event with
    | .started index => some index
    | _ => none

def writers (events : List FetchEvent) : List Nat :=
  events.filterMap fun event =>
    match event with
    | .written index => some index
    | _ => none

def successes (events : List FetchEvent) : List String :=
  events.filterMap fun event =>
    match event with
    | .succeeded html => some html
    | _ => none

/-- What the calls of `get_page_sections` have returned. -/
def returns (events : List FetchEvent) : List Sections :=
  events.filterMap fun event =>
    match event with
    | .returned sections => some sections
    | _ => none

/-- A call of `get_page_by_id` for the page is in flight. -/
def Coroutine.fetches (pageId : String) : Coroutine → Bool
  | .page own _ .fetching => own.pageId = pageId
  | .pin own .fetching => own = pageId
  | _ => false

def Coroutine.hasStarted : Coroutine → Bool
  | .page _ _ .queued | .page _ _ .reading | .page _ _ .locking | .pin _ .locking => false
  | _ => true

/-- A move as far as the order matters: it starts a fetch under the free lock,
it caches a body and has given the lock back, or neither. -/
inductive OrderMove (state : PipelineState) (index : Nat) (old new : Coroutine) : Prop
  | starts (started : starters (moveEvents index old new) = [index])
      (unwritten : writers (moveEvents index old new) = [])
      (free : old.pageId ∉ state.pageLocks)
      (before : old.hasStarted = false) (after : new.hasStarted = true)
  | writes (unstarted : starters (moveEvents index old new) = [])
      (written : writers (moveEvents index old new) = [index])
      (held : heldPages old = [old.pageId]) (released : heldPages new = [])
      (after : new.hasStarted = true)
  | keeps (unstarted : starters (moveEvents index old new) = [])
      (unwritten : writers (moveEvents index old new) = [])
      (fewer : heldPages new ⊆ heldPages old)
      (onward : old.hasStarted = true → new.hasStarted = true)

@[simp]
theorem starters_append
    (events later : List FetchEvent) :
    starters (events ++ later) = starters events ++ starters later := List.filterMap_append

@[simp]
theorem writers_append
    (events later : List FetchEvent) :
    writers (events ++ later) = writers events ++ writers later := List.filterMap_append

theorem page_move_order
    (extractSections : String → Sections)
    (state : PipelineState)
    (index : Nat)
    (page : ConfluencePage)
    (forceRefresh : Bool)
    (phase next : PagePhase)
    (after : PipelineState)
    (output : PipelineOutput)
    (move : PageMove extractSections state page forceRefresh phase next after output) :
    OrderMove state index (.page page forceRefresh phase) (.page page forceRefresh next) := by
  cases move with
  | locks free miss => exact .starts rfl rfl free rfl rfl
  | stores html => exact .writes rfl rfl rfl rfl rfl
  | refused message => exact .keeps rfl rfl (List.nil_subset _) fun _ => rfl
  | enters free => exact .keeps rfl rfl (List.Subset.refl _) nofun
  | misses miss => exact .keeps rfl rfl (List.Subset.refl _) nofun
  | _ => exact .keeps rfl rfl (List.Subset.refl _) fun _ => rfl

theorem pin_move_order
    (state : PipelineState)
    (index : Nat)
    (pageId : String)
    (phase next : PinPhase)
    (after : PipelineState)
    (output : PipelineOutput)
    (move : PinMove state pageId phase next after output) :
    OrderMove state index (.pin pageId phase) (.pin pageId next) := by
  cases move with
  | locks free => exact .starts rfl rfl free rfl rfl
  | answered html newest => exact .keeps rfl rfl (List.Subset.refl _) fun _ => rfl
  | refused message => exact .keeps rfl rfl (List.nil_subset _) fun _ => rfl
  | stores html lastModified => exact .writes rfl rfl rfl rfl rfl

/-- The bodies were cached in the order in which their fetches started, and the
fetch under way, if there is one, is the newest. -/
structure Ordered (pageId : String) (state : PipelineState) (events : List FetchEvent) : Prop where
  newest : ∀ index coroutine, state.coroutines[index]? = some coroutine →
    pageId ∈ heldPages coroutine →
      ∃ earlier, starters events = earlier ++ [index] ∧ (writers events).Sublist earlier
  order : (writers events).Sublist (starters events)
  known : ∀ index ∈ starters events, ∃ coroutine, state.coroutines[index]? = some coroutine ∧
    coroutine.hasStarted = true
  once : (starters events).Nodup

section Order

variable (extractSections : String → Sections) (pageId : String)

theorem held_page
    (coroutine : Coroutine)
    (holds : pageId ∈ heldPages coroutine) : coroutine.pageId = pageId := by
  cases coroutine with
  | page page forceRefresh phase =>
      cases phase with
      | fetching => exact (List.mem_singleton.mp holds).symm
      | fetched html => exact (List.mem_singleton.mp holds).symm
      | _ => cases holds
  | pin own phase =>
      cases phase with
      | fetching => exact (List.mem_singleton.mp holds).symm
      | fetched html lastModified => exact (List.mem_singleton.mp holds).symm
      | _ => cases holds

variable (state after : PipelineState) (events : List FetchEvent)

/-- A step that starts and caches nothing, and after which no more coroutines
hold the lock than before. -/
theorem quiet_ordered
    (later : List FetchEvent)
    (unstarted : starters later = [])
    (unwritten : writers later = [])
    (holders : ∀ (index : Nat) (new : Coroutine), after.coroutines[index]? = some new →
      pageId ∈ heldPages new → ∃ old, state.coroutines[index]? = some old ∧ pageId ∈ heldPages old)
    (onward : ∀ (index : Nat) (old : Coroutine), state.coroutines[index]? = some old →
      old.hasStarted = true → ∃ new, after.coroutines[index]? = some new ∧ new.hasStarted = true)
    (ordered : Ordered pageId state events) : Ordered pageId after (events ++ later) := by
  constructor
  · intro index new atIndex holds
    rcases holders index new atIndex holds with ⟨old, before, held⟩
    rw [starters_append, writers_append, unstarted, unwritten, List.append_nil, List.append_nil]
    exact ordered.newest index old before held
  · rw [starters_append, writers_append, unstarted, unwritten, List.append_nil, List.append_nil]
    exact ordered.order
  · intro index member
    rw [starters_append, unstarted, List.append_nil] at member
    rcases ordered.known index member with ⟨old, before, started⟩
    exact onward index old before started
  · rw [starters_append, unstarted, List.append_nil]
    exact ordered.once

variable (capacity index : Nat) (old new : Coroutine)
variable (balanced : Balanced capacity state)
variable (atIndex : state.coroutines[index]? = some old)
variable (moved : after.coroutines = state.coroutines.set index new)

include atIndex moved

theorem moved_position
    (position : Nat)
    (coroutine : Coroutine)
    (found : after.coroutines[position]? = some coroutine) :
    position = index ∧ coroutine = new ∨
      position ≠ index ∧ state.coroutines[position]? = some coroutine := by
  rw [moved] at found
  by_cases same : position = index
  · subst same
    rw [List.getElem?_set_self (List.getElem?_eq_some_iff.mp atIndex).1] at found
    exact Or.inl ⟨rfl, (Option.some.inj found).symm⟩
  · rw [List.getElem?_set_ne fun eq => same eq.symm] at found
    exact Or.inr ⟨same, found⟩

theorem moved_onward
    (onward : old.hasStarted = true → new.hasStarted = true)
    (position : Nat)
    (coroutine : Coroutine)
    (found : state.coroutines[position]? = some coroutine)
    (started : coroutine.hasStarted = true) :
    ∃ later, after.coroutines[position]? = some later ∧ later.hasStarted = true := by
  rw [moved]
  by_cases same : position = index
  · subst same
    rw [atIndex] at found
    cases found
    rw [List.getElem?_set_self (List.getElem?_eq_some_iff.mp atIndex).1]
    exact ⟨new, rfl, onward started⟩
  · rw [List.getElem?_set_ne fun eq => same eq.symm]
    exact ⟨coroutine, found, started⟩

include balanced

theorem moved_ordered
    (own : old.pageId = pageId)
    (move : OrderMove state index old new)
    (ordered : Ordered pageId state events) :
    Ordered pageId after (events ++ moveEvents index old new) := by
  cases move with
  | starts started unwritten free before hasStarted =>
      have onward := moved_onward state after index old new atIndex moved fun _ => hasStarted
      have unheld (coroutine : Coroutine) (member : coroutine ∈ state.coroutines)
          (holds : pageId ∈ heldPages coroutine) : False := by
        rw [own] at free
        exact free (accounted_taken pageId balanced.pageLocks coroutine member holds)
      have fresh : index ∉ starters events := by
        intro known
        rcases ordered.known index known with ⟨coroutine, found, already⟩
        rw [atIndex] at found
        cases found
        rw [before] at already
        cases already
      constructor
      · intro position coroutine found holds
        rcases moved_position state after index old new atIndex moved position coroutine found with
          ⟨rfl, rfl⟩ | ⟨_, stood⟩
        · apply Exists.intro (starters events)
          rw [starters_append, writers_append, started, unwritten, List.append_nil]
          exact ⟨rfl, ordered.order⟩
        · exact (unheld coroutine (List.mem_of_getElem? stood) holds).elim
      · rw [starters_append, writers_append, started, unwritten, List.append_nil]
        exact ordered.order.trans (List.sublist_append_left _ _)
      · intro position member
        rw [starters_append, started] at member
        rcases List.mem_append.mp member with known | newest
        · rcases ordered.known position known with ⟨coroutine, found, already⟩
          exact onward position coroutine found already
        · rw [List.mem_singleton.mp newest, moved,
            List.getElem?_set_self (List.getElem?_eq_some_iff.mp atIndex).1]
          exact ⟨new, rfl, hasStarted⟩
      · rw [starters_append, started]
        exact List.nodup_append.mpr ⟨ordered.once, List.nodup_singleton index, by
          intro earlier known last newest
          rw [List.mem_singleton.mp newest]
          rintro rfl
          exact fresh known⟩
  | writes unstarted written held released hasStarted =>
      have holds : pageId ∈ heldPages old := by
        rw [held, own]
        exact List.mem_singleton.mpr rfl
      rcases ordered.newest index old atIndex holds with ⟨earlier, all, inOrder⟩
      constructor
      · intro position coroutine found holdsToo
        rcases moved_position state after index old new atIndex moved position coroutine found with
          ⟨rfl, rfl⟩ | ⟨apart, stood⟩
        · rw [released] at holdsToo
          cases holdsToo
        · exact absurd (accounted_unique pageId balanced.pageLocks balanced.pageLocksOnce position
            index coroutine old stood atIndex holdsToo holds) apart
      · rw [starters_append, writers_append, unstarted, written, List.append_nil, all]
        exact inOrder.append (List.Sublist.refl _)
      · intro position member
        rw [starters_append, unstarted, List.append_nil] at member
        rcases ordered.known position member with ⟨coroutine, found, already⟩
        exact moved_onward state after index old new atIndex moved (fun _ => hasStarted) position
          coroutine found already
      · rw [starters_append, unstarted, List.append_nil]
        exact ordered.once
  | keeps unstarted unwritten fewer onward =>
      apply quiet_ordered pageId state after events _ unstarted unwritten
      · intro position coroutine found holds
        rcases moved_position state after index old new atIndex moved position coroutine found with
          ⟨rfl, rfl⟩ | ⟨_, before⟩
        · exact ⟨old, atIndex, fewer holds⟩
        · exact ⟨coroutine, before, holds⟩
      · exact moved_onward state after index old new atIndex moved onward
      · exact ordered

theorem any_moved_ordered
    (same : new.pageId = old.pageId)
    (move : OrderMove state index old new)
    (ordered : Ordered pageId state events) :
    Ordered pageId after
      (events ++ if old.pageId = pageId then moveEvents index old new else []) := by
  split_ifs with own
  · exact moved_ordered pageId state after events capacity index old new balanced atIndex moved own
      move ordered
  · have onward : old.hasStarted = true → new.hasStarted = true := by
      intro already
      cases move with
      | starts _ _ _ _ hasStarted => exact hasStarted
      | writes _ _ _ _ hasStarted => exact hasStarted
      | keeps _ _ _ onward => exact onward already
    apply quiet_ordered pageId state after events [] rfl rfl
    · intro position coroutine found holds
      rcases moved_position state after index old new atIndex moved position coroutine found with
        ⟨rfl, rfl⟩ | ⟨_, before⟩
      · exact absurd (same.symm.trans (held_page pageId coroutine holds)) own
      · exact ⟨coroutine, before, holds⟩
    · exact moved_onward state after index old new atIndex moved onward
    · exact ordered

end Order

section Run

variable (extractSections : String → Sections) (pageId : String)

theorem events_of_moved
    (state after : PipelineState)
    (input : PipelineInput)
    (index : Nat)
    (old new : Coroutine)
    (turn : turnOf input = some index)
    (atIndex : state.coroutines[index]? = some old)
    (same : after.coroutines = state.coroutines)
    (stepped : (pipelineStep extractSections state input).1 = after.moved index new) :
    fetchEvents extractSections pageId state input =
      if old.pageId = pageId then moveEvents index old new else [] := by
  have inside : index < state.coroutines.length := (List.getElem?_eq_some_iff.mp atIndex).1
  simp only [fetchEvents, turn, atIndex, stepped, PipelineState.moved, same,
    List.getElem?_set_self inside]

theorem events_of_waiting
    (state : PipelineState)
    (input : PipelineInput)
    (stepped : (pipelineStep extractSections state input).1.coroutines = state.coroutines) :
    fetchEvents extractSections pageId state input = [] := by
  have still (index : Nat) (coroutine : Coroutine) : moveEvents index coroutine coroutine = [] := by
    cases coroutine with
    | page page forceRefresh phase => cases phase <;> rfl
    | pin own phase => cases phase <;> rfl
  unfold fetchEvents
  rw [stepped]
  cases turnOf input with
  | none => rfl
  | some index =>
      cases found : state.coroutines[index]? with
      | none => simp only [found]
      | some coroutine => simp only [found, still, ite_self]

theorem begun_ordered
    (state after : PipelineState)
    (events : List FetchEvent)
    (coroutine : Coroutine)
    (begun : after.coroutines = state.coroutines ++ [coroutine])
    (nothing : heldPages coroutine = [])
    (ordered : Ordered pageId state events) : Ordered pageId after events := by
  have quiet := quiet_ordered pageId state after events [] rfl rfl
  rw [List.append_nil] at quiet
  apply quiet
  · intro index new found holds
    rw [begun] at found
    rcases List.mem_append.mp (List.mem_of_getElem? found) with _ | last
    · by_cases inside : index < state.coroutines.length
      · rw [List.getElem?_append_left inside] at found
        exact ⟨new, found, holds⟩
      · have outside : new = coroutine := by
          rw [List.getElem?_append_right (Nat.le_of_not_lt inside)] at found
          exact List.mem_singleton.mp (List.mem_of_getElem? found)
        rw [outside, nothing] at holds
        cases holds
    · rw [List.mem_singleton.mp last, nothing] at holds
      cases holds
  · intro index old found started
    rw [begun, List.getElem?_append_left (List.getElem?_eq_some_iff.mp found).1]
    exact ⟨old, found, started⟩
  · exact ordered

theorem step_ordered
    (capacity : Nat)
    (state : PipelineState)
    (events : List FetchEvent)
    (input : PipelineInput)
    (balanced : Balanced capacity state)
    (ordered : Ordered pageId state events) :
    Ordered pageId (pipelineStep extractSections state input).1
      (events ++ fetchEvents extractSections pageId state input) := by
  have moves := pipeline_moves extractSections state input
  have observes := events_of_moved extractSections pageId state
  have waiting := events_of_waiting extractSections pageId state input
  generalize stepped : (pipelineStep extractSections state input).1 = after at moves waiting ⊢
  generalize (pipelineStep extractSections state input).2 = output at moves
  -- A step that leaves the coroutines alone.
  have still (same : after.coroutines = state.coroutines) :
      Ordered pageId after (events ++ fetchEvents extractSections pageId state input) := by
    rw [waiting same, List.append_nil]
    constructor
    · rw [same]
      exact ordered.newest
    · exact ordered.order
    · rw [same]
      exact ordered.known
    · exact ordered.once
  cases moves with
  | pageMoved index page forceRefresh phase next before _ _ turn resumed atIndex move =>
      have same := page_move_coroutines extractSections state page forceRefresh phase next before _
        move
      rw [observes before input index _ _ turn atIndex same stepped]
      exact any_moved_ordered pageId state _ events capacity index _ _ balanced atIndex
        (by rw [PipelineState.moved, same]) rfl
        (page_move_order extractSections state index page forceRefresh phase next before _ move) ordered
  | pinMoved index own phase next before _ _ turn resumed atIndex move =>
      have same := pin_move_coroutines state own phase next before _ move
      rw [observes before input index _ _ turn atIndex same stepped]
      exact any_moved_ordered pageId state _ events capacity index _ _ balanced atIndex
        (by rw [PipelineState.moved, same]) rfl
        (pin_move_order state index own phase next before _ move) ordered
  | pageBegun page forceRefresh found =>
      have nothing : fetchEvents extractSections pageId state (.beginPage page forceRefresh) = [] :=
        rfl
      rw [nothing, List.append_nil]
      exact begun_ordered pageId state _ events _ rfl rfl ordered
  | pinBegun own =>
      have nothing : fetchEvents extractSections pageId state (.beginPin own) = [] := rfl
      rw [nothing, List.append_nil]
      exact begun_ordered pageId state _ events _ rfl rfl ordered
  | waits => exact still rfl
  | edited own html => exact still rfl
  | found own page => exact still rfl
  | pageLost own => exact still rfl
  | extractionLost key => exact still rfl

end Run

end AtlasMindNetra.ConfluencePipeline
