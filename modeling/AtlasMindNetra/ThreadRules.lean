import AtlasMindNetra.EffectRules
import AtlasMindNetra.RunRules
import Mathlib.Logic.Function.Basic
import Mathlib.Tactic.SplitIfs

/-!
# Programs that take turns on one state

A resumption is a program cut into atomic steps: each step reads and changes
the shared state and says how to go on. Threads of many owners take their
steps in any order. If the steps of every owner see and change no more than the
owner's view of the state, the threads of one owner run as they would without
the others, as long as the others leave alone what all views have in common.
-/

namespace AtlasMindNetra.ThreadRules

open AtlasMindNetra.RunRules
open AtlasMindNetra.EffectRules (Ensures fromOutcome)

set_option autoImplicit false

/-- A program that runs in atomic steps. Other programs may run between two of them. -/
inductive Resumption (State Error Value : Type) where
  | done (value : Value)
  | raised (error : Error)
  | step (change : State → State) (next : State → Resumption State Error Value)

namespace Resumption

variable {State Error Value Next Caught : Type}

/-- Goes on with `next` where the first program returns. -/
def andThen (next : Value → Resumption State Error Next) :
    Resumption State Error Value → Resumption State Error Next
  | .done value => next value
  | .raised error => .raised error
  | .step change rest => .step change fun state => (rest state).andThen next

instance : Monad (Resumption State Error) where
  pure := .done
  bind first next := first.andThen next

/-- Hands the errors picked by `select` to the caller as values. -/
def catching (select : Error → Option Caught) :
    Resumption State Error Value → Resumption State Error (Except Caught Value)
  | .done value => .done (.ok value)
  | .raised error =>
      match select error with
      | some caught => .done (.error caught)
      | none => .raised error
  | .step change rest => .step change fun state => (rest state).catching select

def outcome? : Resumption State Error Value → Option (Except Error Value)
  | .done value => some (.ok value)
  | .raised error => some (.error error)
  | .step _ _ => none

def ofOutcome : Except Error Value → Resumption State Error Value
  | .ok value => .done value
  | .error error => .raised error

def atomic (action : State → State × Except Error Value) : Resumption State Error Value :=
  .step (fun state => (action state).1) fun state => ofOutcome (action state).2

def runAlone : Resumption State Error Value → EStateM Error State Value
  | .done value => pure value
  | .raised error => throw error
  | .step change next => fun state => (next state).runAlone (change state)

theorem run_alone_atomic (action : State → State × Except Error Value) (state : State) :
    (atomic action).runAlone state = fromOutcome (action state).2 (action state).1 := by
  change (ofOutcome (action state).2).runAlone (action state).1 = _
  cases (action state).2 <;> rfl

theorem run_alone_bind (first : Resumption State Error Value)
    (next : Value → Resumption State Error Next) :
    (first >>= next).runAlone = first.runAlone >>= fun value => (next value).runAlone := by
  induction first with
  | done value => rfl
  | raised error => rfl
  | step change rest ih =>
      funext state
      exact congrFun (ih state) (change state)

theorem run_alone_catching (select : Error → Option Caught)
    (program : Resumption State Error Value) :
    (program.catching select).runAlone = EffectRules.catching select program.runAlone := by
  induction program with
  | done value => rfl
  | raised error =>
      funext state
      change ((match select error with
        | some caught => .done (.error caught)
        | none => .raised error : Resumption State Error (Except Caught Value))).runAlone state =
          match select error with
          | some caught => .ok (.error caught) state
          | none => .error error state
      cases select error <;> rfl
  | step change rest ih =>
      funext state
      exact congrFun (ih state) (change state)

end Resumption

/-- The shared state, and the programs of every owner in the order of their start. -/
structure Threads (State Error Value Tag : Type) where
  shared : State
  programs : Tag → List (Resumption State Error Value) := fun _ => []

/-- A job is started, a program takes a step, or something befalls an owner from outside. -/
inductive ThreadInput (Tag Job : Type) where
  | start (job : Job)
  | resume (owner : Tag) (index : Nat)
  | strike (owner : Tag)

section Machine

variable {State Error Value Tag Job : Type} [DecidableEq Tag]
variable (owner : Job → Tag) (program : Job → Resumption State Error Value)
variable (strike : Tag → State → State)

def ThreadInput.about : ThreadInput Tag Job → Tag
  | .start job => owner job
  | .resume tag _ => tag
  | .strike tag => tag

def Threads.withPrograms (threads : Threads State Error Value Tag) (tag : Tag)
    (programs : List (Resumption State Error Value)) : Threads State Error Value Tag :=
  { threads with programs := Function.update threads.programs tag programs }

@[simp]
theorem shared_with_programs (threads : Threads State Error Value Tag) (tag : Tag)
    (programs : List (Resumption State Error Value)) :
    (threads.withPrograms tag programs).shared = threads.shared := rfl

@[simp]
theorem programs_with_programs (threads : Threads State Error Value Tag) (tag other : Tag)
    (programs : List (Resumption State Error Value)) :
    (threads.withPrograms tag programs).programs other =
      if other = tag then programs else threads.programs other :=
  Function.update_apply threads.programs tag programs other

/-- A step of the program at `index` among its owner's. -/
def resumeAt (threads : Threads State Error Value Tag) (tag : Tag) (index : Nat) :
    Threads State Error Value Tag × Option (Except Error Value) :=
  match (threads.programs tag)[index]? with
  | some (.step change next) =>
      let rest := next threads.shared
      ({ threads with shared := change threads.shared }.withPrograms tag
        ((threads.programs tag).set index rest), rest.outcome?)
  | _ => (threads, none)

def threadStep (threads : Threads State Error Value Tag) :
    ThreadInput Tag Job → Threads State Error Value Tag × Option (Except Error Value)
  | .start job =>
      (threads.withPrograms (owner job) (threads.programs (owner job) ++ [program job]),
        (program job).outcome?)
  | .resume tag index => resumeAt threads tag index
  | .strike tag => ({ threads with shared := strike tag threads.shared }, none)

variable {owner program strike}

def Runnable (threads : Threads State Error Value Tag) (tag : Tag) (index : Nat)
    (change : State → State) (next : State → Resumption State Error Value) : Prop :=
  (threads.programs tag)[index]? = some (.step change next)

theorem resume_runnable
    (threads : Threads State Error Value Tag) (tag : Tag) (index : Nat)
    (change : State → State) (next : State → Resumption State Error Value)
    (runnable : Runnable threads tag index change next) :
    resumeAt threads tag index =
      ({ threads with shared := change threads.shared }.withPrograms tag
        ((threads.programs tag).set index (next threads.shared)),
          (next threads.shared).outcome?) := by
  rw [resumeAt, runnable]

theorem resume_ended
    (threads : Threads State Error Value Tag) (tag : Tag) (index : Nat)
    (ended : ¬∃ change next, Runnable threads tag index change next) :
    resumeAt threads tag index = (threads, none) := by
  unfold Runnable at ended
  unfold resumeAt
  cases found : (threads.programs tag)[index]? with
  | none => rfl
  | some thread =>
      cases thread with
      | step change next => exact absurd ⟨change, next, found⟩ ended
      | done value => rfl
      | raised error => rfl

/-- A thread that alone is resumed runs to its end; the induction is on the
program that is left of it. -/
theorem resumed_to_end
    (threads : Threads State Error Value Tag) (tag : Tag) (index : Nat)
    (thread : Resumption State Error Value)
    (found : (threads.programs tag)[index]? = some thread) :
    ∃ count, let final := (run (threadStep owner program strike) threads
        (List.replicate count (.resume tag index))).1
      Ensures thread.runAlone threads.shared
        (fun value state => final.shared = state ∧
          (final.programs tag)[index]? = some (.done value))
        (fun error state => final.shared = state ∧
          (final.programs tag)[index]? = some (.raised error)) := by
  induction thread generalizing threads with
  | done value => exact ⟨0, rfl, found⟩
  | raised error => exact ⟨0, rfl, found⟩
  | step change next ih =>
      have moved := resume_runnable threads tag index change next found
      have inside := (List.getElem?_eq_some_iff.mp found).1
      rcases ih threads.shared (resumeAt threads tag index).1 (by
        rw [moved, programs_with_programs, if_pos rfl, List.getElem?_set_self inside])
        with ⟨count, ended⟩
      apply Exists.intro (count + 1)
      rw [List.replicate_succ, run_cons]
      rw [moved] at ended
      simp only [threadStep, moved]
      exact ended

end Machine

section Confinement

variable {State Error Value Next Caught Tag View Common Shown : Type}
variable (good : State → Prop) (view : Tag → State → View) (common : State → Common)

/-- A step of `tag` depends on its view only, and is not seen by others unless
it changes what is common. -/
structure ConfinedStep {Result : Type} (tag : Tag) (change : State → State)
    (next : State → Result) : Prop where
  keeps : ∀ state, good state → good (change state)
  sees : ∀ state other, good state → good other → view tag state = view tag other →
    view tag (change state) = view tag (change other) ∧ next state = next other
  hides : ∀ state watcher, good state → watcher ≠ tag → common (change state) = common state →
    view watcher (change state) = view watcher state

/-- All steps of the program are confined, and it returns nothing but `returns`. -/
def Confined (tag : Tag) (returns : Value → Prop) : Resumption State Error Value → Prop
  | .done value => returns value
  | .raised _ => True
  | .step change next =>
      ConfinedStep good view common tag change next ∧
        ∀ state, good state → Confined tag returns (next state)

variable {good view common}

theorem confined_mono (tag : Tag) (returns returns' : Value → Prop)
    (program : Resumption State Error Value)
    (confined : Confined good view common tag returns program)
    (follows : ∀ value, returns value → returns' value) :
    Confined good view common tag returns' program := by
  induction program with
  | done value => exact follows value confined
  | raised error => trivial
  | step change next ih => exact ⟨confined.1, fun state sound => ih state (confined.2 state sound)⟩

theorem confined_bind (tag : Tag) (returns : Value → Prop) (returns' : Next → Prop)
    (first : Resumption State Error Value) (next : Value → Resumption State Error Next)
    (confined : Confined good view common tag returns first)
    (onwards : ∀ value, returns value → Confined good view common tag returns' (next value)) :
    Confined good view common tag returns' (first >>= next) := by
  induction first with
  | done value => exact onwards value confined
  | raised error => trivial
  | step change rest ih =>
      rcases confined with ⟨here, later⟩
      constructor
      · constructor
        · exact here.keeps
        · intro state other sound sound' same
          rcases here.sees state other sound sound' same with ⟨seen, together⟩
          exact ⟨seen, congrArg (Resumption.andThen next) together⟩
        · exact here.hides
      · intro state sound
        exact ih state (later state sound)

theorem confined_catching (tag : Tag) (select : Error → Option Caught) (returns : Value → Prop)
    (program : Resumption State Error Value)
    (confined : Confined good view common tag returns program) :
    Confined good view common tag (fun result => ∀ value, result = .ok value → returns value)
      (program.catching select) := by
  induction program with
  | done value =>
      intro other same
      cases same
      exact confined
  | raised error =>
      rw [Resumption.catching]
      cases select error with
      | none => trivial
      | some caught =>
          intro value same
          cases same
  | step change rest ih =>
      rcases confined with ⟨here, later⟩
      constructor
      · constructor
        · exact here.keeps
        · intro state other sound sound' same
          rcases here.sees state other sound sound' same with ⟨seen, together⟩
          exact ⟨seen, congrArg (Resumption.catching select) together⟩
        · exact here.hides
      · intro state sound
        exact ih state (later state sound)

theorem confined_atomic (tag : Tag) (returns : Value → Prop)
    (action : State → State × Except Error Value)
    (here : ConfinedStep good view common tag (fun state => (action state).1)
      (fun state => (action state).2))
    (ends : ∀ state value, good state → (action state).2 = .ok value → returns value) :
    Confined good view common tag returns (Resumption.atomic action) := by
  constructor
  · constructor
    · exact here.keeps
    · intro state other sound sound' same
      rcases here.sees state other sound sound' same with ⟨seen, together⟩
      exact ⟨seen, congrArg Resumption.ofOutcome together⟩
    · exact here.hides
  · intro state sound
    change Confined good view common tag returns (Resumption.ofOutcome (action state).2)
    cases ended : (action state).2 with
    | ok value => exact ends state value sound ended
    | error error => trivial

variable {Job : Type} [DecidableEq Tag]
variable (good view common)
variable (owner : Job → Tag) (program : Job → Resumption State Error Value)
variable (strike : Tag → State → State) (watcher : Tag) (shown : State → Shown)

def Discreet (threads : Threads State Error Value Tag) (input : ThreadInput Tag Job) : Prop :=
  input.about owner ≠ watcher →
    common (threadStep owner program strike threads input).1.shared = common threads.shared

instance [DecidableEq Common] (threads : Threads State Error Value Tag)
    (input : ThreadInput Tag Job) :
    Decidable (Discreet common owner program strike watcher threads input) :=
  inferInstanceAs (Decidable (_ → _))

/-- What the watcher is told by a step about it: the outcome of a program that
ends, and what the state shows after the step. -/
def told (threads : Threads State Error Value Tag) (input : ThreadInput Tag Job) :
    List (Option (Except Error Value) × Shown) :=
  if input.about owner = watcher then
    let (after, ended) := threadStep owner program strike threads input
    [(ended, shown after.shared)]
  else []

/-- All programs are confined to their owner's view. -/
structure Separated (threads : Threads State Error Value Tag) : Prop where
  sound : good threads.shared
  confined : ∀ tag, ∀ thread ∈ threads.programs tag,
    Confined good view common tag (fun _ => True) thread

/-- The watcher's threads are the same, and so is its view. -/
structure Alike (threads others : Threads State Error Value Tag) : Prop where
  programs : threads.programs watcher = others.programs watcher
  shared : view watcher threads.shared = view watcher others.shared

variable {good view common owner program strike}

variable (confinedJobs : ∀ job,
  Confined good view common (owner job) (fun _ => True) (program job))
variable (confinedStrikes : ∀ tag,
  ConfinedStep good view common tag (strike tag) fun _ => ())

theorem separated_with_programs
    (threads : Threads State Error Value Tag)
    (tag : Tag)
    (programs : List (Resumption State Error Value))
    (separated : Separated good view common threads)
    (confined : ∀ thread ∈ programs, Confined good view common tag (fun _ => True) thread) :
    Separated good view common (threads.withPrograms tag programs) := by
  constructor
  · exact separated.sound
  · intro other thread member
    rw [programs_with_programs] at member
    split_ifs at member with same
    · rw [same]
      exact confined thread member
    · exact separated.confined other thread member

include confinedJobs confinedStrikes in
theorem step_separated
    (threads : Threads State Error Value Tag)
    (input : ThreadInput Tag Job)
    (separated : Separated good view common threads) :
    Separated good view common (threadStep owner program strike threads input).1 := by
  cases input with
  | strike tag =>
      constructor
      · exact (confinedStrikes tag).keeps threads.shared separated.sound
      · exact separated.confined
  | start job =>
      apply separated_with_programs _ _ _ separated
      intro thread member
      rcases List.mem_append.mp member with old | new
      · exact separated.confined (owner job) thread old
      · rw [List.mem_singleton.mp new]
        exact confinedJobs job
  | resume tag index =>
      rw [threadStep]
      by_cases runs : ∃ change next, Runnable threads tag index change next
      · rcases runs with ⟨change, next, runnable⟩
        have here := separated.confined tag _ (List.mem_of_getElem? runnable)
        rw [resume_runnable threads tag index change next runnable]
        apply separated_with_programs
        · exact ⟨here.1.keeps threads.shared separated.sound, separated.confined⟩
        · intro thread member
          rcases List.mem_or_eq_of_mem_set member with old | new
          · exact separated.confined tag thread old
          · rw [new]
            exact here.2 threads.shared separated.sound
      · rw [resume_ended threads tag index runs]
        exact separated

include confinedStrikes in
theorem other_step_alike
    (threads others : Threads State Error Value Tag)
    (input : ThreadInput Tag Job)
    (separated : Separated good view common threads)
    (alike : Alike view watcher threads others)
    (about : input.about owner ≠ watcher)
    (discreet : Discreet common owner program strike watcher threads input) :
    Alike view watcher (threadStep owner program strike threads input).1 others := by
  have silent := discreet about
  cases input with
  | strike tag =>
      constructor
      · exact alike.programs
      · exact ((confinedStrikes tag).hides threads.shared watcher separated.sound about.symm
          silent).trans alike.shared
  | start job =>
      constructor
      · rw [threadStep, programs_with_programs, if_neg fun same => about same.symm]
        exact alike.programs
      · exact alike.shared
  | resume tag index =>
      rw [threadStep] at silent ⊢
      by_cases runs : ∃ change next, Runnable threads tag index change next
      · rcases runs with ⟨change, next, runnable⟩
        have here := separated.confined tag _ (List.mem_of_getElem? runnable)
        rw [resume_runnable threads tag index change next runnable] at silent ⊢
        constructor
        · rw [programs_with_programs, if_neg fun same => about same.symm]
          exact alike.programs
        · exact (here.1.hides threads.shared watcher separated.sound about.symm silent).trans
            alike.shared
      · rw [resume_ended threads tag index runs]
        exact alike

variable (program) in
include confinedStrikes in
theorem own_step_alike
    (threads others : Threads State Error Value Tag)
    (input : ThreadInput Tag Job)
    (separated : Separated good view common threads)
    (separated' : Separated good view common others)
    (alike : Alike view watcher threads others)
    (about : input.about owner = watcher) :
    Alike view watcher (threadStep owner program strike threads input).1
        (threadStep owner program strike others input).1 ∧
      (threadStep owner program strike threads input).2 =
        (threadStep owner program strike others input).2 := by
  subst about
  cases input with
  | strike tag =>
      have seen := (confinedStrikes tag).sees threads.shared others.shared separated.sound
        separated'.sound alike.shared
      exact ⟨⟨alike.programs, seen.1⟩, rfl⟩
  | start job =>
      have programs : threads.programs (owner job) = others.programs (owner job) := alike.programs
      refine ⟨⟨?_, alike.shared⟩, rfl⟩
      simp only [threadStep, ThreadInput.about, programs_with_programs, if_true, programs]
  | resume tag index =>
      have programs : threads.programs tag = others.programs tag := alike.programs
      have together : ∀ change next, Runnable threads tag index change next ↔
          Runnable others tag index change next := by
        intro change next
        rw [Runnable, Runnable, programs]
      simp only [threadStep, ThreadInput.about]
      by_cases runs : ∃ change next, Runnable threads tag index change next
      · rcases runs with ⟨change, next, runnable⟩
        have here := separated.confined tag _ (List.mem_of_getElem? runnable)
        have seen := here.1.sees threads.shared others.shared separated.sound separated'.sound
          alike.shared
        rw [resume_runnable threads tag index change next runnable,
          resume_runnable others tag index change next ((together change next).mp runnable),
          ← seen.2]
        refine ⟨⟨?_, seen.1⟩, rfl⟩
        simp only [programs_with_programs, if_true, programs]
      · have stays : ¬∃ change next, Runnable others tag index change next := by
          simpa only [together] using runs
        rw [resume_ended threads tag index runs, resume_ended others tag index stays]
        exact ⟨alike, rfl⟩

variable (shownToWatcher : ∀ state other, good state → good other →
  view watcher state = view watcher other → shown state = shown other)

include confinedJobs confinedStrikes shownToWatcher in
/-- Without the steps about others the watcher is told the same; the induction
is on the run, and the two runs keep alike for the watcher. -/
theorem told_alone
    (inputs : List (ThreadInput Tag Job))
    (threads others : Threads State Error Value Tag)
    (separated : Separated good view common threads)
    (separated' : Separated good view common others)
    (alike : Alike view watcher threads others)
    (discreet : EveryStep (threadStep owner program strike)
      (Discreet common owner program strike watcher) threads inputs) :
    observed (threadStep owner program strike) (told owner program strike watcher shown) threads
        inputs =
      observed (threadStep owner program strike) (told owner program strike watcher shown) others
        (inputs.filter fun input => input.about owner = watcher) := by
  induction inputs generalizing threads others with
  | nil => rfl
  | cons input rest ih =>
      have next := step_separated confinedJobs confinedStrikes threads input separated
      by_cases about : input.about owner = watcher
      · have both := own_step_alike program watcher confinedStrikes threads others input separated
          separated' alike about
        have next' := step_separated confinedJobs confinedStrikes others input separated'
        have seen := shownToWatcher _ _ next.sound next'.sound both.1.shared
        rw [List.filter_cons_of_pos (by simpa using about), observed, observed,
          ih _ _ next next' both.1 discreet.2]
        simp only [told, if_pos about, both.2, seen]
      · have unnoticed := other_step_alike watcher confinedStrikes threads others input separated
          alike about discreet.1
        rw [List.filter_cons_of_neg (by simpa using about), observed,
          ih _ _ next separated' unnoticed discreet.2, told, if_neg about, List.nil_append]

end Confinement

end AtlasMindNetra.ThreadRules
