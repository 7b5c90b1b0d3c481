import AtlasMindNetra.CacheRules
import AtlasMindNetra.OrchestratorRuns

/-!
# What an answer teaches

The learning loop files every resolution that the clarifier returns, in the
session and in the conventions of the whole team, and never looks at the terms
the question was about. An answer leaves the other terms alone exactly if what
it says about them is what was stored already.
-/

namespace AtlasMindNetra.Orchestrator

open AtlasMindNetra.PythonValues AtlasMindNetra.ResponseModels
open AtlasMindNetra.SessionStore AtlasMindNetra.ConventionsStore
open AtlasMindNetra.IntentClassifier AtlasMindNetra.EffectRules AtlasMindNetra.RunRules
open AtlasMindNetra.CacheRules

set_option autoImplicit false

/-- One pass of the learning loop. -/
structure Lesson where
  learnedAt : String
  item : TermResolutionOutput

section Scope

variable (orch : OrchestratorConfig) (env : ClarificationSide) (path : AnswerPath)

/-- The passes that are begun: all up to the first failing write. -/
def lessons : Nat → List TermResolutionOutput → List Lesson
  | _, [] => []
  | index, item :: rest =>
      ⟨env.learnedAt path index, item⟩ ::
        match env.conventionsSet path index with
        | some _ => []
        | none => lessons (index + 1) rest

theorem lesson_item
    (index : Nat)
    (items : List TermResolutionOutput)
    (lesson : Lesson)
    (taught : lesson ∈ lessons env path index items) : lesson.item ∈ items := by
  induction items generalizing index with
  | nil => exact absurd taught List.not_mem_nil
  | cons item rest ih =>
      rw [lessons] at taught
      rcases List.mem_cons.mp taught with rfl | later
      · exact List.mem_cons_self
      · apply List.mem_cons_of_mem
        cases fault : env.conventionsSet path index with
        | some error =>
            rw [fault] at later
            exact absurd later List.not_mem_nil
        | none =>
            rw [fault] at later
            exact ih (index + 1) later

def Lesson.term (lesson : Lesson) : String := orch.tables.lower lesson.item.term

def Lesson.key (lesson : Lesson) : String × String :=
  JsonFileConventionsStore.defaultKey orch.tables (lesson.term orch)

def Lesson.resolution (lesson : Lesson) : TermResolution := sessionResolution orch lesson.item

def Lesson.convention (lesson : Lesson) : Convention :=
  learnedConvention orch lesson.learnedAt lesson.item

theorem learned_files_lessons
    (index : Nat)
    (items : List TermResolutionOutput)
    (start : CallState) :
    (learned orch env path index items start).session.resolutions =
        fileAll (Lesson.term orch) (Lesson.resolution orch) start.session.resolutions
          (lessons env path index items) ∧
      (learned orch env path index items start).conventions.items =
        fileAll (Lesson.key orch) (Lesson.convention orch) start.conventions.items
          (lessons env path index items) := by
  induction items generalizing index start with
  | nil => exact ⟨rfl, rfl⟩
  | cons item rest ih =>
      rw [learned, lessons]
      cases env.conventionsSet path index with
      | some error => exact ⟨rfl, rfl⟩
      | none => exact ih (index + 1) _

/-- Resolutions and conventions differ for `terms` only. -/
structure TeachesOnly (terms : List String) (session : SessionState)
    (conventions : JsonFileConventionsStore) (after : CallState) : Prop where
  resolutions : ∀ term, term ∉ terms →
    after.session.resolutions.get? term = session.resolutions.get? term
  conventions : ∀ key, key ∉ terms.map (JsonFileConventionsStore.defaultKey orch.tables) →
    after.conventions.items.get? key = conventions.items.get? key

/-- The last lesson about any other term says what is stored already. -/
structure RepeatsStored (terms : List String) (session : SessionState)
    (conventions : JsonFileConventionsStore) (taught : List Lesson) : Prop where
  resolutions : ∀ term lesson, term ∉ terms →
    lastFiled (Lesson.term orch) taught term = some lesson →
    session.resolutions.get? term = some (lesson.resolution orch)
  conventions : ∀ key lesson, key ∉ terms.map (JsonFileConventionsStore.defaultKey orch.tables) →
    lastFiled (Lesson.key orch) taught key = some lesson →
    conventions.items.get? key = some (lesson.convention orch)

theorem learned_teaches_only_iff
    (terms : List String)
    (index : Nat)
    (items : List TermResolutionOutput)
    (start : CallState) :
    TeachesOnly orch terms start.session start.conventions
        (learned orch env path index items start) ↔
      RepeatsStored orch terms start.session start.conventions (lessons env path index items) := by
  rcases learned_files_lessons orch env path index items start with ⟨resolutions, conventions⟩
  have session := file_all_keeps_iff (Lesson.term orch) (Lesson.resolution orch)
    start.session.resolutions (lessons env path index items) (· ∉ terms)
  have store := file_all_keeps_iff (Lesson.key orch) (Lesson.convention orch)
    start.conventions.items (lessons env path index items)
    (· ∉ terms.map (JsonFileConventionsStore.defaultKey orch.tables))
  rw [← resolutions] at session
  rw [← conventions] at store
  constructor
  · intro only
    exact ⟨session.mp only.resolutions, store.mp only.conventions⟩
  · intro repeats
    exact ⟨session.mpr repeats.resolutions, store.mpr repeats.conventions⟩

/-- Handling an answer, on either path and from any state, leaves the terms
that were not asked about alone exactly if the lessons about them repeat what
is stored. -/
theorem answer_teaches_only_iff
    (query : String)
    (terms : List String)
    (answer : String)
    (start : CallState) :
    Ensures (resolveAndLearn orch env path query terms answer) start
      (fun _ final => TeachesOnly orch terms start.session start.conventions final)
      (fun _ final => TeachesOnly orch terms start.session start.conventions final) ↔
      ∀ resolved, env.resolveAnswer path (resolveRequest orch query terms answer) = .ok resolved →
        RepeatsStored orch terms start.session start.conventions
          (lessons env path 0 resolved.resolutions) := by
  apply Iff.trans (ensures_resolve_and_learn orch env path query terms answer start _ _)
  have asked : ∀ resolved : ResolvedTerms,
      TeachesOnly orch terms start.session start.conventions
        (learned orch env path 0 resolved.resolutions
          (start.log (.resolveRequested path (resolveRequest orch query terms answer)))) ↔
        RepeatsStored orch terms start.session start.conventions
          (lessons env path 0 resolved.resolutions) := by
    intro resolved
    exact learned_teaches_only_iff orch env path terms 0 resolved.resolutions
      (start.log (.resolveRequested path (resolveRequest orch query terms answer)))
  constructor
  · rintro ⟨-, taught⟩ resolved returned
    rcases taught resolved returned with ⟨returns, raises⟩
    rw [← asked]
    cases fault : learnFault env path 0 resolved.resolutions with
    | none => exact returns fault
    | some error => exact raises error fault
  · intro repeats
    constructor
    · intro error failed
      exact ⟨fun _ _ => rfl, fun _ _ => rfl⟩
    · intro resolved returned
      have only := (asked resolved).mpr (repeats resolved returned)
      exact ⟨fun _ => only, fun _ _ => only⟩

end Scope

/-- The team has learned what `late` means. -/
def lateLearned : JsonFileConventionsStore :=
  .load asciiTables
    [{ project := instanceDefaultProject, term := "late", resolutionKey := "due",
       jqlHint := "due < now()", learnedAt := "monday" }]

/-- A clarifier that speaks about `late` whatever it was asked. -/
def strayEnvironment : QueryEnvironment :=
  { sampleEnvironment with
    clarification := { sampleEnvironment.clarification with
      resolveAnswer := fun _ _ =>
        .ok { resolutions :=
          [{ term := "Late", resolutionKey := "sla", jqlHint := "sla = breached" }] } } }

def openAsked : World :=
  (queryStep sampleOrchestrator .valkey { conventions := lateLearned }
    { query := "open", sessionId := "s" } sampleEnvironment).1

/-- An answer to the question about `open` rewrites the team's `late`. -/
theorem stray_resolution_taught :
    ReachableWorld sampleOrchestrator .valkey openAsked ∧
      (openAsked.sessions.get? "s").map SessionState.pendingTerms = some ["open"] ∧
      (queryStep sampleOrchestrator .valkey openAsked answerOpen
        strayEnvironment).1.conventions.get asciiTables instanceDefaultProject "late" ≠
        openAsked.conventions.get asciiTables instanceDefaultProject "late" := by
  constructor
  · exact ⟨lateLearned,
      [.call { query := "open", sessionId := "s" } sampleEnvironment], ⟨trivial, trivial⟩, rfl⟩
  · constructor
    · decide +kernel
    · decide +kernel

end AtlasMindNetra.Orchestrator
