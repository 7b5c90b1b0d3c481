import AtlasMindNetra.ConventionFile
import AtlasMindNetra.ConventionMemory
import AtlasMindNetra.ServerTools

/-!
# Restarts of the server

A restart reads the conventions from their file, connects to the session stores
again, and starts with empty caches. With Valkey behind the stores and no failed
write of a convention, what is read is what was there, so a restart between two
calls does not show, but for what briefings conclude over other caches.
-/

namespace AtlasMindNetra.ServerTools

open AtlasMindNetra.PythonValues AtlasMindNetra.ResponseModels AtlasMindNetra.SessionStore
open AtlasMindNetra.IntentClassifier AtlasMindNetra.EffectRules AtlasMindNetra.RunRules
open AtlasMindNetra.ConventionsStore AtlasMindNetra.ConventionsStore.JsonFileConventionsStore
open AtlasMindNetra.Orchestrator AtlasMindNetra.BriefingOrchestrator

set_option autoImplicit false

section Queries

variable (orch : OrchestratorConfig)

theorem copied_remember
    (store : JsonFileConventionsStore)
    (convention : Convention)
    (copied : Copied orch.tables store) :
    Copied orch.tables (store.remember orch.tables convention).persist := by
  apply copied_persist
  intro place other found
  rw [remember, OrderedDict.get?_set] at found
  split_ifs at found with same
  · cases found
    exact same.symm
  · exact copied.ownKeys place other found

theorem learned_copied
    (env : ClarificationSide)
    (writes : ∀ path index, env.conventionsSet path index = none)
    (path : AnswerPath)
    (index : Nat)
    (items : List TermResolutionOutput)
    (start : CallState)
    (copied : Copied orch.tables start.conventions) :
    Copied orch.tables (learned orch env path index items start).conventions := by
  induction items generalizing index start with
  | nil => exact copied
  | cons item rest ih =>
      rw [learned, writes path index]
      exact ih _ _ (copied_remember orch start.conventions _ copied)

theorem copied_preserves
    (env : QueryEnvironment)
    (writes : ∀ path index, env.clarification.conventionsSet path index = none)
    (sessionId : String) :
    Preserves orch env sessionId (fun st => Copied orch.tables st.conventions) where
  logged _ _ _ copied := copied
  formulates _ _ _ _ copied := copied
  unresolved _ _ _ _ _ copied := copied
  resolves path _ resolved _ _ copied :=
    learned_copied orch env.clarification writes path 0 resolved.resolutions _ copied
  moved _ _ _ copied := copied
  counted _ copied := copied
  dispatches _ copied := copied
  awaits _ _ _ _ _ copied := copied
  opened st copied := by
    unfold CallState.opened
    cases st.sessions.get? sessionId with
    | some session => exact copied
    | none => exact copied
  replaced _ copied := copied
  reissues st _ copied := by
    unfold CallState.opened
    cases st.sessions.get? sessionId with
    | some session => exact copied
    | none => exact copied

theorem query_step_copied
    (store : SessionBackend)
    (world : World)
    (call : QueryCall)
    (env : QueryEnvironment)
    (writes : ∀ path index, env.clarification.conventionsSet path index = none)
    (copied : Copied orch.tables world.conventions) :
    Copied orch.tables (queryStep orch store world call env).1.conventions := by
  apply (query_step_iff orch store world call env fun next _ =>
    Copied orch.tables next.conventions).mpr
  apply ensures_mono ((copied_preserves orch env writes call.sessionId).handle_query call _ copied)
  · intro _ final held
    rw [close_conventions store]
    exact held
  · intro _ final held
    rw [close_conventions store]
    exact held

end Queries

inductive ServerInput (Caches : Type) where
  | serves (call : ToolCall Caches)
  | restarts

def ServerInput.call? {Caches : Type} : ServerInput Caches → Option (ToolCall Caches)
  | .serves call => some call
  | .restarts => none

def ToolCall.WritesSucceed {Caches : Type} : ToolCall Caches → Prop
  | .queryJira _ _ env => ∀ path index, env.clarification.conventionsSet path index = none
  | .generateBriefing _ _ side =>
      ∀ topic path index, (side.handlerSide topic).clarification.conventionsSet path index = none
  | _ => True

def ServerInput.WritesSucceed {Caches : Type} : ServerInput Caches → Prop
  | .serves call => call.WritesSucceed
  | .restarts => True

section Server

variable {Caches : Type}
variable (transport : Transport) (orch : OrchestratorConfig) (settings : BriefingSettings)
variable (empty : Caches)

/-- `build_orchestrator` and `build_briefing_orchestrator` again: the conventions
come from their file, both session stores from the configured backend, and the
caches of the analyser and of Confluence are new. -/
def restarted (store : SessionBackend) (state : ServerState Caches) : ServerState Caches :=
  let conventions := openFile orch.tables state.world.handler.conventions.file
  match store with
  | .inMemory => { world := { handler := { conventions := conventions } }, caches := empty }
  | .valkey =>
      { world := { state.world with
          handler := { state.world.handler with conventions := conventions } }
        caches := empty }

def lifeStep (store : SessionBackend) (state : ServerState Caches) :
    ServerInput Caches → ServerState Caches × Option ToolResult
  | .serves call =>
      let (next, result) := serverStep transport orch store settings state call
      (next, some result)
  | .restarts => (restarted orch empty store state, none)

variable {orch} in
theorem copied_reopened
    (store : JsonFileConventionsStore)
    (copied : Copied orch.tables store) : openFile orch.tables store.file = store := by
  have items := copied.copy
  rcases store with ⟨held, file⟩
  cases file with
  | none =>
      cases items
      rfl
  | some conventions =>
      cases items
      rfl

theorem restarted_same_stores
    (state : ServerState Caches)
    (copied : Copied orch.tables state.world.handler.conventions) :
    (restarted orch empty .valkey state).world = state.world := by
  simp only [restarted, copied_reopened state.world.handler.conventions copied]

theorem server_step_copied
    (store : SessionBackend)
    (state : ServerState Caches)
    (call : ToolCall Caches)
    (writes : call.WritesSucceed)
    (copied : Copied orch.tables state.world.handler.conventions) :
    Copied orch.tables
      (serverStep transport orch store settings state call).1.world.handler.conventions := by
  cases call with
  | queryJira call host env =>
      exact query_step_copied orch store state.world.handler call
        (withElicit env (toolElicit transport host)) writes copied
  | generateBriefing call host side =>
      apply briefing_step_handler (orchestratorHandle orch store) settings state.world
        (eliciting call (toolElicit transport host)) (side.environment state.caches)
        (fun handler => Copied orch.tables handler.conventions)
      · intro handler topic answer index held
        exact query_step_copied orch store handler _
          (withElicit (side.handlerSide index) (toolElicit transport host)) (writes index) held
      · exact copied
  | expireSession sessionId => exact copied
  | expireBriefing sessionId => exact copied

theorem life_over_caches
    (state other : ServerState Caches)
    (same : state.world = other.world)
    (copied : Copied orch.tables state.world.handler.conventions)
    (inputs : List (ServerInput Caches))
    (writes : ∀ input ∈ inputs, input.WritesSucceed) :
    let life := run (lifeStep transport orch settings empty .valkey) state inputs
    let calls := run (serverStep transport orch .valkey settings) other
      (inputs.filterMap ServerInput.call?)
    life.1.world = calls.1.world ∧
      OutputsAlike (AnsweredAlike settings) (inputs.filterMap ServerInput.call?)
        (life.2.filterMap id) calls.2 := by
  induction inputs generalizing state other with
  | nil => exact ⟨same, OutputsAlike.none⟩
  | cons input rest ih =>
      rw [List.forall_mem_cons] at writes
      cases input with
      | serves call =>
          have stepped := step_over_caches transport orch .valkey settings call state other same
          have kept := server_step_copied transport orch settings .valkey state call writes.1 copied
          have later := ih _ _ stepped.2 kept writes.2
          exact ⟨later.1, OutputsAlike.more call _ _ _ _ _ stepped.1 later.2⟩
      | restarts =>
          have reopened := restarted_same_stores orch empty state copied
          have kept : Copied orch.tables
              (restarted orch empty .valkey state).world.handler.conventions := by
            rw [reopened]
            exact copied
          exact ih (restarted orch empty .valkey state) other (reopened.trans same) kept writes.2

end Server

def interruptedService : List (ServerInput Int) :=
  [.serves (.queryJira { query := "open", sessionId := "s" } none Orchestrator.sampleEnvironment),
    .restarts,
    .serves (.queryJira answerOpen none Orchestrator.sampleEnvironment),
    .restarts,
    .serves (.generateBriefing sampleBriefing none
      (countingSide (findingEnvironment [⟨"topic_1", "deadlines", "open"⟩] 1)))]

end AtlasMindNetra.ServerTools
