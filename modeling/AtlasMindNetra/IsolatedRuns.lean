import AtlasMindNetra.OrchestratorRuns
import AtlasMindNetra.SessionIsolation

/-!
# A session among others

In every run of overlapping queries, whichever of the two stores is used, a
session gets the answers that it would get alone, and what is stored for it is
what would be stored, as long as no call of another session learns anything.
-/

namespace AtlasMindNetra.QueryThreads

open AtlasMindNetra.PythonValues AtlasMindNetra.ResponseModels
open AtlasMindNetra.SessionStore AtlasMindNetra.ConventionsStore
open AtlasMindNetra.RunRules AtlasMindNetra.ThreadRules
open AtlasMindNetra.Orchestrator (OrchestratorConfig sampleOrchestrator sampleEnvironment answerOpen)

set_option autoImplicit false

section Runs

variable (orch : OrchestratorConfig) (store : SessionBackend)
variable (fieldsFile : Except PyError (List JiraField)) (sessionId : String)

def OthersLearnNothing : QueryState → QueryTurn → Prop :=
  Discreet Memory.conventions jobSession (fun job => handleQuery orch store fieldsFile job.1 job.2)
    Memory.expire sessionId

instance (state : QueryState) (turn : QueryTurn) :
    Decidable (OthersLearnNothing orch store fieldsFile sessionId state turn) :=
  inferInstanceAs (Decidable (Discreet _ _ _ _ _ _ _))

/-- What a step about the session tells: the outcome of a call that ends, and
the session as it is stored after the step. -/
def sessionTold : QueryState → QueryTurn →
    List (Option (Except PyError QueryResponse) × Option SessionState) :=
  told jobSession (fun job => handleQuery orch store fieldsFile job.1 job.2) Memory.expire sessionId
    fun memory => memory.stored sessionId

variable {fieldsFile sessionId}

theorem stored_of_view
    (memory other : Memory)
    (sound : SoundMemory fieldsFile memory)
    (same : sessionView sessionId memory = sessionView sessionId other) :
    memory.stored sessionId = other.stored sessionId := by
  unfold Memory.stored
  rw [← (view_fields memory other same).1]
  cases found : memory.entries.get? sessionId with
  | none => rfl
  | some stored =>
      cases stored with
      | copy session => rfl
      | object ref =>
          exact congrArg some (view_object memory other ref (sound.entries _ _ found) same)

variable (fieldsFile sessionId)

/-- The turns of the other sessions can be left out. -/
theorem sessions_do_not_interfere
    (memory : Memory)
    (sound : SoundMemory fieldsFile memory)
    (turns : List QueryTurn)
    (quiet : EveryStep (queryTurn orch store fieldsFile)
      (OthersLearnNothing orch store fieldsFile sessionId) { shared := memory } turns) :
    observed (queryTurn orch store fieldsFile) (sessionTold orch store fieldsFile sessionId)
        { shared := memory } turns =
      observed (queryTurn orch store fieldsFile) (sessionTold orch store fieldsFile sessionId)
        { shared := memory } (turns.filter fun turn => turn.about jobSession = sessionId) := by
  have separated : Separated (SoundMemory fieldsFile) sessionView Memory.conventions
      ({ shared := memory } : QueryState) := by
    constructor
    · exact sound
    · intro tag thread member
      cases member
  have calls : ∀ job : QueryJob, Isolated fieldsFile (jobSession job) (fun _ => True)
      (handleQuery orch store fieldsFile job.1 job.2) :=
    fun job => isolated_handle_query orch store job.1 job.2
  exact told_alone sessionId (fun memory => memory.stored sessionId) calls
    (fun _ => isolated_expire)
    (fun memory other sound _ same => stored_of_view memory other sound same) turns _ _ separated
    separated ⟨rfl, rfl⟩ quiet

end Runs

def twoSessions : List QueryTurn :=
  [.start ({ query := "open", sessionId := "s" }, sampleEnvironment),
    .start ({ query := "late", sessionId := "t" }, sampleEnvironment)] ++
  (List.replicate 14 [.resume "s" 0, .resume "t" 0]).flatten ++
  [.start (answerOpen, sampleEnvironment),
    .start ({ query := "late", sessionId := "t" }, sampleEnvironment)] ++
  (List.replicate 20 [.resume "t" 1, .resume "s" 1]).flatten

theorem sound_empty_memory : SoundMemory (.ok []) {} := by
  constructor
  · intro key stored found
    cases found
  · exact fun ref => rfl
  · intro fields found
    cases found

theorem two_sessions_apart :
    observed (queryTurn sampleOrchestrator .inMemory (.ok []))
        (sessionTold sampleOrchestrator .inMemory (.ok []) "s") { shared := {} } twoSessions =
      observed (queryTurn sampleOrchestrator .inMemory (.ok []))
        (sessionTold sampleOrchestrator .inMemory (.ok []) "s") { shared := {} }
        (twoSessions.filter fun turn => turn.about jobSession = "s") := by
  apply sessions_do_not_interfere sampleOrchestrator .inMemory (.ok []) "s" {} sound_empty_memory
  decide +kernel

end AtlasMindNetra.QueryThreads
