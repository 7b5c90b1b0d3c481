import AtlasMindNetra.BriefingRules
import AtlasMindNetra.RunRules

/-!
# Runs of the briefing

A run starts without pending briefings and with a handler in any state, and
takes calls and expiries in any order. Every stored state is filed under its
own session and points inside its agenda.
-/

namespace AtlasMindNetra.BriefingOrchestrator

open AtlasMindNetra.PythonValues AtlasMindNetra.ResponseModels AtlasMindNetra.EffectRules
open AtlasMindNetra.RunRules
open AtlasMindNetra.Orchestrator (QueryCall sessionSlug)

set_option autoImplicit false

inductive BriefingInput (Env : Type) where
  | call (call : BriefingCall) (env : BriefingEnvironment Env)
  | expire (sessionId : String)

section Runs

variable {Handler Env : Type}
variable (handle : Handler → QueryCall → Option ElicitFn → Env →
  Handler × Except PyError QueryResponse)
variable (settings : BriefingSettings)

def briefingWorldStep (world : BriefingWorld Handler) :
    BriefingInput Env → BriefingWorld Handler × Option BriefingRecord
  | .call call env =>
      let (next, record) := briefingStep handle settings world call env
      (next, some record)
  | .expire sessionId => ({ world with pendings := world.pendings.erase sessionId }, none)

def ReachableBriefing (world : BriefingWorld Handler) : Prop :=
  ∃ handler : Handler, Reachable (briefingWorldStep handle settings) (fun _ _ => True)
    { handler := handler } world

/-- The stored state of a session is its own and has a topic to ask about. -/
structure SoundPending (sessionId : String) (pending : BriefingPendingState) : Prop where
  own : pending.sessionId = sessionId
  inside : pending.currentTopicIdx < pending.topics.length

def SoundPendings (pendings : BriefingTable) : Prop :=
  ∀ sessionId pending, pendings.get? sessionId = some pending → SoundPending sessionId pending

theorem works_on_sound
    (env : BriefingEnvironment Env)
    (call : BriefingCall)
    (world : BriefingWorld Handler)
    (pending : BriefingPendingState)
    (sound : SoundPendings world.pendings)
    (works : WorksOn env call world pending) : SoundPending call.sessionId pending := by
  cases works with
  | stored _ found => exact sound call.sessionId pending found
  | opened topics fresh decomposed some =>
      exact ⟨rfl, List.length_pos_iff.mpr some⟩

theorem works_on_unique
    (env : BriefingEnvironment Env)
    (call : BriefingCall)
    (world : BriefingWorld Handler)
    (first second : BriefingPendingState)
    (left : WorksOn env call world first)
    (right : WorksOn env call world second) : first = second := by
  cases left with
  | stored _ found =>
      cases right with
      | stored _ again => exact Option.some.inj (found.symm.trans again)
      | opened _ fresh _ _ => exact absurd (found.symm.trans fresh) (by simp)
  | opened topics fresh decomposed _ =>
      cases right with
      | stored _ found => exact absurd (found.symm.trans fresh) (by simp)
      | opened others _ again _ =>
          have same : topics = others := Except.ok.inj (decomposed.symm.trans again)
          rw [same]

theorem sound_pendings_set
    (pendings : BriefingTable)
    (sessionId : String)
    (pending : BriefingPendingState)
    (sound : SoundPendings pendings)
    (fits : SoundPending sessionId pending) :
    SoundPendings (pendings.set sessionId pending) := by
  intro other found same
  rw [OrderedDict.get?_set] at same
  split_ifs at same with key
  · rw [key, ← Option.some.inj same]
    exact fits
  · exact sound other found same

theorem sound_pendings_erase
    (pendings : BriefingTable)
    (sessionId : String)
    (sound : SoundPendings pendings) : SoundPendings (pendings.erase sessionId) := by
  intro other found same
  rw [OrderedDict.get?_erase] at same
  split_ifs at same
  exact sound other found same

theorem next_query_inside
    (env : BriefingEnvironment Env)
    (call : BriefingCall)
    (pending : BriefingPendingState)
    (final : BriefingState Handler)
    (queries : List TopicQuery)
    (reached : Handler)
    (last : TopicQuery)
    (next : NextQuery handle settings env call pending pending.currentTopicIdx
      (pending.topics.drop pending.currentTopicIdx) final queries reached last) :
    pending.topics[last.index]? = some last.topic := by
  have found := next.next
  rw [List.getElem?_drop] at found
  rw [next.position]
  exact found

theorem briefing_step_sound
    (world : BriefingWorld Handler)
    (call : BriefingCall)
    (env : BriefingEnvironment Env)
    (sound : SoundPendings world.pendings) :
    SoundPendings (briefingStep handle settings world call env).1.pendings := by
  have ended := briefing_step_end handle settings env call world
  generalize (briefingStep handle settings world call env).1 = next at ended
  generalize (briefingStep handle settings world call env).2 = record at ended
  cases ended with
  | undecomposed _ _ _ => exact sound
  | decomposerRaised _ _ _ => exact sound
  | noTopics _ _ => exact sound
  | handlerRaised pending error final works ended =>
      cases ended with
      | raises _ queries reached last _ trace next failed queried kept =>
          change SoundPendings final.pendings
          rw [kept]
          exact sound
  | concluded pending final works ended =>
      cases ended with
      | finished _ queries trace all queried kept =>
          change SoundPendings (final.pendings.erase call.sessionId)
          rw [kept]
          exact sound_pendings_erase _ _ sound
  | asked pending question final works ended =>
      have fits := works_on_sound env call world pending sound works
      cases ended with
      | asks _ queries reached last result trace next answered asks queried stored =>
          change SoundPendings final.pendings
          rw [stored, fits.own]
          apply sound_pendings_set world.pendings call.sessionId _ sound
          have inside := next_query_inside handle settings env call pending final queries reached
            last next
          constructor
          · exact fits.own
          · exact (List.getElem?_eq_some_iff.mp inside).1

/-- What every query of the briefing preserves of the handler, the call preserves. -/
theorem briefing_step_handler
    (world : BriefingWorld Handler)
    (call : BriefingCall)
    (env : BriefingEnvironment Env)
    (holds : Handler → Prop)
    (kept : ∀ state topic answer index, holds state →
      holds (handle state (topicCall settings call topic answer) call.elicit
        (env.handlerSide index)).1)
    (start : holds world.handler) :
    holds (briefingStep handle settings world call env).1.handler := by
  have threaded (pending : BriefingPendingState) (queries : List TopicQuery)
      (first last : Handler) (threads : Threads handle env call first queries last)
      (forwards : ∀ query ∈ queries, query.call =
        topicCall settings call query.topic (forwardedAnswer call pending query.index))
      (held : holds first) : holds last := by
    induction threads with
    | nil state => exact held
    | cons state next last query rest answered later ih =>
        apply ih (fun other member => forwards other (List.mem_cons_of_mem query member))
        have moved := kept state query.topic (forwardedAnswer call pending query.index) query.index
          held
        rw [← forwards query List.mem_cons_self, answered] at moved
        exact moved
  have stopped (pending : BriefingPendingState) (final : BriefingState Handler)
      (queries : List TopicQuery) (reached : Handler) (last : TopicQuery)
      (next : NextQuery handle settings env call pending pending.currentTopicIdx
        (pending.topics.drop pending.currentTopicIdx) final queries reached last)
      (held : holds reached) : holds final.handler := by
    have moved := kept reached last.topic (forwardedAnswer call pending last.index) last.index held
    rw [← next.forwards, next.answered] at moved
    exact moved
  have ended := briefing_step_end handle settings env call world
  generalize (briefingStep handle settings world call env).1 = next at ended ⊢
  generalize (briefingStep handle settings world call env).2 = record at ended
  cases ended with
  | undecomposed _ _ _ => exact start
  | decomposerRaised _ _ _ => exact start
  | noTopics _ _ => exact start
  | handlerRaised pending error final works ended =>
      cases ended with
      | raises _ queries reached last _ trace next failed queried kept =>
          apply stopped pending final queries reached last next
          exact threaded pending queries _ _ trace.threads trace.forwards start
  | asked pending question final works ended =>
      cases ended with
      | asks _ queries reached last result trace next answered asks queried stored =>
          apply stopped pending final queries reached last next
          exact threaded pending queries _ _ trace.threads trace.forwards start
  | concluded pending final works ended =>
      cases ended with
      | finished _ queries trace all queried kept =>
          exact threaded pending queries _ _ trace.threads trace.forwards start

theorem briefing_step_other_pending
    (world : BriefingWorld Handler)
    (call : BriefingCall)
    (env : BriefingEnvironment Env)
    (sound : SoundPendings world.pendings)
    (other : String)
    (apart : other ≠ call.sessionId) :
    (briefingStep handle settings world call env).1.pendings.get? other =
      world.pendings.get? other := by
  have ended := briefing_step_end handle settings env call world
  generalize (briefingStep handle settings world call env).1 = next at ended ⊢
  generalize (briefingStep handle settings world call env).2 = record at ended
  cases ended with
  | undecomposed _ _ _ => rfl
  | decomposerRaised _ _ _ => rfl
  | noTopics _ _ => rfl
  | handlerRaised pending error final works ended =>
      cases ended with
      | raises _ queries reached last _ trace next failed queried kept =>
          exact congrArg (fun table : BriefingTable => table.get? other) kept
  | concluded pending final works ended =>
      cases ended with
      | finished _ queries trace all queried kept =>
          change (final.pendings.erase call.sessionId).get? other = _
          rw [kept, OrderedDict.get?_erase, if_neg apart]
          rfl
  | asked pending question final works ended =>
      have own := (works_on_sound env call world pending sound works).own
      cases ended with
      | asks _ queries reached last result trace next answered asks queried stored =>
          change final.pendings.get? other = _
          rw [stored, own, OrderedDict.get?_set_other _ _ apart]
          rfl

theorem reachable_sound
    (world : BriefingWorld Handler)
    (reached : ReachableBriefing handle settings world) : SoundPendings world.pendings := by
  rcases reached with ⟨handler, reached⟩
  apply reachable_invariant (fun world => SoundPendings world.pendings) _ _ reached
  · intro world input sound _
    cases input with
    | call call env => exact briefing_step_sound handle settings world call env sound
    | expire sessionId => exact sound_pendings_erase _ _ sound
  · intro sessionId pending found
    simp at found

end Runs

def scriptedHandle (state : Unit) (call : QueryCall) (_ : Option ElicitFn)
    (script : QueryCall → Except PyError QueryResponse) :
    Unit × Except PyError QueryResponse :=
  (state, script call)

/-- A pipeline in which nothing is found and nothing goes wrong. -/
def quietPipeline : PipelineSide where
  getIssueDetails _ _ := .ok {}
  analyse _ := .ok []
  rank analyses topN := .ok (analyses.take topN)
  buildBriefingReport _ _ _ := .ok ""
  deliver reportId _ := .ok reportId
  storeBriefingJson _ _ := .ok ()

def firstTopic : AgendaTopic where
  topicId := "topic_1"
  description := "blockers"
  suggestedQuery := "blocked issues"

def secondTopic : AgendaTopic where
  topicId := "topic_2"
  description := "deadlines"
  suggestedQuery := "late issues"

def scriptedEnvironment (script : QueryCall → Except PyError QueryResponse) :
    BriefingEnvironment (QueryCall → Except PyError QueryResponse) where
  decompose _ _ := .ok [firstTopic, secondTopic]
  handlerSide _ := script
  pipeline := quietPipeline

def foundOne (call : QueryCall) : QueryResponse where
  sessionId := call.sessionId
  total := 1

def sampleBriefing : BriefingCall where
  agendaText := "daily"
  sessionId := "s"

end AtlasMindNetra.BriefingOrchestrator
