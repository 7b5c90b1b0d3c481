import AtlasMindNetra.BriefingRuns

/-!
# What a failing briefing call leaves behind

Results are stored when a topic asks a question, and the stored state is
deleted before the report is made. A call that raises therefore keeps the work
done so far only if it raised before any topic was completed in it.
-/

namespace AtlasMindNetra.BriefingOrchestrator

open AtlasMindNetra.PythonValues AtlasMindNetra.ResponseModels AtlasMindNetra.EffectRules
open AtlasMindNetra.RunRules
open AtlasMindNetra.Orchestrator (QueryCall sessionSlug)

set_option autoImplicit false

/-- Topic number `index` is stored as completed with `result`. -/
def StoredResult (pendings : BriefingTable) (sessionId : String) (index : Nat)
    (result : QueryResponse) : Prop :=
  ∃ pending topic, pendings.get? sessionId = some pending ∧ index < pending.currentTopicIdx ∧
    pending.topics[index]? = some topic ∧
    pending.completedResults.get? topic.topicId = some result

/-- Topic number `index` was completed before the call or in it. -/
def FinishedTopic (pendings : BriefingTable) (record : BriefingRecord) (sessionId : String)
    (index : Nat) (result : QueryResponse) : Prop :=
  StoredResult pendings sessionId index result ∨
    ∃ query ∈ record.queried, query.index = index ∧ query.completed? = some result

def KeepsFinished (before after : BriefingTable) (record : BriefingRecord)
    (sessionId : String) : Prop :=
  ∀ index result, FinishedTopic before record sessionId index result →
    StoredResult after sessionId index result

section Failures

variable {Handler Env : Type}
variable (handle : Handler → QueryCall → Option ElicitFn → Env →
  Handler × Except PyError QueryResponse)
variable (settings : BriefingSettings) (env : BriefingEnvironment Env) (call : BriefingCall)

/-- The decomposer raises, or the query handler raises on the first topic that
the call asks about. -/
inductive RaisesAtOnce (world : BriefingWorld Handler) : Prop
  | decomposer (error : PyError)
      (fresh : world.pendings.get? call.sessionId = none)
      (failed : env.decompose call.agendaText call.projects = .error error)
  | firstQuery (pending : BriefingPendingState) (topic : AgendaTopic) (error : PyError)
      (works : WorksOn env call world pending)
      (next : pending.topics[pending.currentTopicIdx]? = some topic)
      (failed : (handle world.handler
        (topicCall settings call topic (forwardedAnswer call pending pending.currentTopicIdx))
        call.elicit (env.handlerSide pending.currentTopicIdx)).2 = .error error)

theorem completed_not_at_once
    (world : BriefingWorld Handler)
    (pending : BriefingPendingState)
    (works : WorksOn env call world pending)
    (final : BriefingState Handler)
    (query : TopicQuery)
    (rest : List TopicQuery)
    (reached : Handler)
    (trace : LoopTrace handle settings env call pending pending.currentTopicIdx
      (pending.topics.drop pending.currentTopicIdx) (loopStart world pending) final
      (query :: rest) reached) :
    ¬RaisesAtOnce handle settings env call world := by
  rcases trace.complete query List.mem_cons_self with ⟨result, done⟩
  have position : query.index = pending.currentTopicIdx := by
    have same := trace.indices
    rw [List.map_cons, List.length_cons, List.range'_succ] at same
    exact (List.cons.inj same).1
  have head : pending.topics[pending.currentTopicIdx]? = some query.topic := by
    have same := congrArg List.head? trace.inOrder
    rw [List.map_cons, List.length_cons, List.head?_cons, List.head?_take, if_neg (by omega),
      List.head?_drop] at same
    exact same.symm
  intro atOnce
  cases atOnce with
  | decomposer error fresh failed =>
      cases works with
      | stored _ found => exact absurd (found.symm.trans fresh) (by simp)
      | opened topics _ decomposed _ => exact absurd (decomposed.symm.trans failed) (by simp)
  | firstQuery other topic error again next failed =>
      obtain rfl := works_on_unique env call world other pending again works
      obtain rfl : topic = query.topic := Option.some.inj (next.symm.trans head)
      have calls := trace.forwards query List.mem_cons_self
      rw [position] at calls
      cases trace.threads with
      | cons _ state _ _ _ answered later =>
          have outcome : query.outcome = .error error := by
            rw [calls, position] at answered
            exact (congrArg Prod.snd answered).symm.trans failed
          rw [TopicQuery.completed?, outcome] at done
          cases done

/-- A query completed in this call is not stored when the table is as before
or has lost the session. -/
theorem completed_not_kept
    (world : BriefingWorld Handler)
    (pending : BriefingPendingState)
    (works : WorksOn env call world pending)
    (final : BriefingState Handler)
    (query : TopicQuery)
    (rest more : List TopicQuery)
    (reached : Handler)
    (trace : LoopTrace handle settings env call pending pending.currentTopicIdx
      (pending.topics.drop pending.currentTopicIdx) (loopStart world pending) final
      (query :: rest) reached)
    (after : BriefingTable)
    (same : ∀ found, after.get? call.sessionId = some found →
      world.pendings.get? call.sessionId = some found)
    (outcome : Except PyError BriefingResponse) :
    ¬KeepsFinished world.pendings after ⟨outcome, query :: rest ++ more⟩ call.sessionId := by
  intro keeps
  rcases trace.complete query List.mem_cons_self with ⟨result, done⟩
  have position : query.index = pending.currentTopicIdx := by
    have indices := trace.indices
    rw [List.map_cons, List.length_cons, List.range'_succ] at indices
    exact (List.cons.inj indices).1
  have finished : FinishedTopic world.pendings ⟨outcome, query :: rest ++ more⟩ call.sessionId
      query.index result := by
    right
    exact ⟨query, List.mem_append_left _ List.mem_cons_self, rfl, done⟩
  rcases keeps query.index result finished with ⟨stored, topic, found, before, _⟩
  have unchanged : stored = pending :=
    works_on_unique env call world stored pending (.stored stored (same stored found)) works
  rw [unchanged, position] at before
  omega

theorem unchanged_keeps
    (pendings : BriefingTable)
    (sessionId : String)
    (record : BriefingRecord)
    (none : ∀ query ∈ record.queried, query.completed? = none) :
    KeepsFinished pendings pendings record sessionId := by
  intro index result finished
  rcases finished with stored | ⟨query, member, _, done⟩
  · exact stored
  · exact absurd ((none query member).symm.trans done) (by simp)

/-- A call that raises keeps the finished work exactly if it raised before it
completed a topic. -/
theorem failing_call_keeps_iff
    (world : BriefingWorld Handler)
    (reached : ReachableBriefing handle settings world)
    (error : PyError)
    (raised : (briefingStep handle settings world call env).2.outcome = .error error) :
    KeepsFinished world.pendings (briefingStep handle settings world call env).1.pendings
        (briefingStep handle settings world call env).2 call.sessionId ↔
      RaisesAtOnce handle settings env call world := by
  have sound := reachable_sound handle settings world reached
  have ended := briefing_step_end handle settings env call world
  generalize (briefingStep handle settings world call env).1 = next at ended raised ⊢
  generalize (briefingStep handle settings world call env).2 = record at ended raised ⊢
  cases ended with
  | undecomposed message fresh failed => cases raised
  | noTopics fresh decomposed => cases raised
  | asked pending question final works ended => cases raised
  | decomposerRaised other fresh failed =>
      apply iff_of_true
      · exact unchanged_keeps world.pendings call.sessionId _ (by simp)
      · exact .decomposer other fresh failed
  | handlerRaised pending other final works ended =>
      cases ended with
      | raises _ queries middle last _ trace next failed queried kept =>
          have listed : final.queried = queries ++ [last] := queried
          change KeepsFinished world.pendings final.pendings ⟨.error other, final.queried⟩
            call.sessionId ↔ _
          rw [listed, kept]
          cases queries with
          | nil =>
              apply iff_of_true
              · apply unchanged_keeps
                intro query member
                rw [List.mem_singleton.mp member, TopicQuery.completed?, failed]
              · have position : last.index = pending.currentTopicIdx := next.position
                have inside := next_query_inside handle settings env call pending final [] middle
                  last next
                rw [position] at inside
                apply RaisesAtOnce.firstQuery pending last.topic other works inside
                have answered := next.answered
                cases trace.threads
                rw [next.forwards, position] at answered
                exact (congrArg Prod.snd answered).trans failed
          | cons query rest =>
              apply iff_of_false
              · exact completed_not_kept handle settings env call world pending works final query
                  rest [last] middle trace world.pendings (fun _ found => found) _
              · exact completed_not_at_once handle settings env call world pending works final query
                  rest middle trace
  | concluded pending final works ended =>
      cases ended with
      | finished _ queries trace all queried kept =>
          have listed : final.queried = queries ++ [] := by
            rw [List.append_nil]
            exact queried
          have inside := (works_on_sound env call world pending sound works).inside
          change KeepsFinished world.pendings (final.pendings.erase call.sessionId)
            ⟨_, final.queried⟩ call.sessionId ↔ _
          rw [listed]
          cases queries with
          | nil =>
              rw [List.length_drop] at all
              simp only [List.length_nil] at all
              omega
          | cons query rest =>
              apply iff_of_false
              · apply completed_not_kept handle settings env call world pending works final query
                  rest [] final.handler trace
                intro found same
                simp at same
              · exact completed_not_at_once handle settings env call world pending works final query
                  rest final.handler trace

end Failures

def failingScript (call : QueryCall) : Except PyError QueryResponse :=
  if call.query = secondTopic.suggestedQuery then .error (.os "conventions store unavailable")
  else .ok (foundOne call)

theorem fresh_briefing_reachable :
    ReachableBriefing scriptedHandle {} { handler := () } :=
  ⟨(), [], trivial, rfl⟩

theorem failing_script_raises :
    (briefingStep scriptedHandle {} { handler := () } sampleBriefing
      (scriptedEnvironment failingScript)).2.outcome =
      .error (.os "conventions store unavailable") := rfl

theorem failing_script_keeps_iff :
    KeepsFinished ∅ (briefingStep scriptedHandle {} { handler := () } sampleBriefing
        (scriptedEnvironment failingScript)).1.pendings
      (briefingStep scriptedHandle {} { handler := () } sampleBriefing
        (scriptedEnvironment failingScript)).2 "s" ↔
      RaisesAtOnce scriptedHandle {} (scriptedEnvironment failingScript) sampleBriefing
        { handler := () } :=
  failing_call_keeps_iff scriptedHandle {} (scriptedEnvironment failingScript) sampleBriefing
    { handler := () } fresh_briefing_reachable _ failing_script_raises

/-- The first topic's result is gone when the second topic's query raises. -/
theorem first_topic_lost :
    ReachableBriefing scriptedHandle {} { handler := () } ∧
    (briefingStep scriptedHandle {} { handler := () } sampleBriefing
      (scriptedEnvironment failingScript)).2.outcome =
        .error (.os "conventions store unavailable") ∧
    ¬KeepsFinished ∅ (briefingStep scriptedHandle {} { handler := () } sampleBriefing
        (scriptedEnvironment failingScript)).1.pendings
      (briefingStep scriptedHandle {} { handler := () } sampleBriefing
        (scriptedEnvironment failingScript)).2 "s" := by
  refine ⟨fresh_briefing_reachable, failing_script_raises, ?_⟩
  intro keeps
  have finished : FinishedTopic ∅ (briefingStep scriptedHandle {} { handler := () }
      sampleBriefing (scriptedEnvironment failingScript)).2 "s" 0
      (foundOne (topicCall {} sampleBriefing firstTopic none)) :=
    Or.inr ⟨_, List.mem_cons_self, rfl, rfl⟩
  rcases keeps 0 _ finished with ⟨pending, topic, found, _⟩
  cases found

end AtlasMindNetra.BriefingOrchestrator
