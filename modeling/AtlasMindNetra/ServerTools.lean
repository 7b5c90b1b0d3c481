import AtlasMindNetra.BriefingTermination
import AtlasMindNetra.TwinRules

/-!
# The tools of the server

`query_jira` and `generate_briefing` as `server.py` offers them: over one
orchestrator with its stores, on a transport with or without elicitation, for
hosts that answer a question as they like. The briefings share the caches of the
issue analyser and of the Confluence side, whatever is in them. A host that gives
no text leaves the server where a transport without elicitation leaves it.
-/

namespace AtlasMindNetra.ServerTools

open AtlasMindNetra.PythonValues AtlasMindNetra.ResponseModels AtlasMindNetra.SessionStore
open AtlasMindNetra.IntentClassifier AtlasMindNetra.EffectRules AtlasMindNetra.RunRules
open AtlasMindNetra.TwinRules AtlasMindNetra.Orchestrator AtlasMindNetra.BriefingOrchestrator

set_option autoImplicit false

inductive Transport where
  | stdio
  | streamableHttp
  deriving DecidableEq

/-- What becomes of `ctx.elicit`: an exception, another action than `accept`, or
an answer, which is some text or no text. -/
inductive HostReply where
  | failed (message : String)
  | refused
  | accepted (data : Option String)

def makeElicit (host : String → HostReply) (question : String) : Except PyError (Option String) :=
  match host question with
  | .failed _ => .ok none
  | .refused => .ok none
  | .accepted data => .ok data

def toolElicit (transport : Transport) (host : Option (String → HostReply)) : Option ElicitFn :=
  if transport = .streamableHttp then none else host.map makeElicit

/-- The host accepts no question with a text. -/
def SilentHost (host : String → HostReply) : Prop :=
  ∀ question data, host question = .accepted data → truthyText data = none

theorem silent_elicit
    (host : String → HostReply)
    (silent : SilentHost host)
    (question : String) :
    ∃ reply, makeElicit host question = .ok reply ∧ truthyText reply = none := by
  unfold makeElicit
  cases answered : host question with
  | failed message => exact ⟨none, rfl, rfl⟩
  | refused => exact ⟨none, rfl, rfl⟩
  | accepted data => exact ⟨data, rfl, silent question data answered⟩

def SameStores (left right : CallState) : Prop :=
  ∃ events, left = { right with events := events }

theorem same_stores_refl (st : CallState) : SameStores st st := ⟨st.events, rfl⟩

section Queries

variable (orch : OrchestratorConfig) (env : QueryEnvironment) (elicit : ElicitFn)
variable (vain : ∀ question, ∃ reply, elicit question = .ok reply ∧ truthyText reply = none)
variable (call : QueryCall)

theorem transition_same_stores
    (newState : ClarificationState)
    (left right : CallState)
    (same : SameStores left right) :
    Fits Eq SameStores (transition newState left) (transition newState right) := by
  obtain ⟨events, rfl⟩ := same
  cases moved : right.session.transition newState with
  | error error =>
      have run (events : List OrchestratorEvent) :
          transition newState { right with events := events } =
            .error error (CallState.log { right with events := events }
              (.transition right.session.state newState)) := by
        simp only [transition, bind, EStateM.bind, run_get, emit, run_modify, fromOutcome, moved]
        rfl
      rw [run events, run right.events]
      exact Fits.raised error _ _ ⟨_, rfl⟩
  | ok session =>
      have run (events : List OrchestratorEvent) :
          transition newState { right with events := events } =
            .ok ⟨⟩ { right with
              session := session
              events := events ++ [.transition right.session.state newState] } := by
        simp only [transition, bind, EStateM.bind, run_get, emit, run_modify, fromOutcome, moved,
          editSession]
        rfl
      rw [run events, run right.events]
      exact Fits.returned _ _ _ _ rfl ⟨_, rfl⟩

theorem return_question_same_stores
    (query : String)
    (unresolved : List String)
    (question : String)
    (left right : CallState)
    (same : SameStores left right) :
    Fits Eq SameStores (returnQuestion call query unresolved question left)
      (returnQuestion call query unresolved question right) := by
  apply fits_bind _ _ _ _ left right
    (transition_same_stores .awaitingClarification left right same)
  · exact fun _ _ same => same
  · intro _ _ _ final other same
    obtain ⟨events, rfl⟩ := same
    exact Fits.returned _ _ _ _ rfl ⟨_, rfl⟩

theorem split_resolved_without_host
    (offered : Option ElicitFn)
    (terms : List String) :
    splitResolved orch (withElicit env offered).clarification terms =
      splitResolved orch env.clarification terms := by
  suffices partitioned : ∀ (active : ActiveTerms) (unresolved : List String),
      splitResolvedFrom orch (withElicit env offered).clarification active unresolved terms =
        splitResolvedFrom orch env.clarification active unresolved terms from partitioned ∅ []
  induction terms with
  | nil => exact fun _ _ => rfl
  | cons term rest ih =>
      intro active unresolved
      have lookup : getConvention orch (withElicit env offered).clarification term =
          getConvention orch env.clarification term := rfl
      simp only [splitResolvedFrom, ih, lookup]

theorem learn_items_without_host
    (offered : Option ElicitFn)
    (path : AnswerPath)
    (index : Nat)
    (items : List TermResolutionOutput) :
    learnItems orch (withElicit env offered).clarification path index items =
      learnItems orch env.clarification path index items := by
  induction items generalizing index with
  | nil => rfl
  | cons item rest ih =>
      simp only [learnItems, ih]
      rfl

theorem resolve_and_learn_without_host
    (offered : Option ElicitFn)
    (path : AnswerPath)
    (query : String)
    (terms : List String)
    (answer : String) :
    resolveAndLearn orch (withElicit env offered).clarification path query terms answer =
      resolveAndLearn orch env.clarification path query terms answer := by
  simp only [resolveAndLearn, learn_items_without_host]
  rfl

include vain

theorem clarify_in_vain
    (query : String)
    (active : ActiveTerms)
    (unresolved : List String) :
    Twins Eq SameStores
      (clarify orch (withElicit env (some elicit)) call query active unresolved)
      (clarify orch (withElicit env none) call query active unresolved) := by
  apply twins_bind same_stores_refl
  intro attempt
  cases attempt with
  | error message =>
      exact twins_refl (fun _ => rfl) same_stores_refl _
  | ok needed =>
      apply twins_bind same_stores_refl
      intro _ st
      obtain ⟨reply, answered, empty⟩ := vain needed.question
      have asked : elicitAnswer (withElicit env (some elicit)) needed.question st =
          .ok none (st.log (.elicited needed.question)) := by
        simp only [elicitAnswer, withElicit, bind, EStateM.bind, emit, run_modify, fromOutcome,
          answered, pure, EStateM.pure, empty]
        rfl
      have unasked : elicitAnswer (withElicit env none) needed.question st = .ok none st := rfl
      simp only [bind, EStateM.bind, asked, unasked]
      exact return_question_same_stores call query unresolved needed.question _ _ ⟨_, rfl⟩

theorem detect_and_dispatch_in_vain (query : String) :
    Twins Eq SameStores (detectAndDispatch orch (withElicit env (some elicit)) call query)
      (detectAndDispatch orch (withElicit env none) call query) := by
  unfold detectAndDispatch
  rw [split_resolved_without_host, split_resolved_without_host]
  apply twins_bind same_stores_refl
  intro found
  apply twins_bind same_stores_refl
  intro st
  apply twins_ite
  · exact fun _ => twins_refl (fun _ => rfl) same_stores_refl _
  · intro _
    apply twins_ite
    · exact fun _ => twins_refl (fun _ => rfl) same_stores_refl _
    · exact fun _ => clarify_in_vain orch env elicit vain call query found.1 found.2

theorem resume_with_answer_in_vain
    (session : SessionState)
    (answer : String) :
    Twins Eq SameStores (resumeWithAnswer orch (withElicit env (some elicit)) call session answer)
      (resumeWithAnswer orch (withElicit env none) call session answer) := by
  simp only [resumeWithAnswer, resolve_and_learn_without_host]
  apply twins_bind same_stores_refl
  intro _
  apply twins_bind same_stores_refl
  intro _
  exact detect_and_dispatch_in_vain orch env elicit vain call _

theorem handle_query_in_vain :
    Twins Eq SameStores (handleQuery orch (withElicit env (some elicit)) call)
      (handleQuery orch (withElicit env none) call) := by
  apply twins_bind same_stores_refl
  intro _
  apply twins_bind same_stores_refl
  intro st
  apply twins_ite
  · intro _
    cases truthyText call.clarificationAnswer with
    | some answer => exact resume_with_answer_in_vain orch env elicit vain call st.session answer
    | none =>
        cases repeatsQuestion call st.session with
        | some question => exact twins_refl (fun _ => rfl) same_stores_refl _
        | none =>
            apply twins_bind same_stores_refl
            intro _
            exact detect_and_dispatch_in_vain orch env elicit vain call call.query
  · exact fun _ => detect_and_dispatch_in_vain orch env elicit vain call call.query

theorem orchestrator_handle_in_vain
    (store : SessionBackend)
    (world : World) :
    orchestratorHandle orch store world call (some elicit) env =
      orchestratorHandle orch store world call none env := by
  have fits := handle_query_in_vain orch env elicit vain call (CallState.start world call.sessionId)
  unfold orchestratorHandle queryStep
  generalize handleQuery orch (withElicit env (some elicit)) call _ = left at fits
  generalize handleQuery orch (withElicit env none) call _ = right at fits
  cases fits with
  | returned value other final state same stores =>
      obtain ⟨events, rfl⟩ := stores
      rw [same]
      cases store <;> rfl
  | raised error final state stores =>
      obtain ⟨events, rfl⟩ := stores
      cases store <;> rfl

end Queries

section Briefings

variable {Handler Env : Type}
variable (handle : Handler → QueryCall → Option ElicitFn → Env →
  Handler × Except PyError QueryResponse)
variable (settings : BriefingSettings) (env : BriefingEnvironment Env) (call : BriefingCall)

def eliciting (call : BriefingCall) (elicit : Option ElicitFn) : BriefingCall :=
  { call with elicit := elicit }

theorem briefing_elicits_through_handler
    (first second : Option ElicitFn)
    (same : ∀ handler query side, handle handler query first side = handle handler query second side)
    (world : BriefingWorld Handler) :
    briefingStep handle settings world (eliciting call first) env =
      briefingStep handle settings world (eliciting call second) env := by
  have asks (index : Nat) (topic : AgendaTopic) (answer : Option String) :
      askHandler handle settings env (eliciting call first) index topic answer =
        askHandler handle settings env (eliciting call second) index topic answer := by
    unfold askHandler
    apply bind_congr
    intro st
    have asked : handle st.handler (topicCall settings (eliciting call first) topic answer)
        (eliciting call first).elicit (env.handlerSide index) =
          handle st.handler (topicCall settings (eliciting call second) topic answer)
            (eliciting call second).elicit (env.handlerSide index) := same _ _ _
    simp only [asked]
    rfl
  have queries (pending : BriefingPendingState) (index : Nat) (topics : List AgendaTopic) :
      queryTopics handle settings env (eliciting call first) pending index topics =
        queryTopics handle settings env (eliciting call second) pending index topics := by
    induction topics generalizing index with
    | nil => rfl
    | cons topic rest ih =>
        simp only [queryTopics, asks, ih]
        rfl
  have continues (pending : BriefingPendingState) :
      continueBriefing handle settings env (eliciting call first) pending =
        continueBriefing handle settings env (eliciting call second) pending := by
    simp only [continueBriefing, queries]
    rfl
  have generates : generateBriefing handle settings env (eliciting call first) =
      generateBriefing handle settings env (eliciting call second) := by
    simp only [generateBriefing, continues]
    rfl
  unfold briefingStep
  rw [generates]

def withPipeline (pipeline : PipelineSide) : BriefingEnvironment Env :=
  { env with pipeline := pipeline }

theorem query_topics_without_pipeline
    (pipeline : PipelineSide)
    (pending : BriefingPendingState)
    (index : Nat)
    (topics : List AgendaTopic) :
    queryTopics handle settings (withPipeline env pipeline) call pending index topics =
      queryTopics handle settings env call pending index topics := by
  induction topics generalizing index with
  | nil => rfl
  | cons topic rest ih =>
      simp only [queryTopics, ih]
      rfl

/-- How a briefing ends, as `briefingStep` has it. -/
def briefingEnd (result : EStateM.Result PyError (BriefingState Handler) BriefingResponse) :
    BriefingWorld Handler × BriefingRecord :=
  match result with
  | .ok response final => (final.close, { outcome := .ok response, queried := final.queried })
  | .error error final => (final.close, { outcome := .error error, queried := final.queried })

/-- The outcomes are the same, or conclusions from the same results. -/
def ConcludedAlike (settings : BriefingSettings) (call : BriefingCall)
    (pipeline other : PipelineSide) (left right : Except PyError BriefingResponse) : Prop :=
  left = right ∨ ∃ pending completed errors,
    left = concludeBriefing settings pipeline call pending completed errors ∧
      right = concludeBriefing settings other call pending completed errors

structure EndsAlike (pipeline other : PipelineSide) (left right : BriefingWorld Handler ×
    BriefingRecord) : Prop where
  world : left.1 = right.1
  outcome : ConcludedAlike settings call pipeline other left.2.outcome right.2.outcome

theorem concluded_alike
    (pipeline other : PipelineSide)
    (pending : BriefingPendingState)
    (final : BriefingState Handler) :
    EndsAlike settings call pipeline other
      (briefingEnd (fromOutcome (concludeBriefing settings pipeline call pending final.completed
        final.errors) final))
      (briefingEnd (fromOutcome (concludeBriefing settings other call pending final.completed
        final.errors) final)) := by
  have ends (outcome : Except PyError BriefingResponse) :
      briefingEnd (fromOutcome outcome final) =
        (final.close, { outcome := outcome, queried := final.queried }) := by
    cases outcome <;> rfl
  rw [ends, ends]
  exact ⟨rfl, .inr ⟨pending, final.completed, final.errors, rfl, rfl⟩⟩

theorem ends_alike_refl
    (pipeline other : PipelineSide)
    (ended : BriefingWorld Handler × BriefingRecord) :
    EndsAlike settings call pipeline other ended ended :=
  ⟨rfl, .inl rfl⟩

theorem continued_over_pipelines
    (pipeline : PipelineSide)
    (pending : BriefingPendingState)
    (start : BriefingState Handler) :
    EndsAlike settings call env.pipeline pipeline
      (briefingEnd (continueBriefing handle settings env call pending start))
      (briefingEnd (continueBriefing handle settings (withPipeline env pipeline) call pending
        start)) := by
  unfold continueBriefing
  simp only [query_topics_without_pipeline, bind, EStateM.bind, run_modify]
  cases queryTopics handle settings env call pending pending.currentTopicIdx
      (pending.topics.drop pending.currentTopicIdx)
      { start with completed := pending.completedResults } with
  | error error final => exact ends_alike_refl settings call _ _ _
  | ok question final =>
      cases question with
      | some response => exact ends_alike_refl settings call _ _ _
      | none =>
          exact concluded_alike settings call env.pipeline pipeline pending
            { final with pendings := final.pendings.erase call.sessionId }

/-- What the pipeline answers matters to nothing but the conclusion. -/
theorem briefing_over_pipelines
    (pipeline : PipelineSide)
    (world : BriefingWorld Handler) :
    EndsAlike settings call env.pipeline pipeline
      (briefingStep handle settings world call env)
      (briefingStep handle settings world call (withPipeline env pipeline)) := by
  have generated : EndsAlike settings call env.pipeline pipeline
      (briefingEnd (generateBriefing handle settings env call (BriefingState.start world)))
      (briefingEnd (generateBriefing handle settings (withPipeline env pipeline) call
        (BriefingState.start world))) := by
    unfold generateBriefing
    simp only [bind, EStateM.bind, run_get]
    cases (BriefingState.start world).pendings.get? call.sessionId with
    | some pending => exact continued_over_pipelines handle settings env call pipeline pending _
    | none =>
        have decomposed : (withPipeline env pipeline).decompose = env.decompose := rfl
        simp only [decomposed]
        cases env.decompose call.agendaText call.projects with
        | error failure =>
            cases failure <;> exact ends_alike_refl settings call _ _ _
        | ok agenda =>
            cases agenda with
            | nil => exact ends_alike_refl settings call _ _ _
            | cons topic rest =>
                exact continued_over_pipelines handle settings env call pipeline _ _
  exact generated

end Briefings

/-- What the collaborators do in one briefing. The analyser and the Confluence side
answer over the caches that they find, and leave something in them. -/
structure BriefingSide (Caches : Type) extends BriefingEnvironment QueryEnvironment where
  cachedResearch : Option (Caches → ResearchRequest → Except PyError ConfluenceRefs)
  cachedAnalyse : Caches → AnalyseRequest → Except PyError (List BlockerAnalysis)
  leaves : BriefingWorld World → Caches → Caches

namespace BriefingSide

variable {Caches : Type} (side : BriefingSide Caches) (caches : Caches)

def pipelineOver : PipelineSide :=
  { side.pipeline with
    research := side.cachedResearch.map fun answer => answer caches
    analyse := side.cachedAnalyse caches }

def environment : BriefingEnvironment QueryEnvironment :=
  { side.toBriefingEnvironment with pipeline := side.pipelineOver caches }

end BriefingSide

structure ServerState (Caches : Type) where
  world : BriefingWorld World
  caches : Caches

/-- A call of a tool, with the host it comes from if that host can be asked, and
what the collaborators do in it; or the end of a session. -/
inductive ToolCall (Caches : Type) where
  | queryJira (call : QueryCall) (host : Option (String → HostReply)) (env : QueryEnvironment)
  | generateBriefing (call : BriefingCall) (host : Option (String → HostReply))
      (side : BriefingSide Caches)
  | expireSession (sessionId : String)
  | expireBriefing (sessionId : String)

inductive ToolResult where
  | query (outcome : Except PyError QueryResponse)
  | briefing (outcome : Except PyError BriefingResponse)
  | nothing

section Server

variable {Caches : Type}
variable (transport : Transport) (orch : OrchestratorConfig) (store : SessionBackend)
variable (settings : BriefingSettings)

/-- One orchestrator answers `query_jira`, and the topics of `generate_briefing`. -/
def serverStep (state : ServerState Caches) : ToolCall Caches → ServerState Caches × ToolResult
  | .queryJira call host env =>
      let (next, outcome) :=
        orchestratorHandle orch store state.world.handler call (toolElicit transport host) env
      ({ state with world := { state.world with handler := next } }, .query outcome)
  | .generateBriefing call host side =>
      let (next, record) := briefingStep (orchestratorHandle orch store) settings state.world
        (eliciting call (toolElicit transport host)) (side.environment state.caches)
      ({ world := next, caches := side.leaves state.world state.caches }, .briefing record.outcome)
  | .expireSession sessionId =>
      ({ state with world := { state.world with handler := { state.world.handler with
          sessions := state.world.handler.sessions.erase sessionId } } }, .nothing)
  | .expireBriefing sessionId =>
      ({ state with world := { state.world with
          pendings := state.world.pendings.erase sessionId } }, .nothing)

/-- The call is answered alike: a briefing may be concluded from the same results
over other caches. -/
def AnsweredAlike : ToolCall Caches → ToolResult → ToolResult → Prop
  | .generateBriefing call _ side, .briefing outcome, .briefing other =>
      ∃ caches otherCaches, ConcludedAlike settings call (side.pipelineOver caches)
        (side.pipelineOver otherCaches) outcome other
  | _, result, other => result = other

/-- Two servers over the same stores answer a call alike, whatever their caches hold. -/
theorem step_over_caches
    (call : ToolCall Caches)
    (state other : ServerState Caches)
    (same : state.world = other.world) :
    AnsweredAlike settings call (serverStep transport orch store settings state call).2
        (serverStep transport orch store settings other call).2 ∧
      (serverStep transport orch store settings state call).1.world =
        (serverStep transport orch store settings other call).1.world := by
  obtain ⟨world, caches⟩ := state
  obtain rfl : world = other.world := same
  cases call with
  | queryJira call host env => exact ⟨rfl, rfl⟩
  | generateBriefing call host side =>
      have ends := briefing_over_pipelines (orchestratorHandle orch store) settings
        (side.environment caches) (eliciting call (toolElicit transport host))
        (side.pipelineOver other.caches) other.world
      exact ⟨⟨caches, other.caches, ends.outcome⟩, ends.world⟩
  | expireSession sessionId => exact ⟨rfl, rfl⟩
  | expireBriefing sessionId => exact ⟨rfl, rfl⟩

def ToolCall.Silent : ToolCall Caches → Prop
  | .queryJira _ host _ => ∀ replies, host = some replies → SilentHost replies
  | .generateBriefing _ host _ => ∀ replies, host = some replies → SilentHost replies
  | _ => True

variable {transport orch store settings}

theorem silent_handle
    (host : Option (String → HostReply))
    (silent : ∀ replies, host = some replies → SilentHost replies)
    (world : World)
    (call : QueryCall)
    (env : QueryEnvironment) :
    orchestratorHandle orch store world call (toolElicit transport host) env =
      orchestratorHandle orch store world call none env := by
  unfold toolElicit
  split_ifs
  · rfl
  · cases host with
    | none => rfl
    | some replies =>
        exact orchestrator_handle_in_vain orch env (makeElicit replies)
          (silent_elicit replies (silent replies rfl)) call store world

/-- As long as no host accepts a question with a text, every run of both tools
on either transport gives the same results and the same stores: a failed,
refused or empty elicitation is the round trip over the session. -/
theorem silent_hosts_round_trip
    (transport other : Transport)
    (state : ServerState Caches)
    (calls : List (ToolCall Caches))
    (silent : ∀ call ∈ calls, call.Silent) :
    run (serverStep transport orch store settings) state calls =
      run (serverStep other orch store settings) state calls := by
  induction calls generalizing state with
  | nil => rfl
  | cons call rest ih =>
      rw [List.forall_mem_cons] at silent
      have stepped : serverStep transport orch store settings state call =
          serverStep other orch store settings state call := by
        cases call with
        | queryJira asked host env =>
            simp only [serverStep, silent_handle host silent.1]
        | generateBriefing asked host side =>
            have briefed := briefing_elicits_through_handler (orchestratorHandle orch store)
              settings (side.environment state.caches) asked (toolElicit transport host)
              (toolElicit other host)
              (fun handler query env => (silent_handle host silent.1 handler query env).trans
                (silent_handle host silent.1 handler query env).symm) state.world
            simp only [serverStep, briefed]
        | expireSession sessionId => rfl
        | expireBriefing sessionId => rfl
      rw [run_cons, run_cons, stepped, ih _ silent.2]

end Server

/-- An analyser that counts the briefings, and shows the count. -/
def countingSide (env : BriefingEnvironment QueryEnvironment) : BriefingSide Int where
  toBriefingEnvironment := env
  cachedResearch := env.pipeline.research.map fun answer _ => answer
  cachedAnalyse := fun count request => (env.pipeline.analyse request).map fun analyses =>
    analyses.map fun analysis => { analysis with daysBlocked := count }
  leaves := fun _ count => count + 1

def emptyHandedHost (question : String) : HostReply :=
  if question = "open?" then .accepted (some "") else .refused

def vainCalls : List (ToolCall Int) :=
  [.queryJira { query := "open", sessionId := "s" } (some emptyHandedHost) sampleEnvironment,
    .generateBriefing sampleBriefing (some fun _ => .failed "unsupported")
      (countingSide (findingEnvironment [⟨"topic_1", "deadlines", "late"⟩] 1)),
    .expireSession "s"]

theorem sample_silent_run :
    run (serverStep .stdio sampleOrchestrator .inMemory {})
        { world := { handler := {} }, caches := (0 : Int) } vainCalls =
      run (serverStep .streamableHttp sampleOrchestrator .inMemory {})
        { world := { handler := {} }, caches := (0 : Int) } vainCalls := by
  apply silent_hosts_round_trip
  have refuses : SilentHost fun _ => .failed "unsupported" := by
    intro question data accepted
    cases accepted
  have empty : SilentHost emptyHandedHost := by
    intro question data accepted
    unfold emptyHandedHost at accepted
    split_ifs at accepted
    cases accepted
    rfl
  simp only [vainCalls, List.forall_mem_cons]
  refine ⟨?_, ?_, trivial, List.forall_mem_nil _⟩
  · intro replies offered
    cases offered
    exact empty
  · intro replies offered
    cases offered
    exact refuses

end AtlasMindNetra.ServerTools
