import AtlasMindNetra.BriefingTermination
import AtlasMindNetra.ConfluenceResearch
import AtlasMindNetra.FollowRules
import AtlasMindNetra.ReportSynthesiser

/-!
# Best-effort delivery

The same call with two delivery channels. Where the one that works lets the
call return, the other one does so too, with a response that differs in what
it says about the report, provided that it raises nothing but `OSError` and
`NetraError`. The handlers name these two, so any other exception fails the
call. A briefing without a report has no sidecar either, and then says nothing
of a sidecar that could not have been written.
-/

namespace AtlasMindNetra.DeliveryEffort

open AtlasMindNetra.PythonValues AtlasMindNetra.ResponseModels AtlasMindNetra.EffectRules
open AtlasMindNetra.FollowRules AtlasMindNetra.SessionStore AtlasMindNetra.ConventionsStore
open AtlasMindNetra.Orchestrator AtlasMindNetra.BriefingOrchestrator
open AtlasMindNetra.ConfluenceResearch (ResearchSettings ResearchSide briefingResearch)

set_option autoImplicit false

/-- `deliver` of a channel, given the report id and the content. -/
abbrev DeliveryChannel := String → String → Except PyError String

def Works (channel : DeliveryChannel) : Prop :=
  ∀ id content, ∃ location, channel id content = .ok location

/-- For the reports of queries and briefings the channel raises nothing but
`OSError` and `NetraError`. -/
def RaisesOnlyCaught (channel : DeliveryChannel) : Prop :=
  ∀ (backend : BackendSide) (sessionId content : String) (error : PyError),
    channel (reportId backend sessionId) content = .error error → error.isOsOrNetra = true

/-- What writing the sidecar of a report raises, if anything, by the report's id. -/
abbrev SidecarFaults := String → Option PyError

/-- Where the channel raises for the report of a briefing, the sidecar of this
report would not have met an `OSError`. -/
def LosesNoNotice (channel : DeliveryChannel) (sidecar : SidecarFaults) : Prop :=
  ∀ (env : PipelineSide) (sessionId content : String) (error : PyError) (message : String),
    channel (makeReportId env sessionId) content = .error error →
      sidecar (makeReportId env sessionId) ≠ some (.os message)

/-- The environment of a query whose report goes to `channel`. -/
def through (channel : DeliveryChannel) (env : QueryEnvironment) : QueryEnvironment :=
  { env with backend := { env.backend with deliver := channel } }

/-- The same response but for the report and added errors. -/
structure SameQuery (response other : QueryResponse) : Prop where
  fields : { other with
    reportPath := response.reportPath
    viewUrl := response.viewUrl
    errors := response.errors } = response
  errors : response.errors.Sublist other.errors

theorem same_query_refl (response : QueryResponse) : SameQuery response response :=
  ⟨rfl, List.Sublist.refl _⟩

section Query

variable (orch : OrchestratorConfig) (env : QueryEnvironment) (call : QueryCall)
variable (working channel : DeliveryChannel)
variable (works : Works working) (caught : RaisesOnlyCaught channel)

include works caught

theorem with_report_follows
    (query : String)
    (response : QueryResponse) :
    Follows Eq SameQuery (withReport orch (through working env).backend query response)
      (withReport orch (through channel env).backend query response) := by
  rintro start _ rfl written final returned
  unfold withReport at returned ⊢
  by_cases enabled : orch.settings.deliveryEnabled = true
  · rw [if_pos enabled] at returned ⊢
    -- Both runs build the report in the same way and hand it to their own channel.
    have handed (own : DeliveryChannel) :
        ((through own env).backend.buildQueryReport query response >>=
            (through own env).backend.deliver
              (reportId (through own env).backend response.sessionId)) =
          env.backend.buildQueryReport query response >>=
            own (reportId env.backend response.sessionId) := rfl
    simp only [handed] at returned ⊢
    cases built : env.backend.buildQueryReport query response with
    | error error =>
        simp only [built, bind, Except.bind] at returned ⊢
        by_cases handled : error.isOsOrNetra = true
        · rw [if_pos handled] at returned ⊢
          cases returned
          exact ⟨_, _, rfl, rfl, same_query_refl _⟩
        · rw [if_neg handled] at returned
          cases returned
    | ok content =>
        rcases works (reportId env.backend response.sessionId) content with ⟨location, located⟩
        simp only [built, bind, Except.bind, located] at returned ⊢
        cases returned
        cases sent : channel (reportId env.backend response.sessionId) content with
        | ok other => exact ⟨_, _, rfl, rfl, rfl, List.Sublist.refl _⟩
        | error error =>
            simp only [if_pos (caught env.backend _ _ error sent)]
            exact ⟨_, _, rfl, rfl, rfl, List.sublist_append_left _ _⟩
  · rw [if_neg enabled] at returned ⊢
    cases returned
    exact ⟨_, _, rfl, rfl, same_query_refl _⟩

theorem respond_follows
    (query : String)
    (active : ActiveTerms)
    (errors : List String)
    (sessionId : String)
    (outcome : Except PyError LiteQueryResult) :
    Follows Eq SameQuery
      (respond orch (through working env).backend call query active errors sessionId outcome)
      (respond orch (through channel env).backend call query active errors sessionId outcome) := by
  have reports (response : QueryResponse) :=
    with_report_follows orch env working channel works caught query response
  cases outcome with
  | error error =>
      cases error with
      | liteBackend message => exact reports _
      | _ => exact follows_throw _ _
  | ok result =>
      unfold respond
      by_cases zero : result.total = 0
      · simp only [if_pos zero]
        exact reports _
      · simp only [if_neg zero]
        apply follows_bind (follows_same (showResult env.backend call.showInUi result.jql errors))
        rintro shown _ rfl
        exact reports _

theorem dispatch_follows
    (query : String)
    (active : ActiveTerms)
    (errors : List String) :
    Follows Eq SameQuery (dispatch orch (through working env).backend call query active errors)
      (dispatch orch (through channel env).backend call query active errors) := by
  unfold dispatch
  apply follows_bind (follows_same _)
  rintro _ _ rfl
  apply follows_bind (follows_same _)
  rintro _ _ rfl
  apply follows_bind (follows_same _)
  rintro _ _ rfl
  apply follows_bind (follows_same _)
  rintro _ _ rfl
  apply follows_bind (follows_same _)
  rintro st _ rfl
  exact respond_follows orch env call working channel works caught query active errors _ _

theorem clarify_follows
    (query : String)
    (active : ActiveTerms)
    (unresolved : List String) :
    Follows Eq SameQuery (clarify orch (through working env) call query active unresolved)
      (clarify orch (through channel env) call query active unresolved) := by
  unfold clarify
  apply follows_bind (follows_same (attemptQuestion orch env query unresolved))
  rintro attempt _ rfl
  cases attempt with
  | error message =>
      exact dispatch_follows orch env call working channel works caught query active _
  | ok needed =>
      apply follows_bind (follows_same _)
      rintro _ _ rfl
      apply follows_bind (follows_same (elicitAnswer env needed.question))
      rintro reply _ rfl
      cases reply with
      | none =>
          rintro start _ rfl value final returned
          exact ⟨value, final, returned, rfl, same_query_refl value⟩
      | some answer =>
          apply follows_bind (follows_same (resolveAndLearn orch env.clarification .elicitation
            query unresolved answer))
          rintro _ _ rfl
          apply follows_bind (follows_same _)
          rintro st _ rfl
          apply follows_bind (follows_same _)
          rintro _ _ rfl
          exact dispatch_follows orch env call working channel works caught query _ _

theorem detect_and_dispatch_follows
    (query : String) :
    Follows Eq SameQuery (detectAndDispatch orch (through working env) call query)
      (detectAndDispatch orch (through channel env) call query) := by
  unfold detectAndDispatch
  apply follows_bind (follows_same (splitResolved orch env.clarification
    (IntentClassifier.detect orch.tables orch.vocab query)))
  rintro ⟨active, unresolved⟩ _ rfl
  apply follows_bind (follows_same _)
  rintro st _ rfl
  split_ifs
  · exact dispatch_follows orch env call working channel works caught query active _
  · exact dispatch_follows orch env call working channel works caught query active _
  · exact clarify_follows orch env call working channel works caught query active unresolved

/-- With a channel that raises only what is caught, a call of `handle_query`
follows the call with a working channel. -/
theorem handle_query_follows :
    Follows Eq SameQuery (handleQuery orch (through working env) call)
      (handleQuery orch (through channel env) call) := by
  have detects := detect_and_dispatch_follows orch env call working channel works caught
  unfold handleQuery
  apply follows_bind (follows_same _)
  rintro _ _ rfl
  apply follows_bind (follows_same _)
  rintro st _ rfl
  split_ifs
  · cases truthyText call.clarificationAnswer with
    | some answer =>
        apply follows_bind (follows_same (resolveAndLearn orch env.clarification .roundTrip
          ((truthyText st.session.pendingQuery).getD call.query) st.session.pendingTerms answer))
        rintro _ _ rfl
        apply follows_bind (follows_same _)
        rintro _ _ rfl
        exact detects _
    | none =>
        cases repeatsQuestion call st.session with
        | some question =>
            rintro start _ rfl value final returned
            exact ⟨value, final, returned, rfl, same_query_refl value⟩
        | none =>
            apply follows_bind (follows_same _)
            rintro _ _ rfl
            exact detects _
  · exact detects _

theorem query_step_follows
    (store : SessionBackend)
    (world : World)
    (response : QueryResponse)
    (returned : (queryStep orch store world call (through working env)).2.outcome = .ok response) :
    (queryStep orch store world call (through channel env)).1 =
        (queryStep orch store world call (through working env)).1 ∧
      ∃ other, (queryStep orch store world call (through channel env)).2.outcome = .ok other ∧
        SameQuery response other := by
  unfold queryStep at returned ⊢
  cases ran : handleQuery orch (through working env) call
      (CallState.start world call.sessionId) with
  | error error final =>
      rw [ran] at returned
      cases returned
  | ok value final =>
      rw [ran] at returned
      cases returned
      rcases handle_query_follows orch env call working channel works caught _ _ rfl _ final ran with
        ⟨other, _, ran', rfl, same⟩
      rw [ran']
      exact ⟨rfl, other, rfl, same⟩

end Query

/-- What a briefing meets outside of delivery. The synthesiser makes a text of
every report, and the references come from the research. -/
structure BriefingOutside where
  decompose : String → List String → Except PyError (List AgendaTopic)
  querySide : Nat → QueryEnvironment
  research : Option (ResearchSettings × ResearchSide) := none
  getIssueDetails : List String → Int → Except PyError IssueDetailsResponse
  analyse : AnalyseRequest → Except PyError (List BlockerAnalysis)
  rank : List BlockerAnalysis → Nat → Except PyError (List BlockerAnalysis)
  buildReport : String → List BriefingSection → String → String :=
    ReportSynthesiser.buildBriefingReport ""
  reportStamp : String := ""
  reportNonce : String := ""

def BriefingOutside.pipeline (outside : BriefingOutside) (sidecar : SidecarFaults)
    (channel : DeliveryChannel) : PipelineSide where
  research := outside.research.map fun side => briefingResearch side.1 side.2
  getIssueDetails := outside.getIssueDetails
  analyse := outside.analyse
  rank := outside.rank
  buildBriefingReport agendaText sections sessionId :=
    .ok (outside.buildReport agendaText sections sessionId)
  deliver := channel
  storeBriefingJson reportId _ :=
    match sidecar reportId with
    | some error => .error error
    | none => .ok ()
  reportStamp := outside.reportStamp
  reportNonce := outside.reportNonce

/-- The topic queries deliver their reports through the same channel. -/
def BriefingOutside.environment (outside : BriefingOutside) (sidecar : SidecarFaults)
    (channel : DeliveryChannel) : BriefingEnvironment QueryEnvironment where
  decompose := outside.decompose
  handlerSide index := through channel (outside.querySide index)
  pipeline := outside.pipeline sidecar channel

structure SameSection (topic other : BriefingSection) : Prop where
  fields : { other with errors := topic.errors } = topic
  errors : topic.errors.Sublist other.errors

structure SameBriefing (response other : BriefingResponse) : Prop where
  fields : { other with
    sections := response.sections
    reportPath := response.reportPath
    viewUrl := response.viewUrl
    errors := response.errors } = response
  sections : List.Forall₂ SameSection response.sections other.sections
  errors : response.errors.Sublist other.errors

theorem same_section_refl (topic : BriefingSection) : SameSection topic topic :=
  ⟨rfl, List.Sublist.refl _⟩

theorem same_briefing_refl (response : BriefingResponse) : SameBriefing response response := by
  constructor
  · rfl
  · exact List.forall₂_same.mpr fun topic _ => same_section_refl topic
  · exact List.Sublist.refl _

structure SameSoFar (st st' : BriefingState World) : Prop where
  handler : st.handler = st'.handler
  completed : AlikeDicts SameQuery st.completed st'.completed
  errors : st.errors.Sublist st'.errors

theorem same_issue_keys
    (results others : List QueryResponse)
    (same : List.Forall₂ SameQuery results others) :
    (results.flatMap fun result => result.issues.filterMap issueKey) =
      others.flatMap fun result => result.issues.filterMap issueKey := by
  induction same with
  | nil => rfl
  | cons one rest ih =>
      rename_i result other results others
      have issues : result.issues = other.issues := by rw [← one.fields]
      rw [List.flatMap_cons, List.flatMap_cons, issues, ih]

section Completed

variable {completed completed' : OrderedDict String QueryResponse}
variable (alike : AlikeDicts SameQuery completed completed')

include alike

theorem alike_lookup_read
    {Read : Type}
    (read : QueryResponse → Read)
    (same : ∀ response other, SameQuery response other → read response = read other)
    (key : String) : (completed.get? key).map read = (completed'.get? key).map read := by
  rcases alike_get completed completed' alike key with ⟨left, right⟩ | ⟨left, right, hit, hit', one⟩
  · rw [left, right]
  · rw [hit, hit', Option.map_some, Option.map_some, same left right one]

theorem alike_topic_keys (topic : AgendaTopic) :
    topicKeys completed topic = topicKeys completed' topic := by
  have read := alike_lookup_read alike (fun response => response.issues.filterMap issueKey)
    (fun response other same => by rw [← same.fields]) topic.topicId
  unfold topicKeys
  cases left : completed.get? topic.topicId <;> cases right : completed'.get? topic.topicId <;>
    simp_all

theorem alike_keys_by_topic (topics : List AgendaTopic) :
    keysByTopic completed topics = keysByTopic completed' topics := by
  unfold keysByTopic
  simp only [alike_topic_keys alike]

theorem alike_distinct_keys (topics : List AgendaTopic) :
    distinctKeys completed topics = distinctKeys completed' topics := by
  unfold distinctKeys
  have keys : topicKeys completed = topicKeys completed' := by
    funext topic
    exact alike_topic_keys alike topic
  rw [keys]

theorem alike_summaries (topics : List AgendaTopic) :
    issueSummaries completed topics = issueSummaries completed' topics := by
  unfold issueSummaries
  congr 1
  funext summaries topic
  have read := alike_lookup_read alike (fun response => addSummaries summaries response.issues)
    (fun response other same => by rw [← same.fields]) topic.topicId
  cases left : completed.get? topic.topicId <;> cases right : completed'.get? topic.topicId <;>
    simp_all

theorem alike_jira_keys :
    (completed.values.flatMap fun result => result.issues.filterMap issueKey) =
      completed'.values.flatMap fun result => result.issues.filterMap issueKey :=
  same_issue_keys _ _ (alike_values completed completed' alike)

theorem alike_section_errors
    (cap : Nat)
    (key : String)
    (dropped : Option Nat) :
    (sectionErrors cap (completed.get? key) dropped).Sublist
      (sectionErrors cap (completed'.get? key) dropped) := by
  rcases alike_get completed completed' alike key with ⟨left, right⟩ | ⟨left, right, hit, hit', one⟩
  · rw [left, right]
  · rw [hit, hit']
    exact one.errors.append (List.Sublist.refl _)

end Completed

section Briefing

variable (orch : OrchestratorConfig) (store : SessionBackend) (settings : BriefingSettings)
variable (outside : BriefingOutside) (call : BriefingCall)
variable (sidecar : SidecarFaults) (working channel : DeliveryChannel)
variable (works : Works working) (caught : RaisesOnlyCaught channel)
variable (kept : LosesNoNotice channel sidecar)

include works caught

theorem query_topics_follows
    (pending : BriefingPendingState)
    (index : Nat)
    (topics : List AgendaTopic) :
    Follows SameSoFar Eq
      (queryTopics (orchestratorHandle orch store) settings (outside.environment sidecar working) call
        pending index topics)
      (queryTopics (orchestratorHandle orch store) settings (outside.environment sidecar channel) call
        pending index topics) := by
  induction topics generalizing index with
  | nil => exact follows_pure none none rfl
  | cons topic rest ih =>
      apply follows_iff_ensures.mpr
      intro start start' same
      apply (ensures_query_topics_cons (orchestratorHandle orch store) settings _ call pending index
        topic rest start _ _).mpr
      apply And.intro fun _ _ => trivial
      intro result answered
      have asked := query_step_follows orch (withElicit (outside.querySide index) call.elicit)
        (topicCall settings call topic (forwardedAnswer call pending index)) working channel works
        caught store start.handler result answered
      rcases asked with ⟨reached, other, answered', alike⟩
      have moved : (queryStep orch store start.handler
            (topicCall settings call topic (forwardedAnswer call pending index))
            (through working (withElicit (outside.querySide index) call.elicit))).1 =
          (queryStep orch store start'.handler
            (topicCall settings call topic (forwardedAnswer call pending index))
            (through channel (withElicit (outside.querySide index) call.elicit))).1 := by
        rw [← same.handler]
        exact reached.symm
      rw [same.handler] at answered'
      have asks : result.requiresUserInput = other.requiresUserInput := by
        rw [← alike.fields]
      have question : result.clarificationQuestion = other.clarificationQuestion := by
        rw [← alike.fields]
      have outcome' : (topicQuery (orchestratorHandle orch store) settings
          (outside.environment sidecar channel) call start' index topic
          (forwardedAnswer call pending index)).outcome = .ok other := answered'
      have returns' (error : PyError) : (topicQuery (orchestratorHandle orch store) settings
          (outside.environment sidecar channel) call start' index topic
          (forwardedAnswer call pending index)).outcome = .error error → False := by
        intro raised
        rw [outcome'] at raised
        cases raised
      -- The follower's loop, once its query is known to return `other`.
      have follower (returns : Option BriefingResponse → BriefingState World → Prop) :=
        ensures_query_topics_cons (orchestratorHandle orch store) settings
          (outside.environment sidecar channel) call pending index topic rest start' returns fun _ _ => False
      have completed := alike_set start.completed start'.completed same.completed topic.topicId
        result other alike
      constructor
      · intro asking
        apply (follower _).mpr
        apply And.intro returns'
        intro own ownAnswer
        obtain rfl : other = own := Except.ok.inj (outcome'.symm.trans ownAnswer)
        constructor
        · intro _
          exact ⟨⟨moved, same.completed, same.errors⟩, by rw [question]⟩
        · intro silent
          rw [← asks, asking] at silent
          cases silent
      · intro silent
        apply ensures_mono (follows_iff_ensures.mp (ih (index + 1)) _
          ((start'.asked (orchestratorHandle orch store) settings (outside.environment sidecar channel) call
            index topic (forwardedAnswer call pending index)).complete topic other) _)
        · intro value final continued
          apply (follower _).mpr
          apply And.intro returns'
          intro own ownAnswer
          obtain rfl : other = own := Except.ok.inj (outcome'.symm.trans ownAnswer)
          constructor
          · intro asking
            rw [← asks, silent] at asking
            cases asking
          · exact fun _ => continued
        · exact fun _ _ _ => trivial
        · constructor
          · exact moved
          · exact completed
          · exact same.errors.append (alike.errors.map _)

omit works in
theorem briefing_delivery_caught
    (env : PipelineSide)
    (sessionId content : String)
    (error : PyError)
    (raised : channel (makeReportId env sessionId) content = .error error) :
    error.isOsOrNetra = true := by
  let backend : BackendSide :=
    { query := fun _ _ => .error error
      reportStamp := "briefing_" ++ env.reportStamp
      reportNonce := env.reportNonce }
  apply caught backend sessionId content error
  rw [← raised]
  rfl

omit works caught in
theorem deliver_of_pipeline : (outside.pipeline sidecar channel).deliver = channel := rfl

omit works caught in
theorem store_of_pipeline
    (id : String)
    (sections : List BriefingSection) :
    (outside.pipeline sidecar channel).storeBriefingJson id sections =
      match sidecar id with
      | some error => .error error
      | none => .ok () := rfl

include kept in
theorem deliver_briefing_follows
    (sessionId content content' : String)
    (sections sections' : List BriefingSection)
    (path : Option String)
    (failures : List String)
    (delivered : deliverBriefing settings (outside.pipeline sidecar working)
      (makeReportId (outside.pipeline sidecar working) sessionId) content sections =
        .ok (path, failures)) :
    ∃ path' failures',
      deliverBriefing settings (outside.pipeline sidecar channel)
          (makeReportId (outside.pipeline sidecar channel) sessionId) content' sections' =
        .ok (path', failures') ∧ failures.Sublist failures' := by
  have ids : makeReportId (outside.pipeline sidecar channel) sessionId =
      makeReportId (outside.pipeline sidecar working) sessionId := rfl
  have noNotice := kept (outside.pipeline sidecar working) sessionId content'
  generalize makeReportId (outside.pipeline sidecar working) sessionId = id at delivered ids noNotice
  obtain ⟨location, located⟩ := works id content
  unfold deliverBriefing at delivered ⊢
  rw [ids]
  by_cases enabled : settings.deliveryEnabled = true
  · simp only [if_pos enabled, deliver_of_pipeline, located, store_of_pipeline] at delivered ⊢
    cases sent : channel id content' with
    | error error =>
        have handled := briefing_delivery_caught channel caught (outside.pipeline sidecar channel)
          sessionId content' error (by rw [ids]; exact sent)
        simp only [if_pos handled]
        refine ⟨_, _, rfl, ?_⟩
        cases fault : sidecar id with
        | none =>
            simp only [fault] at delivered
            cases delivered
            exact List.nil_sublist _
        | some failure =>
            simp only [fault] at delivered
            cases failure with
            | os message => exact absurd fault (noNotice error message sent)
            | _ => cases delivered
    | ok other =>
        cases fault : sidecar id with
        | none =>
            simp only [fault] at delivered ⊢
            cases delivered
            exact ⟨_, _, rfl, List.Sublist.refl _⟩
        | some failure =>
            simp only [fault] at delivered ⊢
            cases failure with
            | os message =>
                cases delivered
                exact ⟨_, _, rfl, List.Sublist.refl _⟩
            | _ => cases delivered
  · simp only [if_neg enabled] at delivered ⊢
    cases delivered
    exact ⟨none, [], rfl, List.Sublist.refl _⟩

omit works caught

theorem build_section_follows
    (completed completed' : OrderedDict String QueryResponse)
    (alike : AlikeDicts SameQuery completed completed')
    (table : OrderedDict String (List String))
    (dropped : OrderedDict String Nat)
    (analyses : OrderedDict String BlockerAnalysis)
    (topic : AgendaTopic)
    (briefed : BriefingSection)
    (built : buildSection settings (outside.pipeline sidecar working) completed table dropped analyses
      topic = .ok briefed) :
    ∃ other, buildSection settings (outside.pipeline sidecar channel) completed' table dropped analyses
        topic = .ok other ∧
      SameSection briefed other := by
  rw [buildSection, bind_eq_ok] at built
  rcases built with ⟨ranked, sorted, same⟩
  cases same
  have jql := alike_lookup_read alike QueryResponse.jql
    (fun response other same => by rw [← same.fields]) topic.topicId
  have total := alike_lookup_read alike QueryResponse.total
    (fun response other same => by rw [← same.fields]) topic.topicId
  have errors := alike_section_errors alike settings.maxAnalysedIssues topic.topicId
    (dropped.get? topic.topicId)
  apply Exists.intro
  constructor
  · rw [buildSection, bind_eq_ok]
    exact ⟨ranked, sorted, rfl⟩
  · constructor
    · have jqls : (completed'.get? topic.topicId).bind QueryResponse.jql =
          (completed.get? topic.topicId).bind QueryResponse.jql := by
        cases left : completed.get? topic.topicId <;>
          cases right : completed'.get? topic.topicId <;> simp_all
      simp only [jqls, total]
    · exact errors

theorem build_sections_follows
    (topics : List AgendaTopic)
    (completed completed' : OrderedDict String QueryResponse)
    (alike : AlikeDicts SameQuery completed completed')
    (refs : ConfluenceRefs)
    (forceRefresh : Bool)
    (sections : List BriefingSection)
    (added : List String)
    (built : buildSections settings (outside.pipeline sidecar working) topics completed refs
      forceRefresh = .ok (sections, added)) :
    ∃ sections', buildSections settings (outside.pipeline sidecar channel) topics completed' refs
        forceRefresh = .ok (sections', added) ∧
      List.Forall₂ SameSection sections sections' := by
  obtain ⟨details, analyses, fetched, analysed, looped, same⟩ := build_sections_ok_iff.mp built
  rcases mapM_follows (build_section_follows settings outside sidecar working channel completed completed'
    alike _ _ _) topics sections looped with ⟨sections', looped', alikeSections⟩
  apply Exists.intro sections'
  constructor
  · rw [build_sections_ok_iff, ← alike_keys_by_topic alike, ← alike_distinct_keys alike,
      ← alike_summaries alike]
    exact ⟨details, analyses, fetched, analysed, looped', same⟩
  · exact alikeSections

theorem confluence_refs_same
    (topics : List AgendaTopic)
    (completed completed' : OrderedDict String QueryResponse)
    (alike : AlikeDicts SameQuery completed completed')
    (forceRefresh : Bool) :
    confluenceRefs (outside.pipeline sidecar working) topics completed forceRefresh =
      confluenceRefs (outside.pipeline sidecar channel) topics completed' forceRefresh := by
  unfold confluenceRefs
  rw [alike_jira_keys alike]
  cases research : outside.research with
  | none => simp only [BriefingOutside.pipeline, research, Option.map_none]
  | some side =>
      simp only [BriefingOutside.pipeline, research, Option.map_some, briefingResearch]

include works caught kept

theorem conclude_briefing_follows
    (pending : BriefingPendingState)
    (completed completed' : OrderedDict String QueryResponse)
    (alike : AlikeDicts SameQuery completed completed')
    (errors errors' : List String)
    (fewer : errors.Sublist errors')
    (response : BriefingResponse)
    (concluded : concludeBriefing settings (outside.pipeline sidecar working) call pending completed
      errors = .ok response) :
    ∃ other, concludeBriefing settings (outside.pipeline sidecar channel) call pending completed'
        errors' = .ok other ∧
      SameBriefing response other := by
  obtain ⟨sections, added, content, path, failures, built, _, delivered, rfl⟩ :=
    conclude_briefing_ok_iff.mp concluded
  rw [confluence_refs_same outside sidecar working channel pending.topics completed completed'
    alike] at built
  rcases build_sections_follows settings outside sidecar working channel pending.topics completed completed'
    alike _ _ sections added built with ⟨sections', built', alikeSections⟩
  rcases deliver_briefing_follows settings outside sidecar working channel works caught kept
    call.sessionId content
    (outside.buildReport pending.agendaText sections'
      call.sessionId) sections sections' path failures delivered with
    ⟨path', failures', delivered', notices⟩
  have gathered : (errors ++ added).Sublist (errors' ++ added) :=
    fewer.append (List.Sublist.refl _)
  apply Exists.intro
  constructor
  · exact conclude_briefing_ok_iff.mpr
      ⟨sections', added, _, path', failures', built', rfl, delivered', rfl⟩
  · constructor
    · rfl
    · exact alikeSections
    · exact gathered.append notices

theorem continue_briefing_follows
    (pending : BriefingPendingState) :
    Follows SameSoFar (SameBriefing)
      (continueBriefing (orchestratorHandle orch store) settings
        (outside.environment sidecar working) call pending)
      (continueBriefing (orchestratorHandle orch store) settings
        (outside.environment sidecar channel) call pending) := by
  unfold continueBriefing
  apply follows_bind (follows_modify _ _ _)
  · rintro _ _ rfl
    apply follows_bind (query_topics_follows orch store settings outside call sidecar working channel works
      caught pending _ _)
    rintro question _ rfl
    cases question with
    | some question => exact follows_pure _ _ (same_briefing_refl _)
    | none =>
        apply follows_bind (follows_modify _ _ _)
        · rintro _ _ rfl
          apply follows_iff_ensures.mpr
          intro st st' same
          rw [ensures_bind, ensures_get, ensures_fromOutcome]
          apply And.intro _ fun _ _ => trivial
          intro response concluded
          rcases conclude_briefing_follows settings outside call sidecar working channel works caught
            kept pending st.completed st'.completed same.completed st.errors st'.errors same.errors
            response
            concluded with ⟨other, concluded', alike⟩
          rw [ensures_bind, ensures_get, ensures_fromOutcome]
          constructor
          · intro own ownConcluded
            obtain rfl := Except.ok.inj (concluded'.symm.trans ownConcluded)
            exact ⟨same, alike⟩
          · intro error raised
            cases concluded'.symm.trans raised
        · intro st st' same
          exact ⟨same.handler, same.completed, same.errors⟩
  · intro st st' same
    exact ⟨same.handler, alike_dicts_refl same_query_refl _, same.errors⟩

/-- With a channel that raises only what is caught, a call of
`generate_briefing` follows the call with a working channel. -/
theorem generate_briefing_follows
    (world : BriefingWorld World) :
    Ensures (generateBriefing (orchestratorHandle orch store) settings
        (outside.environment sidecar working) call) (BriefingState.start world)
      (fun response _ => Ensures (generateBriefing (orchestratorHandle orch store) settings
          (outside.environment sidecar channel) call) (BriefingState.start world)
        (fun other _ => SameBriefing response other) (fun _ _ => False))
      (fun _ _ => True) := by
  have continues (pending : BriefingPendingState) := ensures_mono
    (follows_iff_ensures.mp (continue_briefing_follows orch store settings outside call sidecar working
      channel works caught kept pending)
      (BriefingState.start world) (BriefingState.start world)
      ⟨rfl, alike_dicts_refl same_query_refl _, List.Sublist.refl _⟩)
    (fun response _ follower => ensures_mono follower
      (fun other _ same => (And.right same : SameBriefing response other))
      (fun _ _ never => never))
    (fun _ _ _ => trivial)
  have decompose (own : DeliveryChannel) :
      (outside.environment sidecar own).decompose = outside.decompose := rfl
  unfold generateBriefing
  have pendings : (BriefingState.start world).pendings = world.pendings := rfl
  simp only [ensures_bind, ensures_get, decompose, pendings]
  cases world.pendings.get? call.sessionId with
  | some pending => exact continues pending
  | none =>
      cases outside.decompose call.agendaText call.projects with
      | ok topics =>
          cases topics with
          | nil => exact same_briefing_refl _
          | cons topic rest => exact continues _
      | error error =>
          cases error with
          | decomposition message => exact same_briefing_refl _
          | _ => exact trivial

theorem briefing_step_follows
    (world : BriefingWorld World)
    (response : BriefingResponse)
    (returned : (briefingStep (orchestratorHandle orch store) settings world call
      (outside.environment sidecar working)).2.outcome = .ok response) :
    ∃ other, (briefingStep (orchestratorHandle orch store) settings world call
        (outside.environment sidecar channel)).2.outcome = .ok other ∧
      SameBriefing response other := by
  have follows := generate_briefing_follows orch store settings outside call sidecar working channel works
    caught kept world
  unfold briefingStep at returned ⊢
  unfold Ensures at follows
  cases ran : generateBriefing (orchestratorHandle orch store) settings
      (outside.environment sidecar working) call (BriefingState.start world) with
  | error error final =>
      rw [ran] at returned
      cases returned
  | ok value final =>
      rw [ran] at returned follows
      cases returned
      cases ran' : generateBriefing (orchestratorHandle orch store) settings
          (outside.environment sidecar channel) call (BriefingState.start world) with
      | error error final' =>
          rw [ran'] at follows
          exact follows.elim
      | ok other final' =>
          rw [ran'] at follows
          exact ⟨other, rfl, follows⟩

end Briefing

/-- Where a call returns with a working channel, it returns with this one, and
the two responses are the same but for the report and added errors. Both calls
find the disk for the sidecar in the same condition. -/
structure BestEffort (channel : DeliveryChannel) (sidecar : SidecarFaults) : Prop where
  queries : ∀ (orch : OrchestratorConfig) (store : SessionBackend) (world : World)
    (call : QueryCall) (env : QueryEnvironment) (working : DeliveryChannel)
    (response : QueryResponse), Works working →
      (queryStep orch store world call (through working env)).2.outcome = .ok response →
        ∃ other, (queryStep orch store world call (through channel env)).2.outcome = .ok other ∧
          SameQuery response other
  briefings : ∀ (orch : OrchestratorConfig) (store : SessionBackend) (settings : BriefingSettings)
    (world : BriefingWorld World) (call : BriefingCall) (outside : BriefingOutside)
    (working : DeliveryChannel) (response : BriefingResponse), Works working →
      (briefingStep (orchestratorHandle orch store) settings world call
        (outside.environment sidecar working)).2.outcome = .ok response →
        ∃ other, (briefingStep (orchestratorHandle orch store) settings world call
            (outside.environment sidecar channel)).2.outcome = .ok other ∧
          SameBriefing response other

def plainOrchestrator : OrchestratorConfig where
  tables := asciiTables
  vocab := {}

def foundOne : LiteQueryResult where
  jql := some "project = A"
  total := 1
  shown := 1

/-- The query finds one issue, and its report is `content`. -/
def reporting (backend : BackendSide) (content : String) : QueryEnvironment where
  clarification := sampleEnvironment.clarification
  backend := { backend with
    query := fun _ _ => .ok foundOne
    buildQueryReport := fun _ _ => .ok content }

def reported (channel : DeliveryChannel) (backend : BackendSide) (content sessionId : String) :
    Except PyError QueryResponse :=
  let response := resultResponse sessionId ∅ [] false foundOne
  match channel (reportId backend sessionId) content with
  | .ok location => .ok { response with reportPath := some location }
  | .error error =>
      if error.isOsOrNetra then
        .ok { response with errors := ["report not written: " ++ error.text] }
      else .error error

theorem reporting_call
    (channel : DeliveryChannel)
    (backend : BackendSide)
    (content sessionId : String)
    (limit : Option Int) :
    (queryStep plainOrchestrator .valkey {}
      { query := "review", sessionId := sessionId, limit := limit }
      (through channel (reporting backend content))).2.outcome =
        reported channel backend content sessionId := by
  have called : ∃ st, handleQuery plainOrchestrator (through channel (reporting backend content))
      { query := "review", sessionId := sessionId, limit := limit } (CallState.start {} sessionId) =
        withReport plainOrchestrator (through channel (reporting backend content)).backend "review"
          (resultResponse sessionId ∅ [] false foundOne) st := ⟨_, rfl⟩
  have sends : (through channel (reporting backend content)).backend.buildQueryReport "review"
        (resultResponse sessionId ∅ [] false foundOne) >>=
      (through channel (reporting backend content)).backend.deliver
        (reportId (through channel (reporting backend content)).backend
          (resultResponse sessionId ∅ [] false foundOne).sessionId) =
      channel (reportId backend sessionId) content := rfl
  obtain ⟨st, same⟩ := called
  simp only [queryStep, same, withReport, sends, reported]
  cases channel (reportId backend sessionId) content with
  | ok location => rfl
  | error error => cases error <;> rfl

theorem one_topic_concludes
    {Handler Env : Type}
    (handle : Handler → QueryCall → Option ElicitFn → Env → Handler × Except PyError QueryResponse)
    (settings : BriefingSettings)
    (env : BriefingEnvironment Env)
    (call : BriefingCall)
    (world : BriefingWorld Handler)
    (topic : AgendaTopic)
    (result : QueryResponse)
    (fresh : world.pendings.get? call.sessionId = none)
    (decomposed : env.decompose call.agendaText call.projects = .ok [topic])
    (answered : (handle world.handler (topicCall settings call topic call.clarificationAnswer)
      call.elicit (env.handlerSide 0)).2 = .ok result)
    (silent : result.requiresUserInput = false) :
    (briefingStep handle settings world call env).2.outcome =
      concludeBriefing settings env.pipeline call
        { sessionId := call.sessionId, agendaText := call.agendaText, topics := [topic] }
        (OrderedDict.set ∅ topic.topicId result) (topicErrors topic result) := by
  apply (briefing_step_iff handle settings env call world fun _ record => record.outcome = _).mpr
  have pendings : (BriefingState.start world).pendings = world.pendings := rfl
  unfold generateBriefing
  simp only [ensures_bind, ensures_get, pendings, fresh, decomposed]
  unfold continueBriefing
  rw [ensures_bind, ensures_modify, ensures_bind]
  apply (ensures_query_topics_cons handle settings env call _ 0 topic [] _ _ _).mpr
  constructor
  · intro error raised
    cases raised.symm.trans answered
  · intro other returned
    obtain rfl : result = other := Except.ok.inj (answered.symm.trans returned)
    constructor
    · intro asks
      cases asks.symm.trans silent
    · intro _
      simp only [queryTopics, ensures_pure, ensures_bind, ensures_modify, ensures_get,
        ensures_fromOutcome]
      exact ⟨fun response concluded => concluded.symm, fun error raised => raised.symm⟩

def reviewTopic : AgendaTopic :=
  { topicId := "t1", description := "review", suggestedQuery := "review" }

def plainOutside : BriefingOutside where
  decompose _ _ := .ok [reviewTopic]
  querySide _ := reporting sampleEnvironment.backend ""
  getIssueDetails _ _ := .ok {}
  analyse _ := .ok []
  rank analyses _ := .ok analyses

def plainBriefing (sessionId : String) : BriefingCall where
  agendaText := "review"
  sessionId := sessionId

/-- One topic, and this report under the id of `env`. -/
def reportOutside (env : PipelineSide) (content : String) : BriefingOutside :=
  { plainOutside with
    buildReport := fun _ _ _ => content
    reportStamp := env.reportStamp
    reportNonce := env.reportNonce }

section Plain

variable (channel : DeliveryChannel) (sidecar : SidecarFaults)

/-- The topic's own report is written, or its failure noted; its section needs
nothing more. -/
theorem plain_topic_answered
    (env : PipelineSide)
    (sessionId content : String)
    (caught : RaisesOnlyCaught channel) :
    ∃ result sections, (orchestratorHandle plainOrchestrator .valkey {}
        (topicCall {} (plainBriefing sessionId) reviewTopic none) none
        (through channel (reporting sampleEnvironment.backend ""))).2 = .ok result ∧
      result.requiresUserInput = false ∧
      buildSections {} ((reportOutside env content).pipeline sidecar channel) [reviewTopic]
        (OrderedDict.set ∅ "t1" result) ∅ false = .ok (sections, []) := by
  have called : (orchestratorHandle plainOrchestrator .valkey {}
      (topicCall {} (plainBriefing sessionId) reviewTopic none) none
      (through channel (reporting sampleEnvironment.backend ""))).2 =
    reported channel sampleEnvironment.backend "" (topicSessionId sessionId "t1") :=
    reporting_call channel sampleEnvironment.backend "" (topicSessionId sessionId "t1")
      (some ({} : BriefingSettings).issuesPerTopic)
  rw [called]
  unfold reported
  cases sent : channel (reportId sampleEnvironment.backend (topicSessionId sessionId "t1")) "" with
  | ok location => exact ⟨_, _, rfl, rfl, rfl⟩
  | error error =>
      simp only [caught sampleEnvironment.backend _ _ error sent, if_true]
      exact ⟨_, _, rfl, rfl, rfl⟩

theorem plain_briefing_delivers
    (env : PipelineSide)
    (sessionId content : String)
    (caught : RaisesOnlyCaught channel) :
    ∃ result sections,
      (briefingStep (orchestratorHandle plainOrchestrator .valkey) {} { handler := {} }
        (plainBriefing sessionId)
        ((reportOutside env content).environment sidecar channel)).2.outcome =
      (deliverBriefing {} ((reportOutside env content).pipeline sidecar channel)
        (makeReportId env sessionId) content sections).map fun delivered =>
          { reportId := makeReportId env sessionId
            sessionId := sessionId
            sections := sections
            reportPath := delivered.1
            errors := topicErrors reviewTopic result ++ delivered.2 } := by
  obtain ⟨result, sections, answered, silent, built⟩ :=
    plain_topic_answered channel sidecar env sessionId content caught
  have concluded := one_topic_concludes (orchestratorHandle plainOrchestrator .valkey) {}
    ((reportOutside env content).environment sidecar channel) (plainBriefing sessionId)
    { handler := {} } reviewTopic result rfl rfl answered silent
  refine ⟨result, sections, concluded.trans ?_⟩
  change (buildSections {} ((reportOutside env content).pipeline sidecar channel) [reviewTopic]
    (OrderedDict.set ∅ "t1" result) ∅ false >>= _) = _
  rw [built]
  change (deliverBriefing {} ((reportOutside env content).pipeline sidecar channel)
    (makeReportId env sessionId) content sections >>= _) = _
  cases deliverBriefing {} ((reportOutside env content).pipeline sidecar channel)
      (makeReportId env sessionId) content sections with
  | error error => rfl
  | ok delivered =>
      cases delivered
      simp only [bind, Except.bind, pure, Except.pure, Except.map, List.append_nil]
      rfl

theorem sidecar_notice_other
    (topic : AgendaTopic)
    (result : QueryResponse)
    (message text : String) :
    "report JSON sidecar not written: " ++ message ∉
      topicErrors topic result ++ ["report not written: " ++ text] := by
  intro member
  cases List.mem_append.mp member with
  | inl noted =>
      obtain ⟨error, _, same⟩ := List.mem_map.mp noted
      have first := congrArg (fun text => text.toList.head?) same
      simp at first
  | inr failed =>
      have chars := congrArg (fun text => text.toList[7]?) (List.mem_singleton.mp failed)
      simp at chars

/-- A briefing whose channel raises where the sidecar would have met an `OSError`
loses the notice of it. -/
theorem lost_notice
    (env : PipelineSide)
    (sessionId content : String)
    (error : PyError)
    (message : String)
    (caught : RaisesOnlyCaught channel)
    (sent : channel (makeReportId env sessionId) content = .error error)
    (fault : sidecar (makeReportId env sessionId) = some (.os message)) :
    ¬ BestEffort channel sidecar := by
  intro effort
  obtain ⟨result, sections, returned⟩ := plain_briefing_delivers (fun id _ => .ok id) sidecar env
    sessionId content (fun _ _ _ _ raised => by cases raised)
  obtain ⟨other, others, failed⟩ := plain_briefing_delivers channel sidecar env sessionId content
    caught
  have noticed : deliverBriefing {} ((reportOutside env content).pipeline sidecar fun id _ => .ok id)
      (makeReportId env sessionId) content sections =
        .ok (some (makeReportId env sessionId), ["report JSON sidecar not written: " ++ message]) := by
    simp [deliverBriefing, BriefingOutside.pipeline, fault]
  have undelivered : deliverBriefing {} ((reportOutside env content).pipeline sidecar channel)
      (makeReportId env sessionId) content others =
        .ok (none, ["report not written: " ++ error.text]) := by
    have handled := briefing_delivery_caught channel caught env sessionId content error sent
    simp [deliverBriefing, BriefingOutside.pipeline, sent, handled]
  rw [noticed] at returned
  rw [undelivered] at failed
  obtain ⟨response, answered, same⟩ := effort.briefings plainOrchestrator .valkey {} { handler := {} }
    (plainBriefing sessionId) (reportOutside env content) (fun id _ => .ok id) _
    (fun id _ => ⟨id, rfl⟩) returned
  cases failed.symm.trans answered
  apply sidecar_notice_other reviewTopic other message error.text
  exact same.errors.subset (List.mem_append_right _ (List.mem_singleton_self _))

end Plain

def unencodable : PyError :=
  .other "'utf-8' codec can't encode character '\\ud800': surrogates not allowed"

/-- Writing as UTF-8 raises a `ValueError` for some texts. -/
def strictChannel : DeliveryChannel := fun _ _ => .error unencodable

def fileChannel : DeliveryChannel := fun id _ => .ok ("briefings/" ++ id ++ ".md")

end AtlasMindNetra.DeliveryEffort
