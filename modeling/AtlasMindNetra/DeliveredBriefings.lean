import AtlasMindNetra.BriefingArchive
import AtlasMindNetra.BriefingRuns

/-!
# A delivered briefing is fetched back unchanged

The sidecar of a briefing is written from the models of the response and read
into the models of another response. Its file is named by an id that is made
from client text and has to pass two filters.
-/

namespace AtlasMindNetra.BriefingArchive

open AtlasMindNetra.PythonValues AtlasMindNetra.ResponseModels AtlasMindNetra.JsonTrees
open AtlasMindNetra.BriefingOrchestrator AtlasMindNetra.EffectRules
open AtlasMindNetra.Orchestrator (QueryCall sessionSlug)
open AtlasMindNetra.ConfluenceResearch (containsText)

set_option autoImplicit false

/-- A scalar of the field's own type is taken as it is. -/
structure TakesOwnTypes (validation : ModelValidation) : Prop where
  str : ∀ text, validation.toStr (.str text) = some text
  int : ∀ number, validation.toInt (.int number) = some number
  bool : ∀ value, validation.toBool (.bool value) = some value
  score : ∀ number : Int, validation.toScore (.float number) = some number

section Models

variable (validation : ModelValidation) (takes : TakesOwnTypes validation)

include takes

theorem citation_read_back
    (citation : Citation) : validateCitation validation (dumpCitation citation) = some citation := by
  have commentId := read_optional_written citation.commentId validation.toStr takes.str
  simp [dumpCitation, validateCitation, requiredField, defaultField, field_cons,
    takes.str, commentId]

theorem reference_read_back
    (reference : ConfluenceReference) :
    validateReference validation (dumpReference reference) = some reference := by
  simp [dumpReference, validateReference, requiredField, defaultField, field_cons,
    takes.str]

theorem analysis_read_back
    (analysis : BlockerAnalysis) :
    validateAnalysis validation (dumpAnalysis analysis) = some analysis := by
  have priority := read_optional_written analysis.priority validation.toStr takes.str
  have dueDate := read_optional_written analysis.dueDate validation.toStr takes.str
  have dependents := read_list_written analysis.dependentIssues fun text _ => takes.str text
  have evidence := read_list_written analysis.evidence fun citation _ =>
    citation_read_back validation takes citation
  have references := read_list_written analysis.confluenceRefs fun reference _ =>
    reference_read_back validation takes reference
  simp [dumpAnalysis, validateAnalysis, requiredField, defaultField, field_cons,
    takes.str, takes.int, takes.bool, takes.score, priority, dueDate, dependents, evidence,
    references]

theorem section_read_back
    (topic : BriefingSection) : validateSection validation (dumpSection topic) = some topic := by
  have queryUsed := read_optional_written topic.queryUsed validation.toStr takes.str
  have jql := read_optional_written topic.jql validation.toStr takes.str
  have issues := read_list_written topic.topIssues fun analysis _ =>
    analysis_read_back validation takes analysis
  have errors := read_list_written topic.errors fun text _ => takes.str text
  simp [dumpSection, validateSection, requiredField, defaultField, field_cons,
    takes.str, takes.int, queryUsed, jql, issues, errors]

end Models

/-- `%Y%m%d_%H%M%S` -/
def IsReportStamp (stamp : String) : Prop :=
  stamp.toList.length = 15 ∧ ∀ char, char ∈ stamp.toList → char.isDigit = true ∨ char = '_'

/-- `uuid4().hex[:8]` -/
def IsReportNonce (nonce : String) : Prop :=
  nonce.toList.length = 8 ∧
    ∀ char, char ∈ nonce.toList → char.isDigit = true ∨ 'a' ≤ char ∧ char ≤ 'f'

theorem digit_in_report_id
    (char : Char)
    (digit : char.isDigit = true) : isReportIdChar char = true := by
  simp [isReportIdChar, Char.isAlphanum, digit]

theorem hex_in_report_id
    (char : Char)
    (low : 'a' ≤ char)
    (high : char ≤ 'f') : isReportIdChar char = true := by
  have isLower : char.isLower = (decide (97 ≤ char.val) && decide (char.val ≤ 122)) := rfl
  have isAlpha : char.isAlpha = (char.isUpper || char.isLower) := rfl
  have lower : char.isLower = true := by
    rw [Char.le_def, UInt32.le_iff_toNat_le] at low high
    rw [isLower]
    simp only [Bool.and_eq_true, decide_eq_true_eq, UInt32.le_iff_toNat_le]
    exact ⟨low, Nat.le_trans high (by decide)⟩
  simp [isReportIdChar, Char.isAlphanum, isAlpha, lower]

theorem slug_char
    (sessionId : String)
    (char : Char)
    (member : char ∈ (sessionSlug sessionId).toList) : isReportIdChar char = true := by
  unfold sessionSlug firstChars at member
  rw [String.toList_ofList, String.toList_ofList] at member
  rcases List.mem_map.mp (List.mem_of_mem_take member) with ⟨source, _, rfl⟩
  split_ifs with kept
  · exact kept
  · rfl

theorem slug_length (sessionId : String) : (sessionSlug sessionId).toList.length ≤ 40 := by
  unfold sessionSlug firstChars
  rw [String.toList_ofList, List.length_take]
  exact Nat.min_le_left _ _

section Ids

variable (env : PipelineSide) (sessionId : String)
variable (stamped : IsReportStamp env.reportStamp) (fresh : IsReportNonce env.reportNonce)

include stamped fresh

theorem report_id_char
    (char : Char)
    (member : char ∈ (makeReportId env sessionId).toList) : isReportIdChar char = true := by
  have line (text : Char) (inLine : text ∈ "_".toList) : isReportIdChar text = true := by
    rw [List.mem_singleton.mp (show text ∈ ['_'] from inLine)]
    rfl
  simp only [makeReportId, String.toList_append, List.mem_append] at member
  rcases member with ((((start | stamp) | first) | slug) | second) | nonce
  · have word : "briefing_".toList.all isReportIdChar = true := rfl
    exact List.all_eq_true.mp word char start
  · rcases stamped.2 char stamp with digit | underscore
    · exact digit_in_report_id char digit
    · exact underscore ▸ rfl
  · exact line char first
  · exact slug_char sessionId char slug
  · exact line char second
  · rcases fresh.2 char nonce with digit | ⟨low, high⟩
    · exact digit_in_report_id char digit
    · exact hex_in_report_id char low high

theorem report_id_length : (makeReportId env sessionId).toList.length ≤ 74 := by
  have slug := slug_length sessionId
  have start : "briefing_".toList.length = 9 := rfl
  have line : "_".toList.length = 1 := rfl
  have stamp := stamped.1
  have nonce := fresh.1
  simp only [makeReportId, String.toList_append, List.length_append]
  omega

end Ids

theorem contains_text_char
    (part whole : String)
    (contained : containsText part whole = true)
    (char : Char)
    (member : char ∈ part.toList) : char ∈ whole.toList := by
  unfold containsText at contained
  rw [List.any_eq_true] at contained
  rcases contained with ⟨rest, tail, starts⟩
  have within : rest <:+ whole.toList := (List.mem_tails _ _).mp tail
  exact within.subset ((List.isPrefixOf_iff_prefix.mp starts).subset member)

theorem contains_no_other
    (part whole : String)
    (plain : ∀ char, char ∈ whole.toList → isReportIdChar char = true)
    (char : Char)
    (member : char ∈ part.toList)
    (other : isReportIdChar char = false) : containsText part whole = false := by
  rw [← Bool.not_eq_true]
  intro contained
  have inClass := plain char (contains_text_char part whole contained char member)
  rw [other] at inClass
  cases inClass

theorem safe_report_id
    (reportId : String)
    (plain : ∀ char, char ∈ reportId.toList → isReportIdChar char = true)
    (some : 1 ≤ reportId.toList.length)
    (short : reportId.toList.length ≤ 128) : isSafeReportId reportId = true := by
  have notEmpty : reportId ≠ "" := by
    rintro rfl
    exact absurd some (by decide)
  have length : ¬ 128 < reportId.length := by
    rw [← String.length_toList]
    omega
  have slash := contains_no_other "/" reportId plain '/' (by decide) (by decide)
  have backslash := contains_no_other "\\" reportId plain '\\' (by decide) (by decide)
  have dots := contains_no_other ".." reportId plain '.' (by decide) (by decide)
  have ending : ¬ reportId.toList.getLast? = Option.some '\n' := by
    intro last
    have inClass := plain '\n' (List.mem_of_getLast? last)
    exact absurd inClass (by decide)
  have matched : matchesReportId reportId = true := by
    simp only [matchesReportId, if_neg ending, Bool.and_eq_true, decide_eq_true_eq,
      List.all_eq_true]
    exact ⟨⟨some, short⟩, plain⟩
  simp only [isSafeReportId, notEmpty, length, or_self, if_false, slash, backslash, dots,
    Bool.or_self, Bool.false_eq_true, matched]

theorem made_report_id_accepted
    (env : PipelineSide)
    (sessionId : String)
    (stamped : IsReportStamp env.reportStamp)
    (fresh : IsReportNonce env.reportNonce) :
    isSafeReportId (makeReportId env sessionId) = true ∧
      servesReportId (makeReportId env sessionId) = true := by
  have plain := report_id_char env sessionId stamped fresh
  have short := report_id_length env sessionId stamped fresh
  have shape : ∃ rest, (makeReportId env sessionId).toList = 'b' :: rest := by
    simp only [makeReportId, String.append_assoc, String.toList_append]
    exact ⟨_, rfl⟩
  rcases shape with ⟨rest, listed⟩
  constructor
  · apply safe_report_id _ plain
    · rw [listed]
      exact Nat.succ_pos _
    · omega
  · unfold servesReportId
    rw [listed] at plain short ⊢
    rw [List.length_cons] at short
    simp only [Bool.and_eq_true, decide_eq_true_eq, List.all_eq_true]
    apply And.intro ⟨rfl, by omega⟩
    intro char member
    exact plain char (List.mem_cons_of_mem _ member)

theorem sidecar_fetched
    (side : ArchiveSide)
    (takes : TakesOwnTypes side.validation)
    (settings : BriefingSettings)
    (files : ReportDirectory)
    (reportId : String)
    (sections : List BriefingSection)
    (safe : isSafeReportId reportId = true)
    (works : side.readFault = none)
    (stored : files.get? (sidecarName reportId) =
      some (.ok (side.library.dumps (reportDocument reportId sections))))
    (readsBack : side.library.loads (side.library.dumps (reportDocument reportId sections)) =
      .ok (reportDocument reportId sections)) :
    ∃ report, getBriefingReport side settings files reportId = .ok report ∧
      report.reportId = reportId ∧ report.sections = sections ∧ report.errors = [] := by
  have validated : (sections.map dumpSection).mapM (validateSection side.validation) =
      some sections := read_list_written sections fun topic _ =>
    section_read_back side.validation takes topic
  have read : readSections side (.ok (side.library.dumps (reportDocument reportId sections))) =
      .ok (.ok sections) := by
    simp only [readSections, works, readsBack]
    simp [sectionsOf, reportDocument, field_cons, Json.iterated, validated]
  unfold getBriefingReport
  simp only [safe, Bool.true_eq_false, if_false, stored, read]
  exact ⟨_, rfl, rfl, rfl, rfl⟩

/-- What `generate_briefing` reports of a sidecar that was not written. -/
def sidecarNotice (message : String) : String := "report JSON sidecar not written: " ++ message

theorem deliver_briefing_stores
    (settings : BriefingSettings)
    (env : PipelineSide)
    (reportId content : String)
    (sections : List BriefingSection)
    (path : Option String)
    (failures : List String)
    (delivered : deliverBriefing settings env reportId content sections = .ok (path, failures))
    (located : path ≠ none)
    (silent : ∀ message, sidecarNotice message ∉ failures) :
    env.storeBriefingJson reportId sections = .ok () := by
  unfold deliverBriefing at delivered
  split_ifs at delivered
  · cases channel : env.deliver reportId content with
    | ok location =>
        simp only [channel] at delivered
        cases written : env.storeBriefingJson reportId sections with
        | ok done => rfl
        | error error =>
            simp only [written] at delivered
            cases error with
            | os message =>
                simp only [Except.ok.injEq, Prod.mk.injEq] at delivered
                rw [← delivered.2] at silent
                exact absurd List.mem_cons_self (silent message)
            | _ => cases delivered
    | error error =>
        simp only [channel] at delivered
        split_ifs at delivered
        simp only [Except.ok.injEq, Prod.mk.injEq] at delivered
        exact absurd delivered.1.symm located
  · simp only [Except.ok.injEq, Prod.mk.injEq] at delivered
    exact absurd delivered.1.symm located

/-- A delivered briefing without a notice about its sidecar has stored the
sections that it returns, under the id that it returns. -/
theorem conclude_briefing_stores
    (settings : BriefingSettings)
    (env : PipelineSide)
    (call : BriefingCall)
    (pending : BriefingPendingState)
    (completed : OrderedDict String QueryResponse)
    (errors : List String)
    (response : BriefingResponse)
    (concluded : concludeBriefing settings env call pending completed errors = .ok response)
    (located : response.reportPath ≠ none)
    (silent : ∀ message, sidecarNotice message ∉ response.errors) :
    response.reportId = makeReportId env call.sessionId ∧
      env.storeBriefingJson response.reportId response.sections = .ok () := by
  obtain ⟨sections, added, content, path, failures, _, _, delivered, rfl⟩ :=
    conclude_briefing_ok_iff.mp concluded
  apply And.intro rfl
  apply deliver_briefing_stores settings env _ content sections path failures delivered located
  intro message member
  exact silent message (List.mem_append_right _ member)

section Calls

variable {Handler Env : Type}
variable (handle : Handler → QueryCall → Option ElicitFn → Env →
  Handler × Except PyError QueryResponse)
variable (settings : BriefingSettings) (env : BriefingEnvironment Env) (call : BriefingCall)

/-- A response with a report comes from the end of the pipeline. -/
theorem delivered_concludes
    (world : BriefingWorld Handler)
    (response : BriefingResponse)
    (returned : (briefingStep handle settings world call env).2.outcome = .ok response)
    (located : response.reportPath ≠ none) :
    ∃ pending completed errors,
      concludeBriefing settings env.pipeline call pending completed errors = .ok response := by
  have ending := briefing_step_end handle settings env call world
  generalize briefingStep handle settings world call env = stepped at ending returned
  rcases stepped with ⟨next, record⟩
  cases ending with
  | undecomposed message fresh failed =>
      cases returned
      exact absurd rfl located
  | decomposerRaised error fresh failed => cases returned
  | noTopics fresh decomposed =>
      cases returned
      exact absurd rfl located
  | asked pending question final works ended =>
      cases returned
      cases ended
      exact absurd rfl located
  | handlerRaised pending error final works ended => cases returned
  | concluded pending final works ended =>
      exact ⟨pending, final.completed, final.errors, returned⟩

/-- A briefing that was delivered without a notice about its sidecar has an id
that both filters accept, and its sections are fetched back from the directory
that the sidecar was written to, whatever happens to other files meanwhile. -/
theorem delivered_briefing_fetched
    (world : BriefingWorld Handler)
    (stamped : IsReportStamp env.pipeline.reportStamp)
    (fresh : IsReportNonce env.pipeline.reportNonce)
    (side : ArchiveSide)
    (takes : TakesOwnTypes side.validation)
    (readable : side.readFault = none)
    (fault : Option PyError)
    (before : ReportDirectory)
    (response : BriefingResponse)
    (returned : (briefingStep handle settings world call
      { env with pipeline := withSidecar side.library fault before env.pipeline }).2.outcome =
        .ok response)
    (located : response.reportPath ≠ none)
    (silent : ∀ message, sidecarNotice message ∉ response.errors)
    (readsBack :
      side.library.loads
          (side.library.dumps (reportDocument response.reportId response.sections)) =
        .ok (reportDocument response.reportId response.sections)) :
    isSafeReportId response.reportId = true ∧ servesReportId response.reportId = true ∧
      ∃ after, writeSidecar side.library fault before response.reportId response.sections =
          .ok after ∧
        ∀ files : ReportDirectory,
          files.get? (sidecarName response.reportId) =
              after.get? (sidecarName response.reportId) →
            ∃ report, getBriefingReport side settings files response.reportId = .ok report ∧
              report.reportId = response.reportId ∧ report.sections = response.sections ∧
              report.errors = [] := by
  rcases delivered_concludes handle settings _ call world response returned located with
    ⟨pending, completed, errors, concluded⟩
  have stores := conclude_briefing_stores settings _ call pending completed errors response
    concluded located silent
  have accepted := made_report_id_accepted
    (withSidecar side.library fault before env.pipeline) call.sessionId stamped fresh
  rw [← stores.1] at accepted
  apply And.intro accepted.1
  apply And.intro accepted.2
  cases written : writeSidecar side.library fault before response.reportId response.sections with
  | error error =>
      have failed := stores.2
      simp [withSidecar, written, Except.map] at failed
  | ok after =>
      apply Exists.intro after
      apply And.intro rfl
      intro files same
      have stored : after.get? (sidecarName response.reportId) =
          some (.ok (side.library.dumps
            (reportDocument response.reportId response.sections))) := by
        cases fault with
        | some error => cases written
        | none =>
            cases written
            exact OrderedDict.get?_set_self _ _ _
      exact sidecar_fetched side takes settings files _ _ accepted.1 readable (same.trans stored)
        readsBack

end Calls

def strictValidation : ModelValidation where
  toStr
    | .str text => some text
    | _ => none
  toInt
    | .int number => some number
    | _ => none
  toBool
    | .bool value => some value
    | _ => none
  toScore
    | .float number => some number.num
    | _ => none
  complaint _ := "validation error"

theorem strict_takes_own_types : TakesOwnTypes strictValidation where
  str _ := rfl
  int _ := rfl
  bool _ := rfl
  score number := congrArg some (Rat.num_intCast number)

def sampleReportId : String := "briefing_20260105_093000_s_0f3a9c12"

def sampleAnalysis : BlockerAnalysis where
  issueKey := "CAR-101"
  summary := "Brake test"
  blockedReason := "waits for \"CAR-7\""
  daysBlocked := 12
  owner := "Ann"
  priority := some "High"
  dependentIssues := ["CAR-7"]
  flagged := true
  suggestedResolution := "Ask the vendor"
  mitigation := "Use the old rig"
  riskNote := "Slips"
  evidence := [{ issueKey := "CAR-101", commentId := some "10" }]
  score := 31
  confluenceRefs :=
    [{ pageId := "100", pageTitle := "Brakes", cqlExcerpt := "CAR-101 waits",
       relevantPassage := "CAR-101 blocked" }]

def sampleSection (topic : AgendaTopic) (issues : List BlockerAnalysis) : BriefingSection where
  topicId := topic.topicId
  description := topic.description
  queryUsed := some topic.suggestedQuery
  topIssues := issues
  totalFound := 1

def sampleResponse : BriefingResponse where
  reportId := sampleReportId
  sessionId := "s"
  sections := [sampleSection firstTopic [sampleAnalysis], sampleSection secondTopic []]
  reportPath := some sampleReportId

@[irreducible] def sampleSidecar : String :=
  "\x7b\n  \"report_id\": \"briefing_20260105_093000_s_0f3a9c12\",\n  \"sections\": [\n" ++
  "    \x7b\n      \"topic_id\": \"topic_1\",\n      \"description\": \"blockers\",\n" ++
  "      \"query_used\": \"blocked issues\",\n      \"jql\": null,\n      \"top_issues\": [\n" ++
  "        \x7b\n          \"issue_key\": \"CAR-101\",\n" ++
  "          \"summary\": \"Brake test\",\n" ++
  "          \"blocked_reason\": \"waits for \\\"CAR-7\\\"\",\n" ++
  "          \"days_blocked\": 12,\n          \"owner\": \"Ann\",\n" ++
  "          \"priority\": \"High\",\n          \"dependent_issues\": [\n" ++
  "            \"CAR-7\"\n          ],\n          \"due_date\": null,\n" ++
  "          \"flagged\": true,\n          \"suggested_resolution\": \"Ask the vendor\",\n" ++
  "          \"mitigation\": \"Use the old rig\",\n          \"risk_note\": \"Slips\",\n" ++
  "          \"evidence\": [\n            \x7b\n              \"issue_key\": \"CAR-101\",\n" ++
  "              \"comment_id\": \"10\"\n            \x7d\n          ],\n" ++
  "          \"score\": 31.0,\n          \"confluence_refs\": [\n            \x7b\n" ++
  "              \"page_id\": \"100\",\n              \"page_title\": \"Brakes\",\n" ++
  "              \"cql_excerpt\": \"CAR-101 waits\",\n" ++
  "              \"relevant_passage\": \"CAR-101 blocked\"\n            \x7d\n          ]\n" ++
  "        \x7d\n      ],\n      \"total_found\": 1,\n      \"errors\": []\n    \x7d,\n" ++
  "    \x7b\n      \"topic_id\": \"topic_2\",\n      \"description\": \"deadlines\",\n" ++
  "      \"query_used\": \"late issues\",\n      \"jql\": null,\n      \"top_issues\": [],\n" ++
  "      \"total_found\": 1,\n      \"errors\": []\n    \x7d\n  ]\n\x7d"

def loadSample (text : String) : Except LoadError Json :=
  if text = sampleSidecar then .ok (reportDocument sampleReportId sampleResponse.sections)
  else .error (.decode "Expecting value: line 1 column 1 (char 0)")

theorem load_sample :
    loadSample sampleSidecar =
      .ok (reportDocument sampleReportId sampleResponse.sections) := by
  simp only [loadSample, if_true]

def sampleArchive : ArchiveSide where
  library := { dumps := fun _ => sampleSidecar, loads := loadSample }
  validation := strictValidation
  pathText name := "reports/" ++ name
  reprText text := "\x27" ++ text ++ "\x27"

def sampleScript (call : QueryCall) : Except PyError QueryResponse :=
  if call.sessionId = topicSessionId "s" "topic_1" then
    .ok { foundOne call with issues := [OrderedDict.set ∅ "key" (.str "CAR-101")] }
  else .ok (foundOne call)

def sampleEnvironment : BriefingEnvironment (QueryCall → Except PyError QueryResponse) :=
  { scriptedEnvironment sampleScript with
    pipeline :=
      { quietPipeline with
        analyse := fun _ => .ok [sampleAnalysis]
        reportStamp := "20260105_093000"
        reportNonce := "0f3a9c12" } }

theorem sample_briefing_fetched :
    isSafeReportId sampleReportId = true ∧ servesReportId sampleReportId = true ∧
      ∃ after, writeSidecar sampleArchive.library none ∅ sampleReportId sampleResponse.sections =
          .ok after ∧
        ∀ files : ReportDirectory,
          files.get? (sidecarName sampleReportId) = after.get? (sidecarName sampleReportId) →
            ∃ report, getBriefingReport sampleArchive {} files sampleReportId = .ok report ∧
              report.reportId = sampleReportId ∧ report.sections = sampleResponse.sections ∧
              report.errors = [] := by
  have stamped : IsReportStamp "20260105_093000" := by
    apply And.intro rfl
    simp
  have fresh : IsReportNonce "0f3a9c12" := by
    apply And.intro rfl
    simp
  have readsBack : sampleArchive.library.loads
      (sampleArchive.library.dumps (reportDocument sampleReportId sampleResponse.sections)) =
        .ok (reportDocument sampleReportId sampleResponse.sections) := load_sample
  have returned : (briefingStep scriptedHandle {} { handler := () } sampleBriefing
      { sampleEnvironment with
        pipeline := withSidecar sampleArchive.library none ∅ sampleEnvironment.pipeline }).2.outcome =
          .ok sampleResponse := by decide +kernel
  have located : sampleResponse.reportPath ≠ none := by decide
  have silent (message : String) : sidecarNotice message ∉ sampleResponse.errors :=
    List.not_mem_nil
  exact delivered_briefing_fetched scriptedHandle {} sampleEnvironment sampleBriefing
    { handler := () } stamped fresh sampleArchive strict_takes_own_types rfl none ∅ sampleResponse
    returned located silent readsBack

end AtlasMindNetra.BriefingArchive
