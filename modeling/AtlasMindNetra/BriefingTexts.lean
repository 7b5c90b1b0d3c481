import AtlasMindNetra.ConventionTexts
import AtlasMindNetra.DeliveredBriefings

/-!
# Stored briefings as texts

The sidecar of a briefing is a text that `json.dumps` writes and `json.loads`
reads. With the writer and the decoder in the place of the JSON library, a
delivered briefing is fetched back whatever its texts are made of, as long as
its numbers keep to the limits of the interpreter.
-/

namespace AtlasMindNetra.BriefingTexts

open AtlasMindNetra.PythonValues AtlasMindNetra.ResponseModels AtlasMindNetra.JsonTrees
open AtlasMindNetra.JsonTexts AtlasMindNetra.JsonWriting AtlasMindNetra.BriefingOrchestrator
open AtlasMindNetra.BriefingArchive AtlasMindNetra.EffectRules
open AtlasMindNetra.ConventionTexts (pythonJson)
open AtlasMindNetra.Orchestrator (QueryCall)

set_option autoImplicit false

structure ShortAnalysis (tables : Tables) (analysis : BlockerAnalysis) : Prop where
  days : ShortInt tables analysis.daysBlocked
  score : analysis.score.natAbs < 10000000000000000

structure ShortSection (tables : Tables) (topic : BriefingSection) : Prop where
  total : ShortInt tables topic.totalFound
  issues : ∀ analysis ∈ topic.topIssues, ShortAnalysis tables analysis

section Readable

variable {tables : Tables} {style : Style}

theorem citation_readable (citation : Citation) :
    Readable tables style 1 (dumpCitation citation) := by
  apply object_readable
  · simp
  · simp [Readable.str, optional_readable]

theorem reference_readable (reference : ConfluenceReference) :
    Readable tables style 1 (dumpReference reference) := by
  apply object_readable
  · simp
  · simp [Readable.str]

theorem analysis_readable
    (writes : WritesWhole tables style.floatText)
    (analysis : BlockerAnalysis)
    (short : ShortAnalysis tables analysis) :
    Readable tables style 3 (dumpAnalysis analysis) := by
  have evidence := array_readable 1 analysis.evidence dumpCitation fun citation _ =>
    (citation_readable citation : Readable tables style 1 (dumpCitation citation))
  have references := array_readable 1 analysis.confluenceRefs dumpReference fun reference _ =>
    (reference_readable reference : Readable tables style 1 (dumpReference reference))
  have score := whole_numeral tables style.floatText writes analysis.score short.score
  apply object_readable
  · simp
  · simp [Readable.str, Readable.bool, optional_readable, texts_readable, evidence, references,
      Readable.int _ _ short.days, Readable.float _ _ score]

theorem section_readable
    (writes : WritesWhole tables style.floatText)
    (topic : BriefingSection)
    (short : ShortSection tables topic) : Readable tables style 5 (dumpSection topic) := by
  have issues := array_readable 3 topic.topIssues dumpAnalysis fun analysis member =>
    analysis_readable writes analysis (short.issues analysis member)
  apply object_readable
  · simp
  · simp [Readable.str, optional_readable, texts_readable, issues,
      Readable.int _ _ short.total]

theorem report_readable
    (writes : WritesWhole tables style.floatText)
    (reportId : String)
    (sections : List BriefingSection)
    (short : ∀ topic ∈ sections, ShortSection tables topic) :
    Readable tables style 7 (reportDocument reportId sections) := by
  have topics := array_readable 5 sections dumpSection fun topic member =>
    section_readable writes topic (short topic member)
  apply object_readable
  · simp
  · simp [Readable.str, topics]

end Readable

section Calls

variable {Handler Env : Type}
variable (handle : Handler → QueryCall → Option ElicitFn → Env →
  Handler × Except PyError QueryResponse)
variable (settings : BriefingSettings) (env : BriefingEnvironment Env) (call : BriefingCall)

/-- The text that a briefing leaves in its sidecar is decoded to its sections:
when the briefing was delivered without a notice about the sidecar, the report is
fetched under its id for as long as nobody else writes this file. -/
theorem delivered_text_fetched
    (world : BriefingWorld Handler)
    (stamped : IsReportStamp env.pipeline.reportStamp)
    (fresh : IsReportNonce env.pipeline.reportNonce)
    (tables : Tables)
    (floatText : Rat → List Char)
    (writes : WritesWhole tables floatText)
    (nested : 7 ≤ tables.maxDepth)
    (side : ArchiveSide)
    (python : side.library = pythonJson tables floatText)
    (takes : TakesOwnTypes side.validation)
    (readable : side.readFault = none)
    (fault : Option PyError)
    (before : ReportDirectory)
    (response : BriefingResponse)
    (returned : (briefingStep handle settings world call
      { env with pipeline := withSidecar side.library fault before env.pipeline }).2.outcome =
        .ok response)
    (located : response.reportPath ≠ none)
    (silent : ∀ message, sidecarNotice message ∉ response.errors)
    (short : ∀ topic ∈ response.sections, ShortSection tables topic) :
    ∃ text, writeSidecar side.library fault before response.reportId response.sections =
        .ok (before.set (sidecarName response.reportId) (.ok text)) ∧
      ∀ files : ReportDirectory, files.get? (sidecarName response.reportId) = some (.ok text) →
        ∃ report, getBriefingReport side settings files response.reportId = .ok report ∧
          report.reportId = response.reportId ∧ report.sections = response.sections ∧
          report.errors = [] := by
  rcases delivered_concludes handle settings _ call world response returned located with
    ⟨pending, completed, errors, concluded⟩
  have stores := conclude_briefing_stores settings _ call pending completed errors response
    concluded located silent
  have accepted := made_report_id_accepted
    (withSidecar side.library fault before env.pipeline) call.sessionId stamped fresh
  rw [← stores.1] at accepted
  have readsBack := document_read_back tables (indented floatText) 7 _
    (report_readable writes response.reportId response.sections short) nested
  have decoded : side.library.loads
      (side.library.dumps (reportDocument response.reportId response.sections)) =
        .ok (reportDocument response.reportId response.sections) := by
    simp only [python, pythonJson]
    exact readsBack
  refine ⟨side.library.dumps (reportDocument response.reportId response.sections), ?_, ?_⟩
  · cases fault with
    | none => simp only [writeSidecar]
    | some error =>
        have failed := stores.2
        simp [withSidecar, writeSidecar, Except.map] at failed
  · intro files stored
    exact sidecar_fetched side takes settings files _ _ accepted.1 readable stored decoded

end Calls

def wholeTables : Tables :=
  { sampleTables with
    readFloat := fun text =>
      match readNumber sampleTables (text.take (text.length - 2)) with
      | .ok (.int number) => .float number
      | _ => .null }

def wholeText (value : Rat) : List Char := (toString value.num).toList ++ ['.', '0']

theorem whole_written : WritesWhole wholeTables wholeText := by
  intro number bound
  constructor
  · rw [wholeText, Rat.num_intCast]
  · have short : (Nat.toDigits 10 number.natAbs).length ≤ sampleTables.maxDigits := by
      have digits : (Nat.toDigits 10 number.natAbs).length ≤ 16 :=
        (Nat.length_toDigits_le_iff (by decide) (by decide)).mpr bound
      exact Nat.le_trans digits (by decide)
    have cut : ((toString number).toList ++ ['.', '0']).take
        (((toString number).toList ++ ['.', '0']).length - 2) = (toString number).toList := by
      rw [List.length_append]
      exact List.take_left
    have read := (int_numeral sampleTables number short).read
    simp only [wholeTables, cut, read]

def decodedArchive : ArchiveSide :=
  { sampleArchive with library := pythonJson wholeTables wholeText }

theorem sample_text_fetched :
    ∃ text, writeSidecar decodedArchive.library none ∅ sampleReportId sampleResponse.sections =
        .ok ((∅ : ReportDirectory).set (sidecarName sampleReportId) (.ok text)) ∧
      ∀ files : ReportDirectory, files.get? (sidecarName sampleReportId) = some (.ok text) →
        ∃ report, getBriefingReport decodedArchive {} files sampleReportId = .ok report ∧
          report.reportId = sampleReportId ∧ report.sections = sampleResponse.sections ∧
          report.errors = [] := by
  have stamped : IsReportStamp "20260105_093000" := by
    apply And.intro rfl
    simp
  have fresh : IsReportNonce "0f3a9c12" := by
    apply And.intro rfl
    simp
  have returned : (briefingStep scriptedHandle {} { handler := () } sampleBriefing
      { BriefingArchive.sampleEnvironment with
        pipeline := withSidecar decodedArchive.library none ∅
          BriefingArchive.sampleEnvironment.pipeline }).2.outcome = .ok sampleResponse := by
    decide +kernel
  have short : ∀ topic ∈ sampleResponse.sections, ShortSection wholeTables topic := by
    intro topic member
    have total : ShortInt wholeTables topic.totalFound := by
      have one : topic.totalFound = 1 := by
        simp only [sampleResponse, List.mem_cons, List.not_mem_nil, or_false] at member
        rcases member with rfl | rfl <;> rfl
      rw [one]
      change (Nat.toDigits 10 1).length ≤ 4300
      decide +kernel
    refine ⟨total, ?_⟩
    intro analysis shown
    have only : analysis = sampleAnalysis := by
      simp only [sampleResponse, List.mem_cons, List.not_mem_nil, or_false] at member
      rcases member with rfl | rfl
      · exact List.mem_singleton.mp shown
      · exact absurd shown List.not_mem_nil
    subst only
    constructor
    · change (Nat.toDigits 10 12).length ≤ 4300
      decide +kernel
    · decide
  exact delivered_text_fetched scriptedHandle {} BriefingArchive.sampleEnvironment sampleBriefing
    { handler := () } stamped fresh wholeTables wholeText whole_written (by decide) decodedArchive
    rfl strict_takes_own_types rfl none ∅ sampleResponse returned (by decide)
    (fun message => List.not_mem_nil) short

end AtlasMindNetra.BriefingTexts
