import AtlasMindNetra.AnalysisBatch
import AtlasMindNetra.ConfluenceReferences

/-!
# Attribution of references

From the search to the prompt a page stays with the issue it mentions: the
research files it under keys that its extraction names or whose lookup returned
it, and the analyser hands out references of a key for that key only, also when
they were cached with an analysis in an earlier call.
-/

namespace AtlasMindNetra.ConfluenceResearch

open AtlasMindNetra.PythonValues AtlasMindNetra.ResponseModels AtlasMindNetra.MergeRules
open AtlasMindNetra.CqlBuilder AtlasMindNetra.BriefingOrchestrator AtlasMindNetra.RunRules
open AtlasMindNetra.CacheRules AtlasMindNetra.IssueAnalyser

set_option autoImplicit false

section Research

variable (settings : ResearchSettings) (side : ResearchSide) (spaces : List String)
  (forceRefresh : Bool) (topics : List AgendaTopic)

/-- The reference shows a page of a topic whose extraction lists the key. -/
def Extracted (key : String) (ref : ConfluenceReference) : Prop :=
  ∃ (position index : Nat) (topic : AgendaTopic) (page : ConfluencePage)
    (extraction : ConfluencePipeline.ContextExtractionOutput),
    topics[position]? = some topic ∧
    (topicPages settings side spaces position topic)[index]? = some page ∧
    side.extract position index page forceRefresh = .ok extraction ∧
    key ∈ extraction.jiraKeysMentioned ∧ ref = pageReference page extraction key

theorem first_naming_extracted
    (started : AgendaTopic × Nat)
    (member : started ∈ topics.zipIdx)
    (key : String)
    (found : ConfluencePage × ConfluencePipeline.ContextExtractionOutput)
    (first : firstNaming settings side spaces forceRefresh started.2 started.1 key = some found) :
    Extracted settings side spaces forceRefresh topics key
      (pageReference found.1 found.2 key) := by
  rcases List.exists_of_findSome?_eq_some first with ⟨page, inPages, named⟩
  unfold naming at named
  cases outcome : side.extract started.2 page.2 page.1 forceRefresh with
  | error error =>
      rw [outcome] at named
      cases named
  | ok extraction =>
      rw [outcome] at named
      dsimp only at named
      split_ifs at named with listed
      cases named
      exact ⟨started.2, page.2, started.1, page.1, extraction,
        List.mk_mem_zipIdx_iff_getElem?.mp member, List.mk_mem_zipIdx_iff_getElem?.mp inPages,
        outcome, listed, rfl⟩

theorem research_attributed
    (allJiraKeys : List String)
    (given : Option (List String))
    (key : String)
    (refs : List ConfluenceReference)
    (ref : ConfluenceReference)
    (found : (runConfluenceResearch settings side topics allJiraKeys given forceRefresh).get? key =
      some refs)
    (member : ref ∈ refs) :
    Extracted settings side (resolvedSpaces settings given) forceRefresh topics key ref ∨
      Mentioned side (resolvedSpaces settings given)
        (topicRefs settings side (resolvedSpaces settings given) forceRefresh topics)
        allJiraKeys key ref := by
  have grows := research_grows settings side forceRefresh topics allJiraKeys given key
  rw [← list_at_of_get? found] at member
  rcases grows.members ref member with fromTopics | mentioned
  · rw [topic_refs_at] at fromTopics
    rcases List.mem_filterMap.mp fromTopics with ⟨started, inTopics, shown⟩
    rcases Option.map_eq_some_iff.mp shown with ⟨first, named, rfl⟩
    exact Or.inl (first_naming_extracted settings side _ forceRefresh topics started inTopics key
      first named)
  · exact Or.inr mentioned

theorem briefing_references_attributed
    (env : PipelineSide)
    (researching : env.research = some (briefingResearch settings side))
    (completed : OrderedDict String QueryResponse)
    (key : String)
    (refs : List ConfluenceReference)
    (ref : ConfluenceReference)
    (found : (confluenceRefs env topics completed forceRefresh).get? key = some refs)
    (member : ref ∈ refs) :
    Extracted settings side settings.defaultSpaces forceRefresh topics key ref ∨
      ∃ allJiraKeys, Mentioned side settings.defaultSpaces
        (topicRefs settings side settings.defaultSpaces forceRefresh topics) allJiraKeys key ref := by
  unfold confluenceRefs at found
  rw [researching] at found
  rcases research_attributed settings side forceRefresh topics _ none key refs ref found member with
    extracted | mentioned
  · exact Or.inl extracted
  · exact Or.inr ⟨_, mentioned⟩

end Research

def FiledUnder (inputs : List AnalyserInput) (key : String) (ref : ConfluenceReference) : Prop :=
  ∃ call other today, AnalyserInput.start call other today ∈ inputs ∧ ref ∈ refsFor call key

theorem filed_under_later
    (inputs more : List AnalyserInput)
    (key : String)
    (ref : ConfluenceReference)
    (filed : FiledUnder inputs key ref) : FiledUnder (inputs ++ more) key ref := by
  rcases filed with ⟨call, other, today, member, here⟩
  exact ⟨call, other, today, List.mem_append_left more member, here⟩

def WorkAttributed (inputs : List AnalyserInput) (work : KeyAnalysis) : Prop :=
  work.issue.key = work.key ∧ ∀ ref ∈ work.refs, FiledUnder inputs work.key ref

def ResultAttributed (inputs : List AnalyserInput) (key : String) (result : BlockerAnalysis) :
    Prop :=
  result.issueKey = key ∧ ∀ ref ∈ result.confluenceRefs, FiledUnder inputs key ref

structure StateAttributed (state : AnalyserState) (inputs : List AnalyserInput) : Prop where
  running : ∀ work ∈ state.running, WorkAttributed inputs work
  cache : Sound (fun key cached => ResultAttributed inputs key.1 cached) state.cache

def OutputAttributed (inputs : List AnalyserInput) : AnalyserOutput → Prop
  | .asked work prompt => prompt = promptFor work ∧ WorkAttributed inputs work
  | .served work result | .analysed work result | .failed work result =>
      ResultAttributed inputs work.key result
  | .missing result => result.confluenceRefs = []
  | .idle => True

section Analyser

variable (tables : AnalyserTables) (config : AnalyserConfig)

theorem work_attributed_later
    (inputs more : List AnalyserInput)
    (work : KeyAnalysis)
    (attributed : WorkAttributed inputs work) : WorkAttributed (inputs ++ more) work :=
  ⟨attributed.1, fun ref member =>
    filed_under_later inputs more work.key ref (attributed.2 ref member)⟩

theorem result_attributed_later
    (inputs more : List AnalyserInput)
    (key : String)
    (result : BlockerAnalysis)
    (attributed : ResultAttributed inputs key result) :
    ResultAttributed (inputs ++ more) key result :=
  ⟨attributed.1, fun ref member => filed_under_later inputs more key ref (attributed.2 ref member)⟩

theorem state_attributed_later
    (state : AnalyserState)
    (inputs more : List AnalyserInput)
    (attributed : StateAttributed state inputs) : StateAttributed state (inputs ++ more) where
  running := fun work member =>
    work_attributed_later inputs more work (attributed.running work member)
  cache := sound_weaken attributed.cache fun key cached =>
    result_attributed_later inputs more key.1 cached

theorem reattached_attributed
    (inputs : List AnalyserInput)
    (work : KeyAnalysis)
    (cached : BlockerAnalysis)
    (asked : WorkAttributed inputs work)
    (stored : ResultAttributed inputs work.key cached) :
    ResultAttributed inputs work.key (reattached work.refs cached) := by
  unfold reattached
  split_ifs
  · exact ⟨stored.1, asked.2⟩
  · exact stored

theorem analysed_attributed
    (inputs : List AnalyserInput)
    (agent : String → AgentReply)
    (work : KeyAnalysis)
    (result : BlockerAnalysis)
    (asked : WorkAttributed inputs work)
    (analysed : analyseOne tables config agent work = .ok result) :
    ResultAttributed inputs work.key result := by
  unfold analyseOne at analysed
  split at analysed <;> cases analysed
  exact asked

theorem start_attributed
    (state : AnalyserState)
    (inputs : List AnalyserInput)
    (call : AnalyseCall)
    (key : String)
    (today : Int)
    (attributed : StateAttributed state inputs) :
    StateAttributed (startKey state call key today).1
        (inputs ++ [.start call key today]) ∧
      OutputAttributed (inputs ++ [.start call key today])
        (startKey state call key today).2 := by
  have kept := state_attributed_later state inputs [.start call key today] attributed
  unfold startKey
  cases found : (issueMap call.issueDetails).get? key with
  | none => exact ⟨kept, rfl⟩
  | some issue =>
      have asked : WorkAttributed (inputs ++ [.start call key today])
          (workFor call key today issue) := by
        refine ⟨issue_map_key call.issueDetails key issue found, ?_⟩
        intro ref member
        exact ⟨call, key, today, List.mem_append_right inputs (List.mem_singleton_self _), member⟩
      dsimp only
      cases hit : cachedFor state call (workFor call key today issue) with
      | none =>
          refine ⟨⟨?_, kept.cache⟩, rfl, asked⟩
          intro work member
          rcases List.mem_append.mp member with old | new
          · exact kept.running work old
          · rw [List.mem_singleton.mp new]
            exact asked
      | some cached =>
          have stored := kept.cache _ cached (cached_for_some state call _ cached hit)
          exact ⟨kept, reattached_attributed _ _ cached asked stored⟩

theorem answer_attributed
    (state : AnalyserState)
    (inputs : List AnalyserInput)
    (position : Nat)
    (reply : AgentReply)
    (attributed : StateAttributed state inputs) :
    StateAttributed (answerKey tables config state position reply).1 inputs ∧
      OutputAttributed inputs (answerKey tables config state position reply).2 := by
  unfold answerKey
  cases here : state.running[position]? with
  | none => exact ⟨attributed, trivial⟩
  | some work =>
      have asked := attributed.running work (List.mem_of_getElem? here)
      have others : ∀ other ∈ state.running.eraseIdx position, WorkAttributed inputs other :=
        fun other member => attributed.running other (List.mem_of_mem_eraseIdx member)
      dsimp only
      cases outcome : analyseOne tables config (fun _ => reply) work with
      | error error =>
          refine ⟨⟨others, attributed.cache⟩, rfl, ?_⟩
          intro ref member
          cases member
      | ok result =>
          have filed := analysed_attributed tables config inputs _ work result asked outcome
          have cached := write_back_sound config state.cache (cacheKey work) result attributed.cache
            (fun _ => attributed.cache) (fun _ => filed) fun _ _ _ _ kept => kept
          exact ⟨⟨others, cached⟩, filed⟩

theorem step_attributed
    (state : AnalyserState)
    (inputs : List AnalyserInput)
    (input : AnalyserInput)
    (attributed : StateAttributed state inputs) :
    StateAttributed (analyserStep tables config state input).1 (inputs ++ [input]) ∧
      OutputAttributed (inputs ++ [input]) (analyserStep tables config state input).2 := by
  cases input with
  | start call key today => exact start_attributed state inputs call key today attributed
  | answer position reply =>
      exact answer_attributed tables config state _ position reply
        (state_attributed_later state inputs _ attributed)

theorem history_attributed (history : List AnalyserInput) :
    StateAttributed (run (analyserStep tables config) freshAnalyser history).1 history := by
  have initial : StateAttributed freshAnalyser [] :=
    ⟨(fun _ member => nomatch member), sound_empty _⟩
  exact run_input_invariant StateAttributed
    (fun state past input attributed =>
      (step_attributed tables config state past input attributed).1)
    freshAnalyser [] history initial

end Analyser

/-- Every reference of a research is attributed to a page that mentions the key,
and in every history of the analyser a key's prompt and analysis have only
references that some call so far filed under this key. -/
theorem references_attributed :
    (∀ (settings : ResearchSettings) (side : ResearchSide) (topics : List AgendaTopic)
      (allJiraKeys : List String) (given : Option (List String)) (forceRefresh : Bool)
      (key : String) (refs : List ConfluenceReference) (ref : ConfluenceReference),
      (runConfluenceResearch settings side topics allJiraKeys given forceRefresh).get? key =
        some refs → ref ∈ refs →
      Extracted settings side (resolvedSpaces settings given) forceRefresh topics key ref ∨
        Mentioned side (resolvedSpaces settings given)
          (topicRefs settings side (resolvedSpaces settings given) forceRefresh topics)
          allJiraKeys key ref) ∧
    ∀ (tables : AnalyserTables) (config : AnalyserConfig) (history : List AnalyserInput)
      (next : AnalyserInput),
      OutputAttributed (history ++ [next])
        (analyserStep tables config
          (run (analyserStep tables config) freshAnalyser history).1 next).2 := by
  constructor
  · intro settings side topics allJiraKeys given forceRefresh key refs ref found member
    exact research_attributed settings side forceRefresh topics allJiraKeys given key refs ref found
      member
  · intro tables config history next
    exact (step_attributed tables config _ history next
      (history_attributed tables config history)).2

end AtlasMindNetra.ConfluenceResearch
