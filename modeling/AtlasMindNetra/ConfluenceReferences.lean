import AtlasMindNetra.ConfluenceResearch

/-!
# References of a research

Where the references of an issue key come from: each topic contributes the
first of its pages whose extraction names the key, and a key that no topic
knows gets the pages that the lookup of this very key returned.
-/

namespace AtlasMindNetra.ConfluenceResearch

open AtlasMindNetra.PythonValues AtlasMindNetra.ResponseModels AtlasMindNetra.MergeRules
open AtlasMindNetra.CqlBuilder AtlasMindNetra.BriefingOrchestrator
open AtlasMindNetra.ConfluencePipeline (ContextExtractionOutput)

set_option autoImplicit false

def naming (extract : Nat → ConfluencePage → Bool → Except PyError ContextExtractionOutput)
    (forceRefresh : Bool) (key : String) (started : ConfluencePage × Nat) :
    Option (ConfluencePage × ContextExtractionOutput) :=
  match extract started.2 started.1 forceRefresh with
  | .ok extraction =>
      if key ∈ extraction.jiraKeysMentioned then some (started.1, extraction) else none
  | .error _ => none

section Topics

variable (settings : ResearchSettings) (side : ResearchSide) (spaces : List String)
  (forceRefresh : Bool)

def topicPages (position : Nat) (topic : AgendaTopic) : List ConfluencePage :=
  match side.analyseIntent with
  | none => []
  | some analyseIntent =>
      match analyseIntent position topic.suggestedQuery with
      | .ok intent => intentPages settings (side.search position) spaces intent
      | .error _ => []

def firstNaming (position : Nat) (topic : AgendaTopic) (key : String) :
    Option (ConfluencePage × ContextExtractionOutput) :=
  (topicPages settings side spaces position topic).zipIdx.findSome?
    (naming (side.extract position) forceRefresh key)

def referencesOf : Except PyError TopicRefs → OrderedDict String ConfluenceReference
  | .ok found => found.2
  | .error _ => ∅

theorem fetched_reference
    (extract : Nat → ConfluencePage → Bool → Except PyError ContextExtractionOutput)
    (started : ConfluencePage × Nat)
    (key : String) :
    (referencesOf (fetchAndExtract started.1
        (extract started.2 started.1 forceRefresh))).get? key =
      (naming extract forceRefresh key started).map fun found =>
        pageReference found.1 found.2 key := by
  unfold fetchAndExtract naming
  cases extract started.2 started.1 forceRefresh with
  | error error => rfl
  | ok extraction =>
      simp only [Except.map, referencesOf, OrderedDict.get?_overlay]
      split_ifs <;> rfl

theorem page_refs_folded
    (results : List (Except PyError TopicRefs))
    (found : TopicRefs)
    (key : String) :
    (results.foldl addPageRefs found).2.get? key =
      (found.2.get? key).or (results.findSome? fun result => (referencesOf result).get? key) := by
  induction results generalizing found with
  | nil => exact (Option.or_none).symm
  | cons result rest ih =>
      rw [List.foldl_cons, ih, List.findSome?_cons]
      cases result with
      | error error => rfl
      | ok fetched =>
          have merged : (addPageRefs found (.ok fetched)).2.get? key =
              (found.2.get? key).or (fetched.2.get? key) :=
            get?_keep_first found.2 fetched.2.entries key
          rw [merged, Option.or_assoc]
          simp only [referencesOf]
          cases fetched.2.get? key <;> rfl

theorem extracted_reference
    (extract : Nat → ConfluencePage → Bool → Except PyError ContextExtractionOutput)
    (pages : List ConfluencePage)
    (key : String) :
    (extractPages extract forceRefresh pages).2.get? key =
      (pages.zipIdx.findSome? (naming extract forceRefresh key)).map fun found =>
        pageReference found.1 found.2 key := by
  rw [extractPages, page_refs_folded, OrderedDict.get?_empty, Option.none_or, List.findSome?_map,
    List.map_findSome?]
  congr 1
  funext started
  exact fetched_reference forceRefresh extract started key

theorem topic_reference
    (analyseIntent : Nat → String → Except PyError QueryIntent)
    (present : side.analyseIntent = some analyseIntent)
    (position : Nat)
    (topic : AgendaTopic)
    (key : String) :
    (referencesOf (researchTopic settings side analyseIntent spaces forceRefresh position
        topic)).get? key =
      (firstNaming settings side spaces forceRefresh position topic key).map fun found =>
        pageReference found.1 found.2 key := by
  unfold firstNaming topicPages
  rw [present, researchTopic]
  dsimp only
  cases analyseIntent position topic.suggestedQuery with
  | error error => rfl
  | ok intent =>
      dsimp only [bind, Except.bind]
      cases found : intentPages settings (side.search position) spaces intent with
      | nil => rfl
      | cons page others =>
          exact extracted_reference forceRefresh (side.extract position) (page :: others) key

theorem topic_refs_folded
    (results : List (Except PyError TopicRefs))
    (refs : ConfluenceRefs)
    (key : String) :
    listAt (results.foldl addTopicRefs refs) key =
      listAt refs key ++ results.filterMap fun result => (referencesOf result).get? key := by
  induction results generalizing refs with
  | nil => exact (List.append_nil _).symm
  | cons result rest ih =>
      rw [List.foldl_cons, ih, List.filterMap_cons]
      cases result with
      | error error => rfl
      | ok found =>
          have merged : listAt (addTopicRefs refs (.ok found)) key =
              listAt refs key ++ (found.2.get? key).toList :=
            list_at_push_all refs found.2 key
          rw [merged, List.append_assoc]
          simp only [referencesOf]
          cases found.2.get? key <;> rfl

def topicRefs (topics : List AgendaTopic) : ConfluenceRefs :=
  (topicResults settings side spaces forceRefresh topics).foldl addTopicRefs ∅

theorem topic_refs_at
    (topics : List AgendaTopic)
    (key : String) :
    listAt (topicRefs settings side spaces forceRefresh topics) key =
      topics.zipIdx.filterMap fun started =>
        (firstNaming settings side spaces forceRefresh started.2 started.1 key).map fun found =>
          pageReference found.1 found.2 key := by
  have start : listAt (∅ : ConfluenceRefs) key = [] := rfl
  rw [topicRefs, topic_refs_folded, start, List.nil_append, topicResults]
  cases present : side.analyseIntent with
  | none =>
      symm
      apply List.filterMap_eq_nil_iff.mpr
      intro started _
      rw [firstNaming, topicPages, present]
      rfl
  | some analyseIntent =>
      dsimp only
      rw [List.filterMap_map]
      apply List.filterMap_congr
      intro started _
      exact topic_reference settings side spaces forceRefresh analyseIntent present started.2
        started.1 key

theorem mention_found
    (search : Nat → String → SearchResult)
    (issueKeys : List String)
    (key : String)
    (pages : List ConfluencePage)
    (found : (findPagesMentioningKeys search issueKeys spaces).get? key = some pages) :
    ∃ position : Nat, issueKeys[position]? = some key ∧
      search position (reverseLookupCql key spaces) = .ok pages := by
  have steps : ∀ (asked : List (String × Nat)) (result : OrderedDict String (List ConfluencePage)),
      (∀ pages, result.get? key = some pages → ∃ position : Nat,
        issueKeys[position]? = some key ∧
          search position (reverseLookupCql key spaces) = .ok pages) →
      (∀ one ∈ asked, issueKeys[one.2]? = some one.1) →
      ∀ pages, (asked.foldl (fun result asked =>
          addMentions result asked.1 (search asked.2 (reverseLookupCql asked.1 spaces)))
          result).get? key = some pages →
        ∃ position : Nat, issueKeys[position]? = some key ∧
          search position (reverseLookupCql key spaces) = .ok pages := by
    intro asked
    induction asked with
    | nil => exact fun _ holds _ => holds
    | cons one rest ih =>
        intro result holds placed
        rw [List.forall_mem_cons] at placed
        rw [List.foldl_cons]
        apply ih _ _ placed.2
        intro pages here
        cases outcome : search one.2 (reverseLookupCql one.1 spaces) with
        | error error =>
            rw [outcome] at here
            exact holds pages here
        | ok returned =>
            rw [outcome, addMentions] at here
            split_ifs at here
            · exact holds pages here
            · rw [OrderedDict.get?_set] at here
              split_ifs at here with same
              · cases here
                rw [same]
                exact ⟨one.2, placed.1, outcome⟩
              · exact holds pages here
  apply steps issueKeys.zipIdx ∅ _ _ pages found
  · intro pages none
    rw [OrderedDict.get?_empty] at none
    cases none
  · intro one member
    exact List.mk_mem_zipIdx_iff_getElem?.mp member

def Mentioned (refs : ConfluenceRefs) (allJiraKeys : List String) (key : String)
    (ref : ConfluenceReference) : Prop :=
  ∃ position pages page, (reverseKeys refs allJiraKeys)[position]? = some key ∧
    side.reverseSearch position (reverseLookupCql key spaces) = .ok pages ∧ page ∈ pages ∧
      ref = reverseReference page

theorem mentioning_grows
    (refs : ConfluenceRefs)
    (allJiraKeys : List String)
    (key : String) :
    Grows ConfluenceReference.pageId (Mentioned side spaces refs allJiraKeys key) key refs
      (addMentioning refs (findPagesMentioningKeys side.reverseSearch
        (reverseKeys refs allJiraKeys) spaces)) := by
  apply push_new_all_grows
  intro entry member here ref inEntry
  rcases List.mem_map.mp member with ⟨listed, inReverse, rfl⟩
  rcases List.mem_map.mp inEntry with ⟨page, inPages, rfl⟩
  dsimp only at here
  subst here
  obtain ⟨position, asked, returned⟩ := mention_found spaces side.reverseSearch _ listed.1 listed.2
    ((OrderedDict.mem_entries_iff _ _ _).mp inReverse)
  exact ⟨position, listed.2, page, asked, returned, inPages, rfl⟩

theorem research_grows
    (topics : List AgendaTopic)
    (allJiraKeys : List String)
    (given : Option (List String))
    (key : String) :
    Grows ConfluenceReference.pageId
      (Mentioned side (resolvedSpaces settings given)
        (topicRefs settings side (resolvedSpaces settings given) forceRefresh topics)
        allJiraKeys key)
      key (topicRefs settings side (resolvedSpaces settings given) forceRefresh topics)
      (runConfluenceResearch settings side topics allJiraKeys given forceRefresh) := by
  unfold runConfluenceResearch
  dsimp only
  split_ifs
  · exact grows_of_same ConfluenceReference.pageId rfl
  · exact mentioning_grows side (resolvedSpaces settings given) _ allJiraKeys key

end Topics

end AtlasMindNetra.ConfluenceResearch
