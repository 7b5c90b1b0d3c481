import AtlasMindNetra.ConfluenceReferences

/-!
# Duplicate references

The reverse lookup compares page identifiers before it adds a reference, and
the merge of the topics does not. The references of a key therefore repeat a
page exactly when two topics found their reference for the key on one page.
-/

namespace AtlasMindNetra.ConfluenceResearch

open AtlasMindNetra.PythonValues AtlasMindNetra.ResponseModels AtlasMindNetra.MergeRules
open AtlasMindNetra.CqlBuilder
open AtlasMindNetra.ConfluencePipeline (ContextExtractionOutput)

set_option autoImplicit false

/-- For no issue key do the two topics have the same first page that names it. -/
def NoCommonPage (settings : ResearchSettings) (side : ResearchSide) (spaces : List String)
    (forceRefresh : Bool) (earlier later : AgendaTopic × Nat) : Prop :=
  ∀ (key : String) (one other : ConfluencePage × ContextExtractionOutput),
    firstNaming settings side spaces forceRefresh earlier.2 earlier.1 key = some one →
    firstNaming settings side spaces forceRefresh later.2 later.1 key = some other →
    one.1.pageId ≠ other.1.pageId

theorem pairwise_forall
    {Item Index : Type}
    (related : Index → Item → Item → Prop)
    (items : List Item) :
    (∀ index, items.Pairwise (related index)) ↔
      items.Pairwise fun one other => ∀ index, related index one other := by
  induction items with
  | nil => simp
  | cons item rest ih =>
      simp only [List.pairwise_cons, forall_and, ih]
      constructor
      · intro both
        exact ⟨fun other member index => both.1 index other member, both.2⟩
      · intro both
        exact ⟨fun index other member => both.1 other member index, both.2⟩

section Distinct

variable (settings : ResearchSettings) (side : ResearchSide) (topics : List AgendaTopic)
  (allJiraKeys : List String) (given : Option (List String)) (forceRefresh : Bool)

theorem research_distinct_iff (key : String) :
    ((listAt (runConfluenceResearch settings side topics allJiraKeys given forceRefresh) key).map
        ConfluenceReference.pageId).Nodup ↔
      ((listAt (topicRefs settings side (resolvedSpaces settings given) forceRefresh topics)
        key).map ConfluenceReference.pageId).Nodup := by
  have grows := research_grows settings side forceRefresh topics allJiraKeys given key
  constructor
  · intro distinct
    exact (grows.kept.sublist.map ConfluenceReference.pageId).nodup distinct
  · exact grows.distinct

theorem topic_refs_distinct_iff (spaces : List String) (key : String) :
    ((listAt (topicRefs settings side spaces forceRefresh topics) key).map
        ConfluenceReference.pageId).Nodup ↔
      topics.zipIdx.Pairwise fun earlier later =>
        ∀ one other : ConfluencePage × ContextExtractionOutput,
          firstNaming settings side spaces forceRefresh earlier.2 earlier.1 key = some one →
          firstNaming settings side spaces forceRefresh later.2 later.1 key = some other →
          one.1.pageId ≠ other.1.pageId := by
  rw [topic_refs_at, List.Nodup, List.pairwise_map, List.pairwise_filterMap]
  apply List.Pairwise.iff
  intro earlier later
  constructor
  · intro apart one other found otherFound
    exact apart _ (by rw [found]; rfl) _ (by rw [otherFound]; rfl)
  · intro apart first firstFound second secondFound
    rcases Option.map_eq_some_iff.mp firstFound with ⟨one, found, rfl⟩
    rcases Option.map_eq_some_iff.mp secondFound with ⟨other, otherFound, rfl⟩
    exact apart one other found otherFound

/-- In every research no key has two references to one page exactly if no two
topics have a common first page for a key. -/
theorem references_distinct_iff :
    (∀ key refs,
      (runConfluenceResearch settings side topics allJiraKeys given forceRefresh).get? key =
        some refs → (refs.map ConfluenceReference.pageId).Nodup) ↔
      topics.zipIdx.Pairwise
        (NoCommonPage settings side (resolvedSpaces settings given) forceRefresh) := by
  have lists :
      (∀ key refs,
        (runConfluenceResearch settings side topics allJiraKeys given forceRefresh).get? key =
          some refs → (refs.map ConfluenceReference.pageId).Nodup) ↔
      ∀ key,
        ((listAt (runConfluenceResearch settings side topics allJiraKeys given forceRefresh)
          key).map ConfluenceReference.pageId).Nodup := by
    constructor
    · intro distinct key
      cases found :
          (runConfluenceResearch settings side topics allJiraKeys given forceRefresh).get? key with
      | none =>
          rw [listAt, found]
          exact List.nodup_nil
      | some refs =>
          rw [list_at_of_get? found]
          exact distinct key refs found
    · intro distinct key refs found
      rw [← list_at_of_get? found]
      exact distinct key
  rw [lists]
  simp only [research_distinct_iff, topic_refs_distinct_iff]
  exact pairwise_forall _ topics.zipIdx

end Distinct

/-- The review page mentions CAR-101, and the search for reviews is the same for
every topic. -/
def reviewSide : ResearchSide where
  analyseIntent := some fun _ query =>
    .ok { confluenceKeywords := [query], intentType := .releaseRisk }
  search := fun _ variant _ =>
    match variant with
    | .titleReview => .ok [{ pageId := "41", title := "Release Review" }]
    | .titleVersion | .textVersion => .ok []
  extract := fun _ _ _ _ => .ok { jiraKeysMentioned := ["CAR-101"] }
  reverseSearch := fun _ _ => .ok []

def twoTopics : List AgendaTopic :=
  [{ topicId := "1", description := "Brakes", suggestedQuery := "brake blockers" },
    { topicId := "2", description := "Doors", suggestedQuery := "door blockers" }]

theorem review_page_referenced_twice :
    ¬ ∀ key refs,
      (runConfluenceResearch { defaultSpaces := ["PROJ"] } reviewSide twoTopics ["CAR-101"] none
        false).get? key = some refs → (refs.map ConfluenceReference.pageId).Nodup := by
  have referenced :
      (runConfluenceResearch { defaultSpaces := ["PROJ"] } reviewSide twoTopics ["CAR-101"] none
        false).get? "CAR-101" =
      some [{ pageId := "41", pageTitle := "Release Review" },
        { pageId := "41", pageTitle := "Release Review" }] := by decide +kernel
  intro distinct
  exact absurd (distinct "CAR-101" _ referenced) (by decide)

end AtlasMindNetra.ConfluenceResearch
