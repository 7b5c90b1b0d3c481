import AtlasMindNetra.LiteClient
import AtlasMindNetra.ListRules

/-!
# Batches of issue keys

`get_issue_details` splits long key lists. A backend that answers key by key
gives the same issues and the same missing keys in batches as in one request,
and of the errors in the batches the first one is passed on.
-/

namespace AtlasMindNetra.LiteClient

open AtlasMindNetra.PythonValues AtlasMindNetra.ResponseModels
open AtlasMindNetra.AttemptRules AtlasMindNetra.JsonTrees AtlasMindNetra.ListRules

set_option autoImplicit false

/-- The key lists of the requests, one request with no keys for the empty list. -/
def requestedBatches (issueKeys : List String) : List (List String) :=
  if (keyChunks issueKeys).length ≤ 1 then [(keyChunks issueKeys).headD []]
  else keyChunks issueKeys

theorem key_chunks_flatten (issueKeys : List String) : (keyChunks issueKeys).flatten = issueKeys :=
  pieces_flatten 50 _ issueKeys (by omega)

theorem key_chunks_bounded
    (issueKeys keys : List String)
    (member : keys ∈ keyChunks issueKeys) : keys.length ≤ 50 := by
  rcases List.mem_map.mp member with ⟨chunk, _, rfl⟩
  exact List.length_take_le _ _

theorem batches_flatten (issueKeys : List String) :
    (requestedBatches issueKeys).flatten = issueKeys := by
  have all := key_chunks_flatten issueKeys
  unfold requestedBatches
  split_ifs with few
  · cases chunks : keyChunks issueKeys with
    | nil =>
        rw [chunks] at all
        rw [← all]
        rfl
    | cons first rest =>
        rw [chunks, List.length_cons] at few
        rw [chunks, List.length_eq_zero_iff.mp (by omega : rest.length = 0)] at all
        exact all
  · exact all

theorem batches_bounded
    (issueKeys keys : List String)
    (member : keys ∈ requestedBatches issueKeys) : keys.length ≤ 50 := by
  unfold requestedBatches at member
  split_ifs at member with few
  · cases List.mem_singleton.mp member
    cases chunks : keyChunks issueKeys with
    | nil => exact Nat.zero_le _
    | cons first rest =>
        exact key_chunks_bounded issueKeys first (chunks ▸ List.mem_cons_self)
  · exact key_chunks_bounded issueKeys keys member

def postedKeys (run : RequestRun IssueDetailsResponse) : List String :=
  match run.request.map HttpRequest.payload with
  | some (.obj fields) =>
      match fieldOf "issue_keys" fields with
      | some (.arr items) => items.filterMap fun item =>
          match item with
          | .str key => some key
          | _ => none
      | _ => []
  | _ => []

section Batch

variable (client : LiteClientConfig)

def Answered (posts : Nat → HttpOutcome) (result : IssueDetailsResponse) : Prop :=
  ∃ response, (postWithRetry client posts).2 = .ok response ∧ response.statusCode = 200 ∧
    parseBody client.parsing.validateIssueDetails response = .ok result

variable (keys : List String) (limit : Int) (requestId : String) (posts : Nat → HttpOutcome)
variable (accepted : 1 ≤ limit)

include accepted

theorem details_request_built :
    ∃ request, detailsRequest client.settings keys limit requestId = .ok request ∧
      ∃ rest, request.payload = .obj (("issue_keys", .arr (keys.map Json.str)) :: rest) := by
  unfold detailsRequest checkLimit
  simp only [dif_pos accepted]
  exact ⟨_, rfl, _, rfl⟩

theorem posted_keys_of_batch :
    postedKeys (fetchIssueDetailsBatch client keys limit requestId posts) = keys := by
  rcases details_request_built client keys limit requestId accepted with
    ⟨request, built, rest, payload⟩
  unfold postedKeys fetchIssueDetailsBatch runRequest
  rw [built]
  simp only [Option.map_some, payload, field_cons, if_true, List.filterMap_map]
  exact List.filterMap_some

theorem answered_batch
    (result : IssueDetailsResponse)
    (answered : Answered client posts result)
    (unprefixed : ∀ message, result.error = some message →
      startsWithText liteErrorPrefix message = false) :
    (fetchIssueDetailsBatch client keys limit requestId posts).outcome = .ok result := by
  rcases details_request_built client keys limit requestId accepted with ⟨request, built, _⟩
  rcases answered with ⟨response, posted, status, body⟩
  have quiet : result.error.filter (startsWithText liteErrorPrefix) = none := by
    rw [Option.filter_eq_none_iff]
    intro message isError prefixed
    rw [unprefixed message isError] at prefixed
    cases prefixed
  unfold fetchIssueDetailsBatch runRequest
  simp only [built, posted, readResponse, readParsed, status, ne_eq, not_true_eq_false, if_false,
    body, quiet]

end Batch

/-- What a backend answers that looks up one key after the other: an issue, or
an entry of the missing ones. -/
def keyAnswers (answer : String → IssueDetail ⊕ String) (keys : List String) :
    IssueDetailsResponse where
  issues := keys.filterMap fun key => (answer key).getLeft?
  notFound := keys.filterMap fun key => (answer key).getRight?

def withError (error : Option String) (response : IssueDetailsResponse) : IssueDetailsResponse :=
  { response with error := error }

variable (answer : String → IssueDetail ⊕ String) (errors : Nat → Option String)

theorem merged_answers
    (batches : List (List String)) :
    mergeDetails (batches.zipIdx.map fun batch =>
        withError (errors batch.2) (keyAnswers answer batch.1)) =
      withError ((List.range batches.length).findSome? errors)
        (keyAnswers answer batches.flatten) := by
  have numbers : batches.zipIdx.map Prod.snd = List.range batches.length := by
    rw [List.zipIdx_map_snd, List.range_eq_range']
  have lists {Item : Type} (choose : IssueDetail ⊕ String → Option Item) :
      (batches.zipIdx.flatMap fun batch => batch.1.filterMap fun key => choose (answer key)) =
        batches.flatten.filterMap fun key => choose (answer key) := by
    rw [List.filterMap_flatten, List.flatMap_def,
      map_numbered (fun keys : List String => keys.filterMap fun key => choose (answer key))]
  unfold mergeDetails withError keyAnswers
  simp only [List.flatMap_map, List.findSome?_map, lists, ← numbers, Function.comp_def]

section Details

variable (client : LiteClientConfig) (issueKeys : List String) (commentsLimit : Option Int)
  (requestId : Option String) (side : DetailsSide)

theorem details_batches :
    ∃ batchId : Nat → String,
      (getIssueDetails client issueKeys commentsLimit requestId side).batches =
        (requestedBatches issueKeys).zipIdx.map fun batch =>
          fetchIssueDetailsBatch client batch.1
            (commentsLimit.getD client.settings.commentsLimitDefault) (batchId batch.2)
            (side.posts batch.2) := by
  simp only [getIssueDetails, requestedBatches]
  split_ifs
  · exact ⟨fun _ => (truthyText requestId).getD (side.newRequestId 0), rfl⟩
  · exact ⟨side.newRequestId, rfl⟩

theorem merge_single (result : IssueDetailsResponse) : mergeDetails [result] = result := by
  cases result with
  | mk issues notFound error => cases error <;> simp [mergeDetails]

/-- When all batches return, their merge is returned. -/
theorem details_returned
    (results : List IssueDetailsResponse)
    (returned : (getIssueDetails client issueKeys commentsLimit requestId side).batches.map
      RequestRun.outcome = results.map Except.ok) :
    (getIssueDetails client issueKeys commentsLimit requestId side).outcome =
      .ok (mergeDetails results) := by
  simp only [getIssueDetails] at returned ⊢
  split_ifs at returned ⊢
  · cases results with
    | nil => cases returned
    | cons first rest =>
        rw [List.map_cons, List.map_cons, List.cons.injEq] at returned
        rw [List.map_eq_nil_iff.mp returned.2.symm, merge_single]
        exact returned.1
  · rw [returned, gather_all_ok]
    rfl

/-- The batches ask for the keys in order, and their merge is what one request
for all keys would have returned, with the first error of a batch. -/
theorem batches_invisible
    (accepted : 1 ≤ commentsLimit.getD client.settings.commentsLimitDefault)
    (unprefixed : ∀ index message, errors index = some message →
      startsWithText liteErrorPrefix message = false)
    (answers : ∀ (index : Nat) (keys : List String), (requestedBatches issueKeys)[index]? = some keys →
      Answered client (side.posts index) (withError (errors index) (keyAnswers answer keys))) :
    ((getIssueDetails client issueKeys commentsLimit requestId side).batches.map
        postedKeys).flatten = issueKeys ∧
    (∀ batch ∈ (getIssueDetails client issueKeys commentsLimit requestId side).batches,
      (postedKeys batch).length ≤ 50) ∧
    ∀ batchId posts, Answered client posts (keyAnswers answer issueKeys) →
      (getIssueDetails client issueKeys commentsLimit requestId side).outcome =
        (fetchIssueDetailsBatch client issueKeys
          (commentsLimit.getD client.settings.commentsLimitDefault) batchId posts).outcome.map
            (withError ((List.range (requestedBatches issueKeys).length).findSome? errors)) := by
  rcases details_batches client issueKeys commentsLimit requestId side with ⟨batchId, batches⟩
  have posted : (getIssueDetails client issueKeys commentsLimit requestId side).batches.map
      postedKeys = requestedBatches issueKeys := by
    rw [batches, List.map_map]
    have each : postedKeys ∘ (fun batch : List String × Nat =>
        fetchIssueDetailsBatch client batch.1
          (commentsLimit.getD client.settings.commentsLimitDefault) (batchId batch.2)
          (side.posts batch.2)) = Prod.fst :=
      funext fun batch => posted_keys_of_batch client batch.1 _ _ _ accepted
    rw [each, List.zipIdx_map_fst]
  refine ⟨?_, ?_, ?_⟩
  · rw [posted]
    exact batches_flatten issueKeys
  · intro batch member
    exact batches_bounded issueKeys _ (posted ▸ List.mem_map_of_mem member)
  · intro unboundedId posts unbounded
    have returned : (getIssueDetails client issueKeys commentsLimit requestId side).batches.map
        RequestRun.outcome = ((requestedBatches issueKeys).zipIdx.map fun batch =>
          withError (errors batch.2) (keyAnswers answer batch.1)).map Except.ok := by
      rw [batches, List.map_map, List.map_map]
      apply List.map_congr_left
      intro batch member
      exact answered_batch client batch.1 _ (batchId batch.2) (side.posts batch.2) accepted _
        (answers batch.2 batch.1 (List.mem_zipIdx_iff_getElem?.mp member))
        (fun message isError => unprefixed batch.2 message isError)
    rw [details_returned client issueKeys commentsLimit requestId side _ returned, merged_answers,
      batches_flatten, answered_batch client issueKeys _ unboundedId posts accepted _ unbounded
        (fun message isError => nomatch isError)]
    rfl

end Details

def missingParsing : ParsingSide where
  validateQueryResult := fun _ => .ok {}
  validateIssueDetails := fun body =>
    match body with
    | .obj [("not_found", .arr items)] =>
        .ok { notFound := items.filterMap fun item =>
          match item with
          | .str key => some key
          | _ => none }
    | _ => .error "not modelled"
  pyStr := fun value => .ok value.typeName

def missingBody (keys : List String) : Json := .obj [("not_found", .arr (keys.map .str))]

def missingPosts (keys : List String) : Nat → HttpOutcome := fun _ =>
  .response { statusCode := 200, text := "", json := .ok (missingBody keys) }

def sixtyKeys : List String := List.replicate 60 "CAR-1"

def missingSide : DetailsSide where
  posts := fun index => missingPosts (((requestedBatches sixtyKeys)[index]?).getD [])
  raisedAt := fun _ => 0
  newRequestId := fun _ => "r"

theorem missing_answered (keys : List String) :
    Answered { parsing := missingParsing } (missingPosts keys) (keyAnswers Sum.inr keys) := by
  refine ⟨_, rfl, rfl, ?_⟩
  change Except.ok _ = Except.ok _
  simp [keyAnswers, List.filterMap_map]

theorem sixty_keys_batched :
    ((getIssueDetails { parsing := missingParsing } sixtyKeys none none missingSide).batches.map
        postedKeys).flatten = sixtyKeys := by
  apply (batches_invisible Sum.inr (fun _ => none) { parsing := missingParsing } sixtyKeys none none
    missingSide (by decide) (fun _ _ isError => nomatch isError) _).1
  intro index keys found
  have posts : missingSide.posts index = missingPosts keys := by
    unfold missingSide
    simp only [found, Option.getD_some]
  rw [posts]
  exact missing_answered keys

end AtlasMindNetra.LiteClient
