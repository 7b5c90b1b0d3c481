import AtlasMindNetra.LiteClient
import Mathlib.Data.Nat.Find

/-!
# The error boundary of the backend client

Both calls of the client promise a result or `LiteBackendError`. Three things
escape: a limit below one, which the request model refuses before anything is
posted, an error response whose body is JSON but no object, and a body that is
nested too deeply to be decoded or, in its detail, to be written out.
-/

namespace AtlasMindNetra.ClientBoundary

open AtlasMindNetra.ResponseModels AtlasMindNetra.AttemptRules AtlasMindNetra.JsonTrees
open AtlasMindNetra.LiteClient

set_option autoImplicit false

/-- A result, or an error that `except LiteBackendError` catches. -/
def AtBoundary {Result : Type} (outcome : Except ClientError Result) : Prop :=
  ∀ error, outcome = .error error → error.isLiteBackend = true

def Repeatable : HttpOutcome → Prop
  | .transportError _ => True
  | .requestError _ => False
  | .response response => response.statusCode = 503

def BareBody (response : HttpResponse) : Prop :=
  ∃ body, response.json = .ok body ∧ body.isBare = true

/-- A response with a body that is nested too deeply for the decoder. -/
def DeepBody (response : HttpResponse) : Prop :=
  ∃ message, response.json = .error (.recursion message)

/-- A response with a detail that `str()` cannot write out. -/
def DeepDetail (parsing : ParsingSide) (response : HttpResponse) : Prop :=
  ∃ fields detail message, response.json = .ok (.obj fields) ∧
    fieldOf "detail" fields = some detail ∧ detail.truthy = true ∧
    parsing.pyStr detail = .error message

/-- A response whose body, read as the answer or for its detail, raises what is
no `ValueError`. -/
def Unreadable (parsing : ParsingSide) : HttpOutcome → Prop
  | .response response =>
      DeepBody response ∨
        response.statusCode ≠ 200 ∧ (BareBody response ∨ DeepDetail parsing response)
  | _ => False

/-- The number of posts is within the limit, and every post but the last was
followed by another for a reason. -/
def PostsWithin (settings : LiteSettings) (posts : Nat → HttpOutcome) (count : Nat) : Prop :=
  (count : Int) ≤ max 1 settings.maxRetries ∧
    ∀ index, index + 1 < count → Repeatable (posts index)

/-- Among the posts that the retries allow, one meets such a response after
outcomes that are all repeatable. -/
def MeetsUnreadable (client : LiteClientConfig) (posts : Nat → HttpOutcome) : Prop :=
  ∃ index : Nat, (index : Int) < max 1 client.settings.maxRetries ∧
    (∀ earlier, earlier < index → Repeatable (posts earlier)) ∧
    Unreadable client.parsing (posts index)

/-- The whole promise about one request. -/
def RequestAtBoundary {Result : Type} (settings : LiteSettings) (posts : Nat → HttpOutcome)
    (run : RequestRun Result) : Prop :=
  AtBoundary run.outcome ∧ PostsWithin settings posts run.posts

def DetailsAtBoundary (settings : LiteSettings) (posts : Nat → Nat → HttpOutcome)
    (run : DetailsRun) : Prop :=
  AtBoundary run.outcome ∧
    ∀ (chunk : Nat) batch, run.batches[chunk]? = some batch →
      PostsWithin settings (posts chunk) batch.posts

theorem error_detail_fails_iff
    (parsing : ParsingSide)
    (response : HttpResponse) :
    (∃ error, errorDetail parsing response = .error error) ↔
      DeepBody response ∨ BareBody response ∨ DeepDetail parsing response := by
  unfold errorDetail DeepBody BareBody DeepDetail
  cases decoded : response.json with
  | error failure => cases failure <;> simp
  | ok body =>
      cases body with
      | obj fields =>
          cases given : fieldOf "detail" fields with
          | none => simp [given, Json.isBare]
          | some detail =>
              cases shown : detail.truthy with
              | false =>
                  have dropped : Option.filter Json.truthy (some detail) = none := by
                    rw [Option.filter_some, shown]
                    rfl
                  simp [given, dropped, shown, Json.isBare]
              | true =>
                  have kept : Option.filter Json.truthy (some detail) = some detail := by
                    rw [Option.filter_some, shown]
                    rfl
                  cases written : parsing.pyStr detail <;>
                    simp [given, kept, shown, written, Json.isBare, Except.mapError]
      | _ => simp [Json.isBare]

theorem error_detail_raises
    (parsing : ParsingSide)
    (response : HttpResponse)
    (error : ClientError)
    (raised : errorDetail parsing response = .error error) :
    error.isRetried = false ∧ error.unreachable? = none ∧ error.isLiteBackend = false := by
  have kinds : (∃ message, error = .attribute message) ∨ ∃ message, error = .recursion message := by
    unfold errorDetail at raised
    split at raised
    · cases raised
    · cases raised
    · cases raised
      exact .inr ⟨_, rfl⟩
    · split at raised
      · rename_i fields _ detail _
        cases written : parsing.pyStr detail with
        | ok text => simp [written, Except.mapError] at raised
        | error message =>
            simp only [written, Except.mapError, Except.error.injEq] at raised
            exact .inr ⟨message, raised.symm⟩
      · cases raised
    · cases raised
      exact .inl ⟨_, rfl⟩
  obtain ⟨message, rfl⟩ | ⟨message, rfl⟩ := kinds <;> exact ⟨rfl, rfl, rfl⟩

theorem unreadable_error_iff
    (parsing : ParsingSide)
    (response : HttpResponse)
    (failed : response.statusCode ≠ 200) :
    Unreadable parsing (.response response) ↔
      ∃ error, errorDetail parsing response = .error error := by
  rw [error_detail_fails_iff]
  simp [Unreadable, failed]

/-- A post is repeated after a transport error or a 503 whose detail can be read. -/
theorem post_retried_iff
    (parsing : ParsingSide)
    (posted : HttpOutcome) :
    Retried ClientError.isRetried (postOnce parsing posted) ↔
      Repeatable posted ∧ ¬ Unreadable parsing posted := by
  cases posted with
  | transportError message =>
      simp [Retried, postOnce, Repeatable, Unreadable, ClientError.isRetried]
  | requestError message => simp [Retried, postOnce, Repeatable, ClientError.isRetried]
  | response response =>
      by_cases unavailable : response.statusCode = 503
      · rw [unreadable_error_iff parsing response (by omega)]
        cases read : errorDetail parsing response with
        | ok detail =>
            simp [Retried, postOnce, Repeatable, unavailable, read, ClientError.isRetried]
        | error error =>
            have passed := (error_detail_raises parsing response error read).1
            simp [Retried, postOnce, unavailable, read, passed]
      · simp [Retried, postOnce, Repeatable, unavailable]

/-- An end of the posting that no handler of a call turns into a `LiteBackendError`. -/
def Escapes (parsing : ParsingSide) : Except ClientError HttpResponse → Prop
  | .error error => error.unreachable? = none ∧ error.isLiteBackend = false
  | .ok response => Unreadable parsing (.response response)

theorem post_escapes_iff
    (parsing : ParsingSide)
    (posted : HttpOutcome) :
    Escapes parsing (postOnce parsing posted) ↔ Unreadable parsing posted := by
  cases posted with
  | transportError message => simp [postOnce, Escapes, Unreadable, ClientError.unreachable?]
  | requestError message => simp [postOnce, Escapes, Unreadable, ClientError.unreachable?]
  | response response =>
      by_cases unavailable : response.statusCode = 503
      · rw [unreadable_error_iff parsing response (by omega)]
        cases read : errorDetail parsing response with
        | ok detail => simp [postOnce, unavailable, read, Escapes, ClientError.unreachable?]
        | error error =>
            have passed := (error_detail_raises parsing response error read).2
            simp [postOnce, unavailable, read, Escapes, passed]
      · simp [postOnce, unavailable, Escapes]

theorem escape_not_retried
    (parsing : ParsingSide)
    (ended : Except ClientError HttpResponse)
    (escapes : Escapes parsing ended) : ¬ Retried ClientError.isRetried ended := by
  rintro ⟨error, rfl, again⟩
  have handled := escapes.1
  cases error <;> simp_all [ClientError.isRetried, ClientError.unreachable?]

/-- A body with status 200 is refused by a `LiteBackendError` unless it is nested too
deeply. -/
theorem parsed_boundary_iff
    {Result : Type}
    (validate : Json → Except String Result)
    (inBand : Result → Option String)
    (response : HttpResponse) :
    AtBoundary (readParsed inBand (parseBody validate response)) ↔ ¬ DeepBody response := by
  unfold parseBody DeepBody
  cases decoded : response.json with
  | error failure =>
      cases failure <;>
        simp [readParsed, AtBoundary, contractError, ClientError.isLiteBackend]
  | ok body =>
      apply iff_of_true
      · intro error raised
        cases checked : validate body with
        | error message =>
            simp only [checked, Except.mapError, readParsed, Except.error.injEq] at raised
            rw [← raised]
            rfl
        | ok result =>
            simp only [checked, Except.mapError, readParsed] at raised
            split at raised
            · cases raised
              rfl
            · cases raised
      · simp

theorem read_response_boundary_iff
    {Result : Type}
    (client : LiteClientConfig)
    (validate : Json → Except String Result)
    (inBand : Result → Option String)
    (ended : Except ClientError HttpResponse) :
    AtBoundary (readResponse client validate inBand ended) ↔ ¬ Escapes client.parsing ended := by
  cases ended with
  | error error =>
      cases error <;>
        simp [AtBoundary, readResponse, Escapes, ClientError.unreachable?,
          ClientError.isLiteBackend]
  | ok response =>
      by_cases failed : response.statusCode ≠ 200
      · simp only [readResponse, Escapes, if_pos failed]
        rw [unreadable_error_iff client.parsing response failed]
        cases read : errorDetail client.parsing response with
        | ok detail => simp [AtBoundary, ClientError.isLiteBackend]
        | error error =>
            have passed := (error_detail_raises client.parsing response error read).2
            simp [AtBoundary, passed]
      · simp only [readResponse, Escapes, if_neg failed]
        have deep : Unreadable client.parsing (.response response) ↔ DeepBody response := by
          simp only [Unreadable, failed, false_and, or_false]
        rw [deep]
        exact parsed_boundary_iff validate inBand response

theorem retry_limit
    (settings : LiteSettings) : ((furtherAttempts settings + 1 : Nat) : Int) =
      max 1 settings.maxRetries := by
  unfold furtherAttempts
  omega

/-- Of the posts that meet such a response the first one comes after outcomes
that can be read. -/
theorem meets_unreadable_iff
    (client : LiteClientConfig)
    (posts : Nat → HttpOutcome) :
    MeetsUnreadable client posts ↔
      ∃ index, index ≤ furtherAttempts client.settings ∧
        (∀ earlier, earlier < index →
          Repeatable (posts earlier) ∧ ¬ Unreadable client.parsing (posts earlier)) ∧
        Unreadable client.parsing (posts index) := by
  have limit := retry_limit client.settings
  constructor
  · rintro ⟨index, allowed, before, bare⟩
    classical
    have some : ∃ found, Unreadable client.parsing (posts found) := ⟨index, bare⟩
    have least := Nat.find_min' some bare
    apply Exists.intro (Nat.find some)
    apply And.intro (by omega)
    apply And.intro _ (Nat.find_spec some)
    intro earlier sooner
    exact ⟨before earlier (by omega), Nat.find_min some sooner⟩
  · rintro ⟨index, allowed, before, bare⟩
    exact ⟨index, by omega, fun earlier sooner => (before earlier sooner).1, bare⟩

theorem posting_escapes_iff
    (client : LiteClientConfig)
    (posts : Nat → HttpOutcome) :
    Escapes client.parsing (postWithRetry client posts).2 ↔ MeetsUnreadable client posts := by
  rw [meets_unreadable_iff]
  unfold postWithRetry
  rw [retrying_ends_iff (Escapes client.parsing) (escape_not_retried client.parsing)]
  simp only [Nat.zero_add, post_retried_iff, post_escapes_iff]

theorem posts_within
    (client : LiteClientConfig)
    (posts : Nat → HttpOutcome) :
    PostsWithin client.settings posts (postWithRetry client posts).1 := by
  unfold postWithRetry
  constructor
  · have bounded := @attempts_bounded _ _ ClientError.isRetried
      (fun attempt => postOnce client.parsing (posts attempt))
      (furtherAttempts client.settings) 0
    have limit := retry_limit client.settings
    omega
  · intro index earlier
    have retried := earlier_attempts_retried (furtherAttempts client.settings) 0 index earlier
    rw [Nat.zero_add, post_retried_iff] at retried
    exact retried.1

/-- A request that can be built keeps the promise unless it meets an unreadable response. -/
theorem run_request_boundary_iff
    {Result : Type}
    (client : LiteClientConfig)
    (validate : Json → Except String Result)
    (inBand : Result → Option String)
    (posts : Nat → HttpOutcome)
    (built : Except ClientError HttpRequest)
    (refusals : ∀ error, built = .error error → error.isLiteBackend = false) :
    RequestAtBoundary client.settings posts (runRequest client validate inBand posts built) ↔
      (∃ request, built = .ok request) ∧ ¬ MeetsUnreadable client posts := by
  cases built with
  | error error =>
      have refused := refusals error rfl
      simp [RequestAtBoundary, runRequest, AtBoundary, refused]
  | ok request =>
      simp only [RequestAtBoundary, runRequest, read_response_boundary_iff, posting_escapes_iff,
        posts_within, and_true, Except.ok.injEq, exists_eq', true_and]

theorem check_limit_refuses
    (field : String)
    (limit : Option Int)
    (error : ClientError)
    (refused : checkLimit field limit = .error error) : error.isLiteBackend = false := by
  cases limit with
  | none => cases refused
  | some value =>
      simp only [checkLimit] at refused
      split_ifs at refused
      cases refused
      rfl

theorem check_limit_accepts_iff
    (field : String)
    (limit : Option Int) :
    (∃ checked, checkLimit field limit = .ok checked) ↔ ∀ value, limit = some value → 1 ≤ value := by
  cases limit with
  | none => simp [checkLimit]
  | some value =>
      simp only [checkLimit]
      split_ifs with enough <;> simp [enough]

theorem checked_request
    (field : String)
    (limit : Option Int)
    (build : CheckedLimit → HttpRequest)
    (built : Except ClientError HttpRequest)
    (steps : built = checkLimit field limit >>= fun checked => pure (build checked)) :
    (∀ error, built = .error error → error.isLiteBackend = false) ∧
      ((∃ request, built = .ok request) ↔ ∀ value, limit = some value → 1 ≤ value) := by
  rw [← check_limit_accepts_iff field, steps]
  cases checked : checkLimit field limit with
  | error reason =>
      constructor
      · intro error raised
        cases raised
        exact check_limit_refuses field limit reason checked
      · simp [bind, Except.bind]
  | ok accepted => simp [bind, Except.bind, pure, Except.pure]

theorem query_request_checked
    (settings : LiteSettings)
    (text : String)
    (limit : Option Int)
    (credentials : JiraCredentials)
    (requestId : String) :
    (∀ error, queryRequest settings text limit credentials requestId = .error error →
        error.isLiteBackend = false) ∧
      ((∃ request, queryRequest settings text limit credentials requestId = .ok request) ↔
        ∀ value, limit.or settings.defaultLimit = some value → 1 ≤ value) :=
  checked_request "limit" (limit.or settings.defaultLimit) _ _ rfl

theorem details_request_checked
    (settings : LiteSettings)
    (issueKeys : List String)
    (limit : Int)
    (requestId : String) :
    (∀ error, detailsRequest settings issueKeys limit requestId = .error error →
        error.isLiteBackend = false) ∧
      ((∃ request, detailsRequest settings issueKeys limit requestId = .ok request) ↔
        1 ≤ limit) := by
  have checked := checked_request "comments_limit" (some limit) _
    (detailsRequest settings issueKeys limit requestId) rfl
  simpa only [Option.some.injEq, forall_eq'] using checked

def batchCount (issueKeys : List String) : Nat := max 1 ((issueKeys.length + 49) / 50)

theorem batch_boundary_iff
    (client : LiteClientConfig)
    (issueKeys : List String)
    (limit : Int)
    (requestId : String)
    (posts : Nat → HttpOutcome) :
    RequestAtBoundary client.settings posts
        (fetchIssueDetailsBatch client issueKeys limit requestId posts) ↔
      1 ≤ limit ∧ ¬ MeetsUnreadable client posts := by
  have checked := details_request_checked client.settings issueKeys limit requestId
  rw [← checked.2]
  exact run_request_boundary_iff client _ _ posts _ checked.1

theorem query_boundary_iff
    (client : LiteClientConfig)
    (text : String)
    (limit : Option Int)
    (credentials : JiraCredentials)
    (requestId : String)
    (posts : Nat → HttpOutcome) :
    RequestAtBoundary client.settings posts
        (query client text limit credentials requestId posts) ↔
      (∀ value, limit.or client.settings.defaultLimit = some value → 1 ≤ value) ∧
        ¬ MeetsUnreadable client posts := by
  have checked := query_request_checked client.settings text limit credentials requestId
  rw [← checked.2]
  exact run_request_boundary_iff client _ _ posts _ checked.1

/-- Gathered batches keep to the boundary in every order of events exactly when
each batch does. -/
theorem gather_boundary_iff
    {Result Merged : Type}
    (merge : List Result → Merged)
    (outcomes : List (Except ClientError Result)) :
    (∀ raisedAt, AtBoundary ((gather raisedAt outcomes).map merge)) ↔
      ∀ outcome, outcome ∈ outcomes → AtBoundary outcome := by
  constructor
  · intro always outcome member error raised
    subst raised
    rcases gather_some_order outcomes error member with ⟨raisedAt, gathered⟩
    have kept := always raisedAt
    rw [gathered] at kept
    exact kept error rfl
  · intro each raisedAt error raised
    cases gathered : gather raisedAt outcomes with
    | ok values => simp [gathered, Except.map] at raised
    | error first =>
        simp only [gathered, Except.map, Except.error.injEq] at raised
        subst raised
        exact each _ (gather_error raisedAt outcomes first gathered) first rfl

theorem posts_within_batch
    (client : LiteClientConfig)
    (issueKeys : List String)
    (limit : Int)
    (requestId : String)
    (posts : Nat → HttpOutcome) :
    PostsWithin client.settings posts
      (fetchIssueDetailsBatch client issueKeys limit requestId posts).posts := by
  unfold fetchIssueDetailsBatch
  cases detailsRequest client.settings issueKeys limit requestId with
  | ok request => exact posts_within client posts
  | error error =>
      constructor
      · simp only [runRequest]
        omega
      · intro index earlier
        exact absurd earlier (Nat.not_lt_zero _)

section Details

variable (client : LiteClientConfig) (issueKeys : List String) (limit : Option Int)
  (requestId : Option String) (side : DetailsSide)

theorem details_batch_count :
    (getIssueDetails client issueKeys limit requestId side).batches.length =
      batchCount issueKeys := by
  have chunks : (keyChunks issueKeys).length = (issueKeys.length + 49) / 50 := by
    simp [keyChunks]
  simp only [getIssueDetails, batchCount]
  split_ifs with single
  · rw [List.length_singleton]
    omega
  · rw [List.length_map, List.length_zipIdx]
    omega

theorem details_batch_at
    (chunk : Nat)
    (batch : RequestRun IssueDetailsResponse)
    (position : (getIssueDetails client issueKeys limit requestId side).batches[chunk]? =
      some batch) :
    ∃ keys batchId, batch = fetchIssueDetailsBatch client keys
      (limit.getD client.settings.commentsLimitDefault) batchId (side.posts chunk) := by
  simp only [getIssueDetails] at position
  split_ifs at position with single
  · cases chunk with
    | zero =>
        rw [List.getElem?_cons_zero, Option.some.injEq] at position
        exact ⟨_, _, position.symm⟩
    | succ chunk => simp at position
  · rw [List.getElem?_map, Option.map_eq_some_iff] at position
    rcases position with ⟨started, numbered, rfl⟩
    rw [List.getElem?_zipIdx, Option.map_eq_some_iff] at numbered
    rcases numbered with ⟨keys, _, rfl⟩
    rw [Nat.zero_add]
    exact ⟨_, _, rfl⟩

theorem details_outcome_iff :
    (∀ raisedAt, AtBoundary (getIssueDetails client issueKeys limit requestId
        { side with raisedAt := raisedAt }).outcome) ↔
      ∀ batch, batch ∈ (getIssueDetails client issueKeys limit requestId side).batches →
        AtBoundary batch.outcome := by
  simp only [getIssueDetails]
  split_ifs with single
  · simp only [List.mem_singleton, forall_eq, forall_const]
  · rw [gather_boundary_iff]
    simp only [List.mem_map, forall_exists_index, and_imp, forall_apply_eq_imp_iff₂]

/-- A call for issue details keeps the promise in every order of events exactly
when its limit is accepted and no batch meets an unreadable response. -/
theorem details_boundary_iff :
    (∀ raisedAt, DetailsAtBoundary client.settings side.posts
        (getIssueDetails client issueKeys limit requestId
          { side with raisedAt := raisedAt })) ↔
      1 ≤ limit.getD client.settings.commentsLimitDefault ∧
        ∀ chunk, chunk < batchCount issueKeys →
          ¬ MeetsUnreadable client (side.posts chunk) := by
  have count := details_batch_count client issueKeys limit requestId side
  have batchAt := details_batch_at client issueKeys limit requestId side
  have outcomes := details_outcome_iff client issueKeys limit requestId side
  generalize ran : getIssueDetails client issueKeys limit requestId side = run at *
  constructor
  · intro always
    have each := outcomes.mp fun raisedAt => (always raisedAt).1
    have kept (chunk : Nat) (below : chunk < batchCount issueKeys) :
        1 ≤ limit.getD client.settings.commentsLimitDefault ∧
          ¬ MeetsUnreadable client (side.posts chunk) := by
      have position := List.getElem?_eq_getElem (count.symm ▸ below : chunk < run.batches.length)
      have bounded := each _ (List.mem_of_getElem? position)
      rcases batchAt chunk _ position with ⟨keys, batchId, same⟩
      rw [same] at bounded
      exact (batch_boundary_iff client keys _ batchId (side.posts chunk)).mp
        ⟨bounded, posts_within_batch client keys _ batchId _⟩
    exact ⟨(kept 0 (Nat.le_max_left _ _)).1, fun chunk below => (kept chunk below).2⟩
  · rintro ⟨accepted, clean⟩ raisedAt
    constructor
    · apply outcomes.mpr
      intro batch member
      rcases List.mem_iff_getElem?.mp member with ⟨chunk, position⟩
      have below : chunk < batchCount issueKeys := by
        rw [← count]
        exact (List.getElem?_eq_some_iff.mp position).1
      rcases batchAt chunk batch position with ⟨keys, batchId, rfl⟩
      exact ((batch_boundary_iff client keys _ batchId _).mpr
        ⟨accepted, clean chunk below⟩).1
    · intro chunk batch position
      rcases details_batch_at client issueKeys limit requestId _ chunk batch position with
        ⟨keys, batchId, rfl⟩
      exact posts_within_batch client keys _ batchId _

end Details

def plainClient : LiteClientConfig where
  parsing :=
    { validateQueryResult := fun _ => .ok {}
      validateIssueDetails := fun _ => .ok {}
      pyStr := fun value => .ok value.typeName }

def listGateway : Nat → HttpOutcome := fun _ =>
  .response
    { statusCode := 502
      text := "[\"bad gateway\"]"
      json := .ok (.arr [.str "bad gateway"]) }

def deepBackend : Nat → HttpOutcome := fun _ =>
  .response
    { statusCode := 200
      text := String.ofList (List.replicate 200000 '[')
      json := .error (.recursion "maximum recursion depth exceeded") }

end AtlasMindNetra.ClientBoundary
