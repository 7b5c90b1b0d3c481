import AtlasMindNetra.AttemptRules
import AtlasMindNetra.JsonTrees
import AtlasMindNetra.ResponseModels

/-!
# The backend client

`core/atlasmind_lite_client.py` with the request models of `models/lite.py`.
What the network does is given post by post: the outcome of each attempt of a
request. Validating a decoded body against a response model is pydantic's
work, and so is the text of its complaints; both are parameters, like the
`str()` of a JSON value. The network raises nothing but `httpx.HTTPError`; what
decoding a body raises depends on the body, and a nesting that is too deep for
the decoder, or for `str()`, is a `RecursionError`. Logging and the waits
between attempts are left out.
-/

namespace AtlasMindNetra.LiteClient

open AtlasMindNetra.PythonValues AtlasMindNetra.ResponseModels
open AtlasMindNetra.AttemptRules AtlasMindNetra.JsonTrees

set_option autoImplicit false

structure LiteSettings where
  queryPath : String := "/query"
  issueDetailsPath : String := "/issue_details"
  apiKey : Option String := none
  maxRetries : Int := 3
  defaultLimit : Option Int := some 50
  commentsLimitDefault : Int := 20

def liteErrorPrefix : String := "Error: "

structure HttpResponse where
  statusCode : Nat
  text : String
  /-- What `response.json()` returns or raises. -/
  json : Except LoadError Json

/-- What one post ends in. A request error is any other `httpx.HTTPError`. -/
inductive HttpOutcome where
  | transportError (message : String)
  | requestError (message : String)
  | response (response : HttpResponse)

/-- Everything a call of the client can raise. -/
inductive ClientError where
  | liteBackend (message : String)
  /-- `_ServiceUnavailableError`, a `LiteBackendError` of its own -/
  | serviceUnavailable (message : String)
  | transport (message : String)
  | request (message : String)
  /-- pydantic's `ValidationError` about one field of a request -/
  | validation (field : String) (value : Int)
  | attribute (message : String)
  | recursion (message : String)
  deriving DecidableEq

namespace ClientError

/-- `except LiteBackendError` -/
def isLiteBackend : ClientError → Bool
  | liteBackend _ | serviceUnavailable _ => true
  | _ => false

/-- The exception types that `_post_with_retry` retries. -/
def isRetried : ClientError → Bool
  | transport _ | serviceUnavailable _ => true
  | _ => false

/-- `except (httpx.HTTPError, _ServiceUnavailableError)` -/
def unreachable? : ClientError → Option String
  | serviceUnavailable message | transport message | request message => some message
  | _ => none

end ClientError

/-- What the client takes from pydantic and the language. -/
structure ParsingSide where
  validateQueryResult : Json → Except String LiteQueryResult
  validateIssueDetails : Json → Except String IssueDetailsResponse
  /-- `str(value)`, or the text of the `RecursionError` of a value nested too deeply -/
  pyStr : Json → Except String String

structure LiteClientConfig where
  settings : LiteSettings := {}
  parsing : ParsingSide

/-- A limit that passed the check of its model. -/
abbrev CheckedLimit := { limit : Option Int // ∀ value, limit = some value → 1 ≤ value }

/-- `Field(default=None, ge=1)` -/
def checkLimit (field : String) : Option Int → Except ClientError CheckedLimit
  | none => .ok ⟨none, nofun⟩
  | some value =>
      if enough : 1 ≤ value then .ok ⟨some value, fun _ same => Option.some.inj same ▸ enough⟩
      else .error (.validation field value)

structure LiteQueryRequest where
  query : String
  requestId : Option String := none
  limit : CheckedLimit

structure IssueDetailsRequest where
  issueKeys : List String
  requestId : Option String := none
  commentsLimit : CheckedLimit

/-- One entry of a dump that excludes `None`. -/
def dumpedField (name : String) : Option Json → List (String × Json)
  | some value => [(name, value)]
  | none => []

/-- `model_dump(exclude_none=True)` -/
def LiteQueryRequest.modelDump (request : LiteQueryRequest) : Json :=
  .obj ([("query", .str request.query)] ++
    dumpedField "request_id" (request.requestId.map .str) ++
    dumpedField "limit" (request.limit.val.map .int))

/-- `model_dump(exclude_none=True)` -/
def IssueDetailsRequest.modelDump (request : IssueDetailsRequest) : Json :=
  .obj ([("issue_keys", .arr (request.issueKeys.map .str))] ++
    dumpedField "request_id" (request.requestId.map .str) ++
    dumpedField "comments_limit" (request.commentsLimit.val.map .int))

/-- A post as it is made, the same on every attempt. -/
structure HttpRequest where
  path : String
  payload : Json
  headers : OrderedDict String String

def buildHeaders (settings : LiteSettings) (extra : List (String × Option String)) :
    OrderedDict String String :=
  let headers : OrderedDict String String :=
    match truthyText settings.apiKey with
    | some key => OrderedDict.set ∅ "X-API-Key" key
    | none => ∅
  extra.foldl (fun headers entry =>
    match truthyText entry.2 with
    | some value => headers.set entry.1 value
    | none => headers) headers

/-- `_error_detail` catches `ValueError` only, and a body that is valid JSON but
no object has no `get`. -/
def errorDetail (parsing : ParsingSide) (response : HttpResponse) : Except ClientError String :=
  match response.json with
  | .error (.decode _) | .error (.digits _) => .ok (firstChars 200 response.text)
  | .error (.recursion message) => .error (.recursion message)
  | .ok (.obj fields) =>
      match (fieldOf "detail" fields).filter Json.truthy with
      | some detail => (parsing.pyStr detail).mapError .recursion
      | none => .ok (firstChars 200 response.text)
  | .ok body => .error (.attribute ("'" ++ body.typeName ++ "' object has no attribute 'get'"))

/-- One attempt of `_post_with_retry`. The detail of a 503 is only logged, but
it is read before the error is raised. -/
def postOnce (parsing : ParsingSide) : HttpOutcome → Except ClientError HttpResponse
  | .transportError message => .error (.transport message)
  | .requestError message => .error (.request message)
  | .response response =>
      if response.statusCode = 503 then
        match errorDetail parsing response with
        | .ok _ => .error (.serviceUnavailable "backend model not initialised (HTTP 503)")
        | .error error => .error error
      else .ok response

/-- `stop_after_attempt(max_retries)`: the attempts allowed after the first. -/
def furtherAttempts (settings : LiteSettings) : Nat := (settings.maxRetries - 1).toNat

/-- `_post_with_retry`: how often it posts, and what it returns or raises. -/
def postWithRetry (client : LiteClientConfig) (posts : Nat → HttpOutcome) :
    Nat × Except ClientError HttpResponse :=
  retrying ClientError.isRetried (fun attempt => postOnce client.parsing (posts attempt))
    (furtherAttempts client.settings) 0

def contractError (message : String) : ClientError :=
  .liteBackend ("backend response does not match contract: " ++ message)

/-- `Model.model_validate(response.json())`; the text of the `ValueError` that
either raises goes into a `LiteBackendError`. -/
def parseBody {Result : Type} (validate : Json → Except String Result) (response : HttpResponse) :
    Except ClientError Result :=
  match response.json with
  | .error (.recursion message) => .error (.recursion message)
  | .error (.decode message) | .error (.digits message) => .error (contractError message)
  | .ok body => (validate body).mapError contractError

/-- An error in the result itself comes with status 200 and a prefix. -/
def readParsed {Result : Type} (inBand : Result → Option String) :
    Except ClientError Result → Except ClientError Result
  | .error error => .error error
  | .ok result =>
      match (inBand result).filter (startsWithText liteErrorPrefix) with
      | some message =>
          .error (.liteBackend (String.ofList (message.toList.drop liteErrorPrefix.length)))
      | none => .ok result

/-- What a call makes of the end of `_post_with_retry`: an unreachable backend,
a status other than 200, a body that does not fit and an in-band error each
raise `LiteBackendError`. -/
def readResponse {Result : Type} (client : LiteClientConfig)
    (validate : Json → Except String Result) (inBand : Result → Option String) :
    Except ClientError HttpResponse → Except ClientError Result
  | .error error =>
      match error.unreachable? with
      | some message => .error (.liteBackend ("backend unreachable after retries: " ++ message))
      | none => .error error
  | .ok response =>
      if response.statusCode ≠ 200 then
        match errorDetail client.parsing response with
        | .ok detail =>
            .error (.liteBackend
              ("backend returned HTTP " ++ toString response.statusCode ++ ": " ++ detail))
        | .error error => .error error
      else
        readParsed inBand (parseBody validate response)

structure RequestRun (Result : Type) where
  request : Option HttpRequest
  posts : Nat
  outcome : Except ClientError Result

/-- A request that could not be built is not posted. -/
def runRequest {Result : Type} (client : LiteClientConfig)
    (validate : Json → Except String Result) (inBand : Result → Option String)
    (posts : Nat → HttpOutcome) : Except ClientError HttpRequest → RequestRun Result
  | .error error => { request := none, posts := 0, outcome := .error error }
  | .ok request =>
      { request := some request
        posts := (postWithRetry client posts).1
        outcome := readResponse client validate inBand (postWithRetry client posts).2 }

/-- The credentials of a session, sent as headers. -/
structure JiraCredentials where
  token : Option String := none
  email : Option String := none
  url : Option String := none

def queryRequest (settings : LiteSettings) (text : String) (limit : Option Int)
    (credentials : JiraCredentials) (requestId : String) : Except ClientError HttpRequest := do
  let limit ← checkLimit "limit" (limit.or settings.defaultLimit)
  let request : LiteQueryRequest := { query := text, requestId := some requestId, limit := limit }
  pure {
    path := settings.queryPath
    payload := request.modelDump
    headers := buildHeaders settings
      [("X-Jira-Token", credentials.token), ("X-Jira-Email", credentials.email),
        ("X-Jira-Url", credentials.url)] }

def query (client : LiteClientConfig) (text : String) (limit : Option Int)
    (credentials : JiraCredentials) (requestId : String) (posts : Nat → HttpOutcome) :
    RequestRun LiteQueryResult :=
  runRequest client client.parsing.validateQueryResult LiteQueryResult.answer posts
    (queryRequest client.settings text limit credentials requestId)

def detailsRequest (settings : LiteSettings) (issueKeys : List String) (commentsLimit : Int)
    (requestId : String) : Except ClientError HttpRequest := do
  let limit ← checkLimit "comments_limit" (some commentsLimit)
  let request : IssueDetailsRequest :=
    { issueKeys := issueKeys, requestId := some requestId, commentsLimit := limit }
  pure {
    path := settings.issueDetailsPath
    payload := request.modelDump
    headers := buildHeaders settings [] }

def fetchIssueDetailsBatch (client : LiteClientConfig) (issueKeys : List String)
    (commentsLimit : Int) (requestId : String) (posts : Nat → HttpOutcome) :
    RequestRun IssueDetailsResponse :=
  runRequest client client.parsing.validateIssueDetails IssueDetailsResponse.error posts
    (detailsRequest client.settings issueKeys commentsLimit requestId)

/-- `issue_keys[i : i + 50] for i in range(0, len(issue_keys), 50)` -/
def keyChunks (issueKeys : List String) : List (List String) :=
  (List.range ((issueKeys.length + 49) / 50)).map fun chunk => (issueKeys.drop (50 * chunk)).take 50

def mergeDetails (results : List IssueDetailsResponse) : IssueDetailsResponse where
  issues := results.flatMap IssueDetailsResponse.issues
  notFound := results.flatMap IssueDetailsResponse.notFound
  error := results.findSome? IssueDetailsResponse.error

/-- What the network and the clock do in one `get_issue_details` call, batch by
batch. -/
structure DetailsSide where
  posts : Nat → Nat → HttpOutcome
  raisedAt : Nat → Nat
  newRequestId : Nat → String

structure DetailsRun where
  batches : List (RequestRun IssueDetailsResponse)
  outcome : Except ClientError IssueDetailsResponse

/-- `AtlasMindLiteClient.get_issue_details`: the caller's request id is used
when there is one batch. -/
def getIssueDetails (client : LiteClientConfig) (issueKeys : List String)
    (commentsLimit : Option Int) (requestId : Option String) (side : DetailsSide) : DetailsRun :=
  let limit := commentsLimit.getD client.settings.commentsLimitDefault
  let chunks := keyChunks issueKeys
  if chunks.length ≤ 1 then
    let batch := fetchIssueDetailsBatch client (chunks.headD []) limit
      ((truthyText requestId).getD (side.newRequestId 0)) (side.posts 0)
    { batches := [batch], outcome := batch.outcome }
  else
    let batches := chunks.zipIdx.map fun chunk =>
      fetchIssueDetailsBatch client chunk.1 limit (side.newRequestId chunk.2) (side.posts chunk.2)
    { batches := batches
      outcome := (gather side.raisedAt (batches.map RequestRun.outcome)).map mergeDetails }

end AtlasMindNetra.LiteClient
