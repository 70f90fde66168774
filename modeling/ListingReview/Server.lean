import ListingReview.Failure
import ListingReview.Http.MediaType
import ListingReview.Http.Message
import ListingReview.Tally

/-! # The server

The server answers one request at a time. Its state is the count of the decisions it has returned
and whether it is ready; only a submission that comes to a decision changes the count. -/

namespace ListingReview

open Http (Request Response)

namespace Server

/-- What a server remembers between requests. -/
structure State where
  count : Count := {}
  ready : Bool := false
deriving DecidableEq, Repr

/-- What a server has to offer. -/
inductive Route where
  | listings
  | health
  | ready
  | metrics
  | tally
deriving DecidableEq, Repr

/-- The route of a path. -/
def route? (path : String) : Option Route :=
  [("/moderations/listings", Route.listings), ("/health", .health), ("/healthz", .health),
   ("/ready", .ready), ("/metrics", .metrics), ("/metrics/decisions", .tally)].lookup path

/-- The most octets that a body may have. -/
def bodyLimit : Nat := 0x200000

/-- The submission in the body of a request. -/
def readBody (request : Request) : Except BodyFault Submission :=
  if !Http.announcesJson request.contentType then .error .notJson
  else if bodyLimit < request.body.length then .error .tooLarge
  else (Submission.shape.reader.front request.body).mapError .unreadable

/-- The desk behind the server. -/
def desk (policy : Policy) : Desk Count := ⟨policy, Recorder.counting⟩

def failed (failure : Failure) : Response := .json failure.status failure.document

/-- Answers a submission. -/
def moderate (policy : Policy) (request : Request) (count : Count) : Response × Count :=
  match readBody request with
  | .error fault => (failed (.body fault), count)
  | .ok submission =>
    match (desk policy).reviewSubmission count submission with
    | (.error refusal, count') => (failed (.review refusal), count')
    | (.ok decision, count') => (.json 200 decision.document, count')

def statusDocument (status : String) : Json.Document := .object [("status", .text status)]

/-- What is shown on a route that is only looked at. -/
def view (state : State) : Route → Response
  | .listings => .bare 405
  | .health => .json 200 (statusDocument "ok")
  | .ready =>
    if state.ready then .json 200 (statusDocument "ready")
    else .json 503 (statusDocument "initializing")
  | .metrics => ⟨200, some "text/plain; version=0.0.4", .text state.count.series.text⟩
  | .tally => .json 200 state.count.tally.document

/-- Answers a request. -/
def respond (policy : Policy) (request : Request) (state : State) : Response × State :=
  match route? request.path with
  | none => (.bare 404, state)
  | some .listings =>
    if request.method = "POST" then
      let (response, count) := moderate policy request state.count
      (response, { state with count := count })
    else (.bare 405, state)
  | some route =>
    if request.method = "GET" then (view state route, state)
    else if request.method = "HEAD" then ((view state route).head, state)
    else (.bare 405, state)

/-- What happens to a server. -/
inductive Event where
  | readiness (ready : Bool)
  | request (request : Request)

/-- The state after an event, and the answer if the event is a request. -/
def handle (policy : Policy) (state : State) : Event → Option Response × State
  | .readiness ready => (none, { state with ready := ready })
  | .request request =>
    let (response, state') := respond policy request state
    (some response, state')

end Server

end ListingReview
