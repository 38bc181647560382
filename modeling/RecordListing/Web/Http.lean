import RecordListing.Records.Journal
import RecordListing.Records.Session
import RecordListing.Raised
import RecordListing.Web.QueryString
import RecordListing.Web.Redaction
import RecordListing.Web.Resource
import RecordListing.Web.Origin
import RecordListing.Json.OfValue

/-!
# Requests over HTTP

Every request is served in a session of its own: what it changes is kept if it is answered, and
dropped if it fails. Refusals become answers with a status; a failure that nobody foresaw becomes a
plain answer and goes through to the server.
-/

set_option autoImplicit false

namespace RecordListing

open Text
open Log (Event)

/-- What a request is served with. -/
structure Surroundings where
  settings : Settings
  registry : Registry
  now : Timestamp
  databaseReachable : Bool := true
  /-- What every listing fails with, if anything. -/
  listingFault : Option Raised := none
  /-- What writing changes to the database fails with, if anything. -/
  writeFault : Option Crash := none

/-! ## Serving -/

/-- What serving a request came to. -/
structure Served where
  /-- The status and the body, or what was raised. -/
  reply : Except Raised (Int × Json)
  database : Database
  metrics : Metrics
  events : List Event := []
  contentType : String := "application/json"

def detail (reason : String) : Json := .object [("detail", .text reason)]

/-- A request that needs no database. -/
def served (db : Database) (metrics : Metrics) (status : Int) (body : Json) : Served :=
  { reply := .ok (status, body), database := db, metrics }

/-- The request for a listing that the parameters make. -/
def listingRequest (request : HttpRequest) (brackets : BracketParams) (withDeleted : Bool) :
    Request where
  search := request.parameter "search"
  page := request.parameter "page"
  limit := request.parameter "limit"
  sortBy := request.parameter "sortBy"
  sortOrder := request.parameter "sortOrder"
  relations := .list ((splitList (request.parameters "relations")).map .text)
  searchFields := .list ((splitList (request.parameters "searchFields")).map .text)
  filters := .map brackets.filters
  orFilters := .list (brackets.groups.map .map)
  withDeleted

/-- The records of a page in an answer. -/
def pageJson (db : Database) (registry : Registry) (entity : String) (relations : List String)
    (page : Page) : Outcome Json := do
  let entity ← registry.get entity
  let records ← page.rows.mapM (recordOf db registry entity relations)
  return .object [("total_records", .int page.total), ("current_page", .int page.current),
    ("per_page", .int page.perPage),
    ("records", .array (records.map fun record => .object (Json.answerEntries record)))]

def replyOf (outcome : Outcome Json) : Except Raised (Int × Json) :=
  match outcome with
  | .ok body => .ok (200, body)
  | .error reason => .error (.failure reason)

/-- What is served by work in the session of a request. -/
def servedInSession (db : Database) (metrics : Metrics) (work : Work Raised (Int × Json)) :
    Served :=
  let (reply, database) := inSession work db
  { reply, database, metrics }

def serveListing (around : Surroundings) (db : Database) (metrics : Metrics)
    (request : HttpRequest) (entity : String) : Served :=
  match request.switch "withDeleted" with
  | .error body => served db metrics 422 body
  | .ok withDeleted =>
    match readBrackets request.query, around.listingFault with
    | .error reason, _ => servedInSession db metrics fun db => (.error (.failure reason), db)
    | .ok _, some raised => servedInSession db metrics fun db => (.error raised.escaping, db)
    | .ok brackets, none =>
      let listing := listingRequest request brackets withDeleted
      let defaults := around.settings.listing
      let (run, metrics) := callListing defaults around.registry db entity listing metrics
      let relations := splitList (request.parameters "relations")
      { servedInSession db metrics fun db =>
          (replyOf (run.result >>= pageJson db around.registry entity relations), db) with
        events := listingEvents defaults around.registry entity listing run }

def serveRecord (around : Surroundings) (db : Database) (metrics : Metrics)
    (request : HttpRequest) (entity id : String) : Served :=
  match request.switch "withDeleted" with
  | .error body => served db metrics 422 body
  | .ok withDeleted =>
    let relations := splitList (request.parameters "relations")
    let found := findRecord db around.registry entity (.text id) relations withDeleted
    let body := do
      let (entity, row) ← found
      let record ← recordOf db around.registry entity relations row
      return Json.object (Json.answerEntries record)
    { servedInSession db metrics fun db => (replyOf body, db) with
      events := findEvents around.registry entity (.text id) relations (failureOf? found) }

/-- What a change comes to once it is written to the database. -/
def Surroundings.written {α : Type} (around : Surroundings) (outcome : Outcome α) : Outcome α :=
  match outcome, around.writeFault with
  | .ok _, some crash => crashWith crash
  | outcome, _ => outcome

/-- The change that a deletion asks for. -/
def Surroundings.deletion (around : Surroundings) (entity id : String) (soft : Bool)
    (db : Database) : Outcome Change :=
  if soft then softDeleteRecord db around.registry around.now entity (.text id)
  else deleteRecord db around.registry around.now entity (.text id)

def serveDeletion (around : Surroundings) (db : Database) (metrics : Metrics)
    (request : HttpRequest) (entity id : String) : Served :=
  match request.switch "soft" with
  | .error body => served db metrics 422 body
  | .ok soft =>
    let change := around.deletion entity id soft
    { servedInSession db metrics ((changeWork change).andThen fun outcome =>
          replyOf ((around.written outcome).map fun message =>
            .object [("message", .text message)])) with
      events := changeEvents around.registry entity (.text id)
        (if soft then "Soft-deleted" else "Deleted") (around.written (change db)) }

/-- Whether the program can reach its database. -/
def serveReadiness (around : Surroundings) (db : Database) (metrics : Metrics) : Served :=
  if around.databaseReachable then
    served db metrics 200 (.object [("ok", .bool true), ("db", .text "ok"),
      ("entities", .int around.registry.names.length)])
  else
    { served db metrics 503 (.object [("ok", .bool false), ("db", .text "unavailable")]) with
      events := [⟨.error, "fieldops.api.routes.health",
        "Health check failed: database unavailable", []⟩] }

/-- The lines that announce the families of metrics. -/
def serveMetrics (db : Database) (metrics : Metrics) : Served :=
  let lines := metricFamilies.map fun (name, kind) => Json.text ("# TYPE " ++ name ++ " " ++ kind)
  { served db metrics 200 (.array lines) with
    contentType := "text/plain; version=0.0.4; charset=utf-8" }

/-- Serves a request, whatever comes of it. -/
def serve (around : Surroundings) (db : Database) (metrics : Metrics) (request : HttpRequest) :
    Served :=
  match resourceOf? around.settings.observed request.path with
  | none =>
    if endsInStraySlash around.settings.observed request.path then
      served db metrics 307 (.text "")
    else served db metrics 404 (detail "Not Found")
  | some resource =>
    if !resource.methods.contains request.method then
      served db metrics 405 (detail "Method Not Allowed")
    else
      match resource with
      | .description => { served db metrics 200 (.text "") with contentType := "text/html" }
      | .health => served db metrics 200 (.object [("ok", .bool true)])
      | .readiness => serveReadiness around db metrics
      | .metrics => serveMetrics db metrics
      | .listing entity => serveListing around db metrics request entity
      | .record entity id =>
        if request.method = "DELETE" then serveDeletion around db metrics request entity id
        else serveRecord around db metrics request entity id

/-! ## Failures as answers -/

def mainLogger : String := "fieldops.main"

def requestLogger : String := "fieldops.request"

/-- The body that tells of a failure, if it can be written. -/
def errorBody (label : String) (message details : Value) : Outcome Json :=
  let body : Value := .map [("error", .text label), ("message", message), ("details", details)]
  (Json.strict true body).mapError Failure.crash

/-- The part of a header, if its characters have one byte each. -/
def headerPart (s : String) : Outcome String :=
  let before := s.toList.takeWhile (·.toNat < 0x100)
  let beyond := (s.toList.drop before.length).takeWhile (0x100 ≤ ·.toNat)
  let fault (place : String) : Outcome String :=
    crashWith ⟨.other "UnicodeEncodeError",
      "'latin-1' codec can't encode " ++ place ++ ": ordinal not in range(256)"⟩
  match beyond with
  | [] => .ok s
  | [c] => fault ("character '" ++ asciiOnly (String.singleton c) ++ "' in position " ++
      Nat.repr before.length)
  | _ => fault ("characters in position " ++ Nat.repr before.length ++ "-" ++
      Nat.repr (before.length + beyond.length - 1))

/-- Headers as they are given, if they can be written. -/
def readHeaders (headers : Value) : Outcome (List (String × String)) :=
  if headers.isNull then .ok []
  else do
    let entries ← headers.entries
    entries.mapM fun (name, value) => do
      let name ← headerPart (lower name)
      return (name, ← headerPart (← value.asText "encode"))

/-- An answer that tells of a failure. -/
structure ErrorAnswer where
  status : Int
  body : Json
  headers : List (String × String) := []

/-- What a failure that was raised comes to: what it tells, and its answer. It has none if nobody
foresaw it, or if the answer cannot be written. -/
def answerRaised (around : Surroundings) (request : HttpRequest) (raised : Raised) :
    List Event × Outcome ErrorAnswer :=
  let place := [("path", Value.text request.shownPath), ("method", .text request.method)]
  match raised with
  | .failure (.crash crash) => ([], crashWith crash)
  | .failure (.refusal reason) =>
    ([⟨if 500 ≤ reason.status then .error else .warning, mainLogger,
      reason.label ++ ": " ++ reason.message.toText, ("details", reason.details) :: place⟩], do
      let details ← shownDetails (around.settings.environment = .production) reason.details
      let body ← errorBody reason.label reason.message details
      return { status := reason.status, body })
  | .status (.int code) reason headers =>
    (if code < 500 then []
    else [⟨.error, mainLogger, "HTTP " ++ toString code ++ ": " ++ reason.toText, place⟩], do
      let body ← errorBody raised.label reason (.map [])
      return { status := code, body, headers := ← readHeaders headers })
  | .status code _ _ =>
    ([], crashWith ⟨.badType, "'>=' not supported between instances of '" ++ code.kindName ++
      "' and 'int'"⟩)

/-- Paths that are not told of in the log. -/
def isQuietPath (path : String) : Bool :=
  ["/health", "/readyz", "/metrics"].any fun ending => endsWith ending.toList path.toList

def requestEvents (around : Surroundings) (request : HttpRequest) (status : Int) : List Event :=
  if !around.settings.observed || isQuietPath request.shownPath then []
  else
    [⟨.info, requestLogger, request.method ++ " " ++ request.shownPath,
      [("method", .text request.method), ("route", .text request.shownPath),
        ("status_code", .int status)]⟩]

/-- What a failure that nobody foresaw tells. -/
def crashEvents (around : Surroundings) (request : HttpRequest) (failure : Failure) : List Event :=
  (if around.settings.observed then
    [⟨.error, requestLogger,
      request.method ++ " " ++ request.shownPath ++ " - " ++ failure.label ++ ": " ++
        failure.message,
      [("method", .text request.method), ("route", .text request.shownPath),
        ("status_code", .int 500), ("error_type", .text failure.label)]⟩]
  else []) ++
    [⟨.error, mainLogger, "Unhandled exception: " ++ failure.message,
      [("path", .text request.shownPath), ("method", .text request.method)]⟩]

/-- The answer to a failure that nobody foresaw. -/
def crashResponse : HttpResponse where
  status := 500
  body := .object [("error", .text "InternalServerError"),
    ("message", .text "An unexpected error occurred"), ("details", .object [])]

/-! ## Exchanges -/

/-- What is left of a request: the answer, the database and the metrics, and what was told. -/
structure Exchange where
  response : HttpResponse
  database : Database
  metrics : Metrics
  events : List Event

def requestIdHeader : String := "x-request-id"

/-- What the request is counted under. -/
def HttpRequest.route (request : HttpRequest) : Route := ⟨request.method, request.shownPath⟩

/-- What is left of a request that was served. It is counted out as it ended: with the status of its
answer, or with a failure that goes through to the server. -/
def conclude (around : Surroundings) (request : HttpRequest) (served : Served) : Exchange :=
  let observed := around.settings.observed
  let finish (ending : Ending) : Metrics :=
    if observed then served.metrics.finish request.route ending else served.metrics
  let answered (answer : ErrorAnswer) (told : List Event) : Exchange :=
    { response :=
        { status := answer.status
          body := if request.method = "HEAD" then .text "" else answer.body
          contentType := served.contentType
          requestId :=
            if observed then request.header? requestIdHeader
            else headerIn? answer.headers requestIdHeader
          allowedOrigin :=
            (around.settings.allowedOrigin? request).orElse fun _ =>
              headerIn? answer.headers allowedOriginHeader }
      database := served.database
      metrics := finish (.answered answer.status)
      events := served.events ++ told ++ requestEvents around request answer.status }
  match served.reply with
  | .ok (status, body) => answered { status, body } []
  | .error raised =>
    match answerRaised around request raised with
    | (told, .ok answer) => answered answer told
    | (told, .error failure) =>
      { response := crashResponse
        database := served.database
        metrics := finish (.escaped failure.label)
        events := served.events ++ told ++ crashEvents around request failure }

/-- Serves a request and counts it. -/
def exchangeCounted (around : Surroundings) (db : Database) (metrics : Metrics)
    (request : HttpRequest) : Exchange :=
  let begun := if around.settings.observed then metrics.begin request.route else metrics
  conclude around request (serve around db begun request)

/-- Answers a request. One that asks whether another may be made is neither served nor counted. -/
def exchange (around : Surroundings) (db : Database) (metrics : Metrics) (request : HttpRequest) :
    Exchange :=
  let request := request.normal
  match preflight? around.settings request with
  | some response => ⟨response, db, metrics, []⟩
  | none => exchangeCounted around db metrics request

end RecordListing
