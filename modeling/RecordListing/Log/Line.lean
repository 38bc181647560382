import RecordListing.Log.Template
import RecordListing.Json.OfValue
import RecordListing.Raised

/-!
# Log lines

A log line is one JSON object: when, how severe, from where, what, for which request, which failure,
and under `extra` whatever else the record carries.
-/

set_option autoImplicit false

namespace RecordListing.Log

open RecordListing.Text

/-- The attributes that every record has; any other belongs to `extra`. -/
def reservedAttributes : List String := [
  "name", "msg", "args", "levelname", "levelno", "pathname", "filename", "module", "lineno",
  "funcName", "created", "msecs", "relativeCreated", "thread", "threadName", "processName",
  "process", "taskName", "getMessage", "exc_info", "exc_text", "stack_info"]

/-- A failure as a record carries it. -/
structure Exception where
  type : Json
  message : Json

/-- What a log line is made of. -/
structure Record where
  /-- The attributes that were set, in order. -/
  attributes : List (String × Value)
  exception : Option Exception := none

namespace Record

/-- An attribute, or what it is by default. -/
def get (record : Record) (name : String) (default : Value) : Value :=
  (record.attributes.lookup name).getD default

/-- The message with its arguments in place. An attribute can stand in the way of it. -/
def message (record : Record) : Outcome Json :=
  match record.attributes.lookup "getMessage" with
  | some value => crashWith ⟨.badType, "'" ++ value.fullKindName ++ "' object is not callable"⟩
  | none =>
  let template := (record.get "msg" (.text "")).toText
  let formatted (arguments : Arguments) : Outcome Json :=
    (formatMessage template arguments).map Json.ofPoints
  match record.get "args" (.list []) with
  | .list [] | .map [] => .ok (.text template)
  | .list items => formatted ⟨items, none⟩
  | .map entries => formatted ⟨[.map entries], some entries⟩
  | value => if value.isNothing then .ok (.text template) else formatted ⟨[value], none⟩

/-- Microseconds since the beginning of 1970, a half rounded to the even neighbour. -/
def createdMicros? (created : Value) : Option Int :=
  match created with
  | .int n => some (n * 1000000)
  | .bool b => some (if b then 1000000 else 0)
  | .float (.finite s m e) =>
    let value := Binary64.ratio m e
    let micros :=
      match Binary64.ofRatio false (value.1 % value.2 * 1000000) value.2 with
      | .finite _ m e =>
        let part := Binary64.ratio m e
        roundedQuotient part.1 part.2
      | _ => 0
    let size : Int := (value.1 / value.2 * 1000000 + micros : Nat)
    some (if s then -size else size)
  | _ => none

/-- The failure of a time outside the calendar. Beyond what clocks can count it is another one. -/
def timeFault (micros : Int) : Crash :=
  let seconds := micros / 1000000
  if seconds < -0x8000000000000000 ∨ 0x8000000000000000 ≤ seconds then
    ⟨.overflow, "time out of range"⟩
  else if seconds < -67768040609740800 ∨ 67768036191676800 ≤ seconds then
    ⟨.other "OSError", "time too large"⟩
  else ⟨.badValue, "year is out of range"⟩

/-- The time at which the record was made. -/
def timestamp (record : Record) : Outcome String :=
  let created := record.get "created" (.float (.zero false))
  match createdMicros? created, created with
  | some micros, _ =>
    let time? := if -62135596800000000 ≤ micros then Timestamp.ofEpochMicros? micros else none
    match time? with
    | some time => .ok time.isoText
    | none => crashWith (timeFault micros)
  | none, .float .nan => crashWith ⟨.badValue, "no time"⟩
  | none, .float _ => crashWith ⟨.overflow, "time out of range"⟩
  | none, _ => crashWith ⟨.badType, "a number is required"⟩

/-- The attributes that are not those of every record. -/
def extra (record : Record) : List (String × Value) :=
  record.attributes.filter fun entry => !reservedAttributes.contains entry.1

/-- The members of the log line, in order. -/
def members (record : Record) (requestId : Value) (timestamp : String) (message : Json)
    (exception : Option Exception) : List (String × Json) :=
  let extra := record.extra
  [("timestamp", .text timestamp),
    ("level", Json.ofValue (record.get "levelname" (.text "INFO"))),
    ("logger", Json.ofValue (record.get "name" (.text "fieldops"))),
    ("message", message)] ++
  (if requestId.isNothing then [] else [("request_id", Json.ofValue requestId)]) ++
  (match exception with
    | none => []
    | some exception =>
      [("exception", .object [("type", exception.type), ("message", exception.message)])]) ++
  [("function", Json.ofValue (record.get "funcName" (.text "f"))),
    ("line", Json.ofValue (record.get "lineno" (.int 1)))] ++
  (if extra.isEmpty then [] else [("extra", .object (Json.ofEntries extra))])

/-- The failure in an attribute that lists the type of a failure and the failure itself. A type that
is there is none of a failure. -/
def exceptionIn (value : Value) : Outcome (Option Exception) :=
  if value.isNothing then .ok none
  else
    match value with
    | .list (type :: rest) =>
      if !type.isNothing then crashWith (.noAttribute type "__name__")
      else
        match rest with
        | [] => crashWith ⟨.other "IndexError", "list index out of range"⟩
        | reason :: _ =>
          .ok (some ⟨.null, if reason.isNothing then .null else .text reason.toText⟩)
    | .text _ => crashWith (.noAttribute value "__name__")
    | .map _ => crashWith ⟨.other "KeyError", "0"⟩
    | value => crashWith ⟨.badType, "'" ++ value.fullKindName ++ "' object is not subscriptable"⟩

/-- The failure that the record carries. -/
def carried (record : Record) : Outcome (Option Exception) :=
  match record.exception with
  | some exception => .ok (some exception)
  | none => exceptionIn (record.get "exc_info" .null)

/-- The log line of a record made during a request. -/
def line (record : Record) (requestId : Value) : Outcome String := do
  let timestamp ← record.timestamp
  let message ← record.message
  let exception ← record.carried
  return (Json.object (record.members requestId timestamp message exception)).encode

end Record

/-- The failure of this name and these arguments, as a record carries it. -/
def Exception.ofArguments (name : Option String) (arguments : List Value) : Outcome Exception :=
  match name with
  | none => .ok ⟨.null, .null⟩
  | some name =>
    (Raised.ofArguments name arguments).map fun raised =>
      ⟨.text raised.label, .text raised.message⟩

/-- A record from attributes; a repeated one keeps its first place and its last value. The attribute
`exception` carries the name and the arguments of a failure. -/
def Record.ofAttributes (attributes : List (String × Value)) : Outcome Record :=
  let set := withoutRepeats attributes
  match set.lookup "exception" with
  | some (.map entries) =>
    let name :=
      match entries.lookup "type" with
      | some (.text name) => some name
      | _ => none
    let arguments :=
      match entries.lookup "args" with
      | some (.list items) => items
      | _ => []
    (Exception.ofArguments name arguments).map fun exception =>
      { attributes := set.filter (·.1 ≠ "exception"), exception := some exception }
  | _ => .ok { attributes := set }

end RecordListing.Log
