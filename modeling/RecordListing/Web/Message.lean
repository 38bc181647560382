import RecordListing.Json.Basic
import RecordListing.Settings.Field
import RecordListing.Text.Case

/-!
# Requests and answers

What a client sends and what it gets back.
-/

set_option autoImplicit false

namespace RecordListing

open Text

structure HttpRequest where
  method : String
  path : String
  query : List (String × String) := []
  headers : List (String × String) := []

structure HttpResponse where
  status : Int
  /-- A document; an answer that is none is a text. -/
  body : Json
  contentType : String := "application/json"
  requestId : Option String := none
  allowedOrigin : Option String := none

/-- The value of a header, its name in any case of letters. -/
def headerIn? (headers : List (String × String)) (name : String) : Option String :=
  (headers.find? fun entry => lowerAscii entry.1 = lowerAscii name).map (·.2)

namespace HttpRequest

/-- The request with its method in capitals and a path that begins with a slash. -/
def normal (request : HttpRequest) : HttpRequest :=
  let path := if request.path.toList.head? = some '/' then request.path else "/" ++ request.path
  { request with method := request.method.toUpper, path }

/-- Fails for headers that are not all ASCII. -/
def checkHeaders (request : HttpRequest) : Outcome Unit :=
  if request.headers.all fun entry => entry.2.toList.all (·.toNat < 0x80) then .ok ()
  else crashWith ⟨.other "UnicodeEncodeError", "ordinal not in range(128)"⟩

/-- The path as an address shows it: what would end it is escaped, tabs and line ends are left
out. -/
def shownPath (request : HttpRequest) : String :=
  String.ofList (request.path.toList.flatMap fun c =>
    if c = '?' then ['%', '3', 'F']
    else if c = '#' then ['%', '2', '3']
    else if c = '\t' ∨ c = '\n' ∨ c = '\r' then []
    else [c])

/-- The header of this name, in any case of letters. -/
def header? (request : HttpRequest) (name : String) : Option String :=
  headerIn? request.headers name

end HttpRequest

/-! ## Parameters -/

/-- All values of a parameter. -/
def HttpRequest.parameters (request : HttpRequest) (name : String) : List String :=
  (request.query.filter (·.1 = name)).map (·.2)

/-- The last value of a parameter. -/
def HttpRequest.parameter (request : HttpRequest) (name : String) : Value :=
  ((request.parameters name).getLast?.map Value.text).getD .null

/-- A parameter that switches something on; a text that is no switch is shown in the answer. -/
def HttpRequest.switch (request : HttpRequest) (name : String) : Except Json Bool :=
  match (request.parameters name).getLast? with
  | none => .ok false
  | some text =>
    match readSwitch? text with
    | some b => .ok b
    | none =>
      .error (.object [("detail", .array [.object [
        ("type", .text SettingFault.unknownBool.code),
        ("loc", .array [.text "query", .text name]),
        ("msg", .text SettingFault.unknownBool.message), ("input", .text text)]])])

end RecordListing
