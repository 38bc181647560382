import RecordListing.Json.Basic
import RecordListing.Failure

/-!
# Values and JSON

Three ways from values to documents: by text where JSON has no form of its own, with numbers for
decimals as answers show them, and strictly. The way back is one.
-/

set_option autoImplicit false

namespace RecordListing

namespace Json

mutual

/-- The document of a value; what JSON has no form for is written as text. -/
def ofValue : Value → Json
  | .null => .null
  | .bool b => .bool b
  | .int n => .int n
  | .text s => .text s
  | .float x => .real x
  | .decimal d => .text d.text
  | .special d => .text d.text
  | .uuid id => .text id.text
  | .date d => .text d.text
  | .datetime t => .text t.text
  | .member m => .text m.value
  | .list items => .array (ofItems items)
  | .map entries => .object (ofEntries entries)

def ofItems : List Value → List Json
  | [] => []
  | item :: items => ofValue item :: ofItems items

def ofEntries : List (String × Value) → List (String × Json)
  | [] => []
  | (key, value) :: entries => (key, ofValue value) :: ofEntries entries

end

/-- A decimal as a number: whole if it has no places, else the nearest binary one. -/
def ofDecimal (d : Decimal) : Json :=
  if 0 ≤ d.exponent then .int d.truncate else .real (.ofDecimal d)

mutual

/-- The document of a value in an answer. Numbers that are infinite or none are left out. -/
def answer : Value → Json
  | .decimal d => ofDecimal d
  | .special _ | .float .nan | .float (.infinite _) => .null
  | .datetime t => .text t.isoText
  | .list items => .array (answerItems items)
  | .map entries => .object (answerEntries entries)
  | value => ofValue value

def answerItems : List Value → List Json
  | [] => []
  | item :: items => answer item :: answerItems items

def answerEntries : List (String × Value) → List (String × Json)
  | [] => []
  | (key, value) :: entries => (key, answer value) :: answerEntries entries

end

mutual

/-- The document of a value, which fails at the first part that JSON has no form for. Numbers that
are infinite or none have one, unless all are to be `finite`. -/
def strict (finite : Bool) : Value → Except Crash Json
  | .null => .ok .null
  | .bool b => .ok (.bool b)
  | .int n => .ok (.int n)
  | .text s => .ok (.text s)
  | .member m => .ok (.text m.value)
  | .float x =>
    if finite && !x.isFinite then
      .error ⟨.badValue, "Out of range float values are not JSON compliant"⟩
    else .ok (.real x)
  | .list items => (strictItems finite items).map .array
  | .map entries => (strictEntries finite entries).map .object
  | value => .error ⟨.badType, "Object of type " ++ value.kindName ++ " is not JSON serializable"⟩

def strictItems (finite : Bool) : List Value → Except Crash (List Json)
  | [] => .ok []
  | item :: items => do
    let j ← strict finite item
    return j :: (← strictItems finite items)

def strictEntries (finite : Bool) : List (String × Value) → Except Crash (List (String × Json))
  | [] => .ok []
  | (key, value) :: entries => do
    let j ← strict finite value
    return (key, j) :: (← strictEntries finite entries)

end

/-- The document of a value, if JSON has a form for all of it. -/
def ofValue? (value : Value) : Option Json := (strict false value).toOption

mutual

/-- The value that a document holds. -/
def toValue : Json → Value
  | .null => .null
  | .bool b => .bool b
  | .int n => .int n
  | .real x => .float x
  | .text s => .text s
  | .loose points => .text (String.ofList (points.map Char.ofNat))
  | .array items => .list (itemValues items)
  | .object members => .map (memberValues members)

def itemValues : List Json → List Value
  | [] => []
  | item :: items => toValue item :: itemValues items

def memberValues : List (String × Json) → List (String × Value)
  | [] => []
  | (key, value) :: members => (key, toValue value) :: memberValues members

end

end Json

end RecordListing
