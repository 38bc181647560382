import RecordListing.Value.Basic
import RecordListing.Text.Quoted

/-!
# Values as text

Every value has a text. A text is its own; inside lists and maps texts are quoted and the other
scalars say what they are.
-/

set_option autoImplicit false

namespace RecordListing

open Text

/-- Whole numbers between commas. -/
def listed (ns : List Nat) : String := joined ", " (ns.map Nat.repr)

namespace Offset

/-- The offset as days and seconds, days being negative west of universal time. -/
def shown (offset : Offset) : String :=
  if offset.micros = 0 then "datetime.timezone.utc"
  else
    let days := offset.micros.fdiv 86400000000
    let rest := (offset.micros - days * 86400000000).toNat
    let parts := [("days", days), ("seconds", (rest / 1000000 : Int)),
      ("microseconds", (rest % 1000000 : Int))]
    let named := (parts.filter (·.2 ≠ 0)).map fun part => part.1 ++ "=" ++ toString part.2
    "datetime.timezone(datetime.timedelta(" ++ joined ", " named ++ "))"

end Offset

namespace Timestamp

/-- All parts; seconds and microseconds are left out while they are zero at the end. -/
def shown (t : Timestamp) : String :=
  let clock := t.clock
  let small :=
    if clock.micros ≠ 0 then [clock.second, clock.micros]
    else if clock.second ≠ 0 then [clock.second]
    else []
  let zone := (t.offset.map fun offset => ", tzinfo=" ++ offset.shown).getD ""
  "datetime.datetime(" ++
    listed ([t.date.year, t.date.month, t.date.day, clock.hour, clock.minute] ++ small) ++
      zone ++ ")"

end Timestamp

namespace Value

mutual

/-- The text of a value inside a list or map. -/
def shown : Value → String
  | .null => "None"
  | .bool b => if b then "True" else "False"
  | .int n => toString n
  | .text s => quoted s
  | .float x => x.text
  | .decimal d => "Decimal(" ++ quoted d.text ++ ")"
  | .special d => "Decimal(" ++ quoted d.text ++ ")"
  | .uuid id => "UUID(" ++ quoted id.text ++ ")"
  | .date d => "datetime.date(" ++ listed [d.year, d.month, d.day] ++ ")"
  | .datetime t => t.shown
  | .member m => "<" ++ m.enumeration ++ "." ++ m.name ++ ": " ++ quoted m.value ++ ">"
  | .list items => "[" ++ joined ", " (shownItems items) ++ "]"
  | .map entries => "\x7b" ++ joined ", " (shownEntries entries) ++ "\x7d"

def shownItems : List Value → List String
  | [] => []
  | item :: items => shown item :: shownItems items

def shownEntries : List (String × Value) → List String
  | [] => []
  | (key, value) :: entries => (quoted key ++ ": " ++ shown value) :: shownEntries entries

end

/-- The text of a value. -/
def toText : Value → String
  | .text s => s
  | .decimal d => d.text
  | .special d => d.text
  | .uuid id => id.text
  | .date d => d.text
  | .datetime t => t.text
  | .member m => m.enumeration ++ "." ++ m.name
  | v => v.shown

/-! ## Kinds -/

/-- What kind of value it is. -/
def kindName : Value → String
  | .null => "NoneType"
  | .bool _ => "bool"
  | .int _ => "int"
  | .text _ => "str"
  | .float _ => "float"
  | .decimal _ | .special _ => "Decimal"
  | .uuid _ => "UUID"
  | .date _ => "date"
  | .datetime _ => "datetime"
  | .member m => m.enumeration
  | .list _ => "list"
  | .map _ => "dict"

/-- What kind of value it is, with the part of the program that it belongs to. -/
def fullKindName (value : Value) : String :=
  match value with
  | .decimal _ | .special _ => "decimal." ++ value.kindName
  | .date _ | .datetime _ => "datetime." ++ value.kindName
  | _ => value.kindName

end Value

end RecordListing
