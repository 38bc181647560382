import RecordListing.Number.Shortest
import RecordListing.Time.Timestamp
import RecordListing.Uuid

/-!
# Values

What a caller supplies and what a record holds: plain data, typed scalars, lists, and maps whose
entries keep their order. Texts are of whole characters, without halves of pairs, and a list is the
only value that holds others without keys.
-/

set_option autoImplicit false

namespace RecordListing

/-- A member of an enumeration. -/
structure Member where
  enumeration : String
  name : String
  /-- The text that stands for the member outside the program. -/
  value : String
deriving DecidableEq, Repr

inductive Value
  | null
  | bool (b : Bool)
  | int (n : Int)
  | text (s : String)
  | float (x : Binary64)
  | decimal (d : Decimal)
  | special (d : SpecialDecimal)
  | uuid (id : Uuid)
  | date (d : Date)
  | datetime (t : Timestamp)
  | member (m : Member)
  | list (items : List Value)
  | map (entries : List (String × Value))

instance : Inhabited Value := ⟨.null⟩

namespace Value

/-- Whether the value is absent. -/
def isNull : Value → Bool
  | .null => true
  | _ => false

/-- Whether the value is the empty text. -/
def isEmptyText : Value → Bool
  | .text s => s.isEmpty
  | .member m => m.value.isEmpty
  | _ => false

/-- Absent, or the empty text. -/
def isBlank (v : Value) : Bool := v.isNull || v.isEmptyText

/-- Whether the value counts as nothing: absent, no, zero or empty. -/
def isNothing : Value → Bool
  | .null => true
  | .bool b => !b
  | .int n => n == 0
  | .text s => s.isEmpty
  | .float x => x.toInt? == some 0
  | .decimal d => d.digits == 0
  | .member m => m.value.isEmpty
  | .list items => items.isEmpty
  | .map entries => entries.isEmpty
  | .special _ | .uuid _ | .date _ | .datetime _ => false

/-- Whether the value is one, as a number. -/
def isOne : Value → Bool
  | .bool b => b
  | .int n => n == 1
  | .float x => x.toInt? == some 1
  | .decimal d => d.isOne
  | _ => false

/-- The whole number that the value is; yes and no are one and zero. -/
def wholeNumber? : Value → Option Int
  | .int n => some n
  | .bool b => some (if b then 1 else 0)
  | _ => none

/-- What going through a value yields: the items of a list, the keys of a map, the characters of a
text. -/
def parts? : Value → Option (List Value)
  | .list items => some items
  | .map entries => some (entries.map fun entry => .text entry.1)
  | .text s => some (s.toList.map fun c => .text c.toString)
  | _ => none

/-- Yes, as a switch says it: the number one, or the text `true` or `1`. -/
def isYes : Value → Bool
  | .text s => s == "true" || s == "1"
  | .member m => m.value == "true" || m.value == "1"
  | v => v.isOne

end Value

end RecordListing
