import RecordListing.Value.Shown

/-!
# JSON

JSON documents and their text: members in order, a comma and a blank between entries, a colon and a
blank after a key, and nothing but printable ASCII in strings.
-/

set_option autoImplicit false

namespace RecordListing

open Text

inductive Json
  | null
  | bool (b : Bool)
  | int (n : Int)
  | real (x : Binary64)
  | text (s : String)
  /-- A text by the numbers of its characters, which may be halves of pairs. -/
  | loose (points : List Nat)
  | array (items : List Json)
  | object (members : List (String × Json))

instance : Inhabited Json := ⟨.null⟩

/-- Puts a value under a key: in place of the one it has, else at the end. -/
def putEntry {α : Type} (key : String) (value : α) : List (String × α) → List (String × α)
  | [] => [(key, value)]
  | entry :: entries =>
    if entry.1 = key then (key, value) :: entries else entry :: putEntry key value entries

/-- One entry a key: each at its first place, with its last value. -/
def withoutRepeats {α : Type} (entries : List (String × α)) : List (String × α) :=
  entries.foldl (fun kept entry => putEntry entry.1 entry.2 kept) []

namespace Json

/-- Four hexadecimal digits of a code unit. -/
def unitEscape (unit : Nat) : List Char := '\\' :: 'u' :: hexDigits 4 unit

/-- A character by its number, as code units. One beyond the basic plane has two. -/
def unitEscapes (point : Nat) : List Char :=
  if point < 0x10000 then unitEscape point
  else
    let rest := point - 0x10000
    unitEscape (0xD800 + rest / 0x400) ++ unitEscape (0xDC00 + rest % 0x400)

/-- A character inside a string. -/
def escaped (c : Char) : List Char :=
  if c = '"' then ['\\', '"']
  else if c = '\\' then ['\\', '\\']
  else if c = '\n' then ['\\', 'n']
  else if c = '\r' then ['\\', 'r']
  else if c = '\t' then ['\\', 't']
  else if c.toNat = 0x0C then ['\\', 'f']
  else if c.toNat = 0x08 then ['\\', 'b']
  else if 0x20 ≤ c.toNat ∧ c.toNat ≤ 0x7E then [c]
  else unitEscapes c.toNat

def stringChars (s : String) : List Char := '"' :: s.toList.flatMap escaped ++ ['"']

/-- Whether a number is that of a character. -/
def isPoint (point : Nat) : Bool := (Char.ofNat point).toNat == point

/-- A character by its number, or half of a pair. -/
def escapedPoint (point : Nat) : List Char :=
  if isPoint point then escaped (Char.ofNat point) else unitEscapes point

/-- The numbers of the characters of a text. -/
def points (s : String) : List Nat := s.toList.map Char.toNat

/-- The text whose characters have these numbers. -/
def ofPoints (points : List Nat) : Json :=
  if points.all isPoint then .text (String.ofList (points.map Char.ofNat)) else .loose points

/-- The text of a number; infinities and what is no number have names. -/
def realChars : Binary64 → List Char
  | .nan => "NaN".toList
  | .infinite s => if s then "-Infinity".toList else "Infinity".toList
  | x => x.text.toList

/-- The pieces with a comma and a blank between neighbours. -/
def commaSeparated : List (List Char) → List Char
  | [] => []
  | [piece] => piece
  | piece :: next :: rest => piece ++ ',' :: ' ' :: commaSeparated (next :: rest)

mutual

def chars : Json → List Char
  | .null => "null".toList
  | .bool b => if b then "true".toList else "false".toList
  | .int n => (toString n).toList
  | .real x => realChars x
  | .text s => stringChars s
  | .loose points => '"' :: points.flatMap escapedPoint ++ ['"']
  | .array items => '[' :: commaSeparated (itemChars items) ++ [']']
  | .object members => '\x7b' :: commaSeparated (memberChars members) ++ ['\x7d']

def itemChars : List Json → List (List Char)
  | [] => []
  | item :: items => chars item :: itemChars items

def memberChars : List (String × Json) → List (List Char)
  | [] => []
  | (key, value) :: members =>
    (stringChars key ++ ':' :: ' ' :: chars value) :: memberChars members

end

/-- The text of a document, on one line. -/
def encode (j : Json) : String := String.ofList j.chars

/-- The value of a member of an object. -/
def member? (key : String) : Json → Option Json
  | .object members => members.lookup key
  | _ => none

end Json

end RecordListing
