import RecordListing.Failure
import RecordListing.Text.Blank
import RecordListing.Text.Word
import RecordListing.Text.Pieces

/-!
# Redaction

In production the details of an error are shown without whatever looks like the inside of the
program: paths of source files, fragments of SQL, names of schemas and tables.
-/

set_option autoImplicit false

namespace RecordListing

open Text

/-! ## Patterns -/

/-- The small letter of a character of ASCII; the long s is an s. -/
def foldLetter (c : Char) : Char := if c.toNat = 0x17F then 's' else c.toLower

/-- What follows a word at the front, in any case of letters. -/
def afterWord? (word cs : List Char) : Option (List Char) :=
  match word, cs with
  | [], cs => some cs
  | _ :: _, [] => none
  | w :: word, c :: cs => if foldLetter c = w then afterWord? word cs else none

def isPathChar (c : Char) : Bool := isWord c || c == '/' || c == '-'

/-- A slash, a path without dots, and the ending of a source file. -/
def beginsSourcePath : List Char → Bool
  | [] => false
  | c :: cs =>
    (c == '/' || c == '\\') && !(cs.takeWhile isPathChar).isEmpty &&
      (afterWord? ['.', 'p', 'y'] (cs.dropWhile isPathChar)).isSome

/-- The word `SELECT`, and later on the same line the word `FROM`. -/
def beginsQuery (cs : List Char) : Bool :=
  match afterWord? ['s', 'e', 'l', 'e', 'c', 't'] cs with
  | none => false
  | some rest =>
    anyEnd (fun tail => (afterWord? ['f', 'r', 'o', 'm'] tail).isSome) (rest.takeWhile (· != '\n'))

/-- A word, a colon or equals sign, and a name, with blanks between them. -/
def beginsNaming (word cs : List Char) : Bool :=
  match afterWord? word cs with
  | none => false
  | some rest =>
    match rest.dropWhile isBlank with
    | [] => false
    | c :: tail =>
      (c == ':' || c == '=') && ((tail.dropWhile isBlank).head?.map isWord).getD false

/-- Whether the text begins with something of the inside. -/
def beginsSensitive (cs : List Char) : Bool :=
  beginsSourcePath cs || beginsQuery cs || beginsNaming ['s', 'c', 'h', 'e', 'm', 'a'] cs ||
    beginsNaming ['t', 'a', 'b', 'l', 'e'] cs

/-- Whether something of the inside occurs in the text. -/
def isSensitive (s : String) : Bool := anyEnd beginsSensitive s.toList

/-! ## Details -/

def redacted : Value := .text "[REDACTED]"

mutual

/-- The value without sensitive texts. Maps are looked into, lists are not. -/
def redactValue : Value → Value
  | .text s => if isSensitive s then redacted else .text s
  | .member m => if isSensitive m.value then redacted else .member m
  | .map entries => .map (redactEntries entries)
  | value => value

def redactEntries : List (String × Value) → List (String × Value)
  | [] => []
  | (key, value) :: entries => (key, redactValue value) :: redactEntries entries

end

/-- The details as they are shown. In production they must be a map. -/
def shownDetails (production : Bool) (details : Value) : Outcome Value :=
  if production then details.entries.map fun entries => .map (redactEntries entries)
  else .ok details

end RecordListing
