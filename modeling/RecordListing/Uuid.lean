import RecordListing.Text.Blank
import RecordListing.Text.Digit
import RecordListing.Text.Pieces
import RecordListing.Text.Quoted

/-!
# Universally unique identifiers

An identifier is a number of 128 bits. Its text has 32 hexadecimal digits, in five groups between
hyphens or, in its compact form, without them. Reading is lenient: hyphens may stand anywhere, with
braces around and a scheme in front.
-/

set_option autoImplicit false

namespace RecordListing

open Text

structure Uuid where
  bits : BitVec 128
deriving DecidableEq, Repr

/-- The value of a hexadecimal digit; decimal digits may be of any script. -/
def hexValue? (c : Char) : Option Nat :=
  if 'a' ≤ c ∧ c ≤ 'f' then some (c.toNat - 'a'.toNat + 10)
  else if 'A' ≤ c ∧ c ≤ 'F' then some (c.toNat - 'A'.toNat + 10)
  else digitValue? c

/-- The number that hexadecimal digits denote, with single underscores between digits. -/
def readHexDigits? (cs : List Char) : Option Nat :=
  let group? (piece : List Char) : Option (List Nat) :=
    if piece.isEmpty then none else piece.mapM hexValue?
  ((cutAt '_' cs).mapM group?).map fun groups => groups.flatten.foldl (fun n d => n * 16 + d) 0

/-- Leaves out a leading `0x`, and one underscore after it. -/
def withoutHexMark : List Char → List Char
  | '0' :: 'x' :: '_' :: cs | '0' :: 'X' :: '_' :: cs => cs
  | '0' :: 'x' :: cs | '0' :: 'X' :: cs => cs
  | cs => cs

/-- Leaves out a leading plus sign. -/
def withoutPlus : List Char → List Char
  | '+' :: cs => cs
  | cs => cs

namespace Uuid

/-- The identifier with the number; those of 32 digits to base 16 all fit. -/
def ofNumber (n : Nat) : Uuid := ⟨BitVec.ofNat 128 n⟩

def isBrace (c : Char) : Bool := c == '\x7b' || c == '\x7d'

/-- What is left of a text without scheme, braces around it and hyphens. -/
def essence (cs : List Char) : List Char :=
  let bare := without "uuid:".toList (without "urn:".toList cs)
  let unbraced := ((bare.dropWhile isBrace).reverse.dropWhile isBrace).reverse
  unbraced.filter (· != '-')

/-- The identifier that a text names: 32 characters that write a number to base 16. -/
def read? (cs : List Char) : Option Uuid :=
  let digits := essence cs
  if digits.length = 32 then
    (readHexDigits? (withoutHexMark (withoutPlus (stripped isSpace digits)))).map ofNumber
  else none

/-- The 32 digits. -/
def compactChars (id : Uuid) : List Char := hexDigits 32 id.bits.toNat

def compact (id : Uuid) : String := String.ofList id.compactChars

/-- Groups of 8, 4, 4, 4 and 12 digits between hyphens. -/
def text (id : Uuid) : String :=
  let ds := id.compactChars
  String.ofList (ds.take 8 ++ '-' :: (ds.drop 8).take 4 ++ '-' :: (ds.drop 12).take 4 ++
    '-' :: (ds.drop 16).take 4 ++ '-' :: ds.drop 20)

end Uuid

end RecordListing
