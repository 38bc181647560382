import RecordListing.Store.Numeral

/-!
# Cells

What a table holds: nothing, a whole number, a binary number or a text. Nothing comes before
numbers, and numbers come before texts; numbers compare by value, texts by their characters.
-/

set_option autoImplicit false

namespace RecordListing

open Text

inductive Cell
  | null
  | int (n : Int)
  | real (x : Binary64)
  | text (s : String)
deriving DecidableEq, Repr

instance : Inhabited Cell := ⟨.null⟩

/-! ## Truth -/

/-- A comparison with nothing is neither true nor false. -/
inductive Truth
  | yes | no | unknown
deriving DecidableEq, Repr

namespace Truth

def ofBool (b : Bool) : Truth := if b then .yes else .no

def and : Truth → Truth → Truth
  | .no, _ | _, .no => .no
  | .yes, .yes => .yes
  | _, _ => .unknown

def or : Truth → Truth → Truth
  | .yes, _ | _, .yes => .yes
  | .no, .no => .no
  | _, _ => .unknown

def not : Truth → Truth
  | .yes => .no
  | .no => .yes
  | .unknown => .unknown

end Truth

namespace Cell

def isNull (cell : Cell) : Bool := cell = .null

/-! ## Order -/

/-- Order of characters by code point, the shorter text first. -/
def compareChars : List Char → List Char → Ordering
  | [], [] => .eq
  | [], _ :: _ => .lt
  | _ :: _, [] => .gt
  | a :: as, b :: bs => (compare a.toNat b.toNat).then (compareChars as bs)

/-- The total order of cells. -/
def compare : Cell → Cell → Ordering
  | .null, .null => .eq
  | .null, _ => .lt
  | _, .null => .gt
  | .text s, .text t => compareChars s.toList t.toList
  | .text _, _ => .gt
  | _, .text _ => .lt
  | .int m, .int n => Ord.compare m n
  | .real x, .real y => x.compare y
  | .real x, .int n => x.compareInt n
  | .int n, .real x => (x.compareInt n).swap

def le (a b : Cell) : Bool := compare a b != .gt

/-- Whether the order of two cells is as wanted; unknown if one of them is nothing. -/
def test (wanted : Ordering → Bool) (a b : Cell) : Truth :=
  if a.isNull || b.isNull then .unknown else .ofBool (wanted (compare a b))

/-- Whether the cells hold the same thing, and not nothing. -/
def same (a b : Cell) : Bool := test (· == .eq) a b == .yes

/-- Whether the cell is one of the others. -/
def among (cell : Cell) (others : List Cell) : Truth :=
  others.foldr (fun other truth => (test (· == .eq) cell other).or truth) .no

/-- The better of two cells, where `better` is how it compares with the other; nothing is worst. -/
def choose (better : Ordering) (best cell : Cell) : Cell :=
  if cell.isNull then best else if best.isNull || compare cell best == better then cell else best

/-- The least cell that is not nothing. -/
def least (cells : List Cell) : Cell := cells.foldl (choose .lt) .null

/-- The greatest cell that is not nothing. -/
def greatest (cells : List Cell) : Cell := cells.foldl (choose .gt) .null

/-! ## Texts and numbers -/

/-- The characters before the first one that ends a text. -/
def untilEnd (s : String) : List Char := s.toList.takeWhile (·.toNat != 0)

/-- The text of a cell. -/
def toText? : Cell → Option String
  | .null => none
  | .int n => some (toString n)
  | .real x => some x.storedText
  | .text s => some s

/-- The whole numbers that fit into a cell. -/
def fitsInt (n : Int) : Bool := -9223372036854775808 ≤ n && n ≤ 9223372036854775807

/-- A number as a cell that holds numbers keeps it: whole if it is whole and fits, the two outermost
whole numbers aside. -/
def ofReal (x : Binary64) : Cell :=
  match x with
  | .nan => .null
  | x =>
    match x.toInt? with
    | some n => if fitsInt (n - 1) && fitsInt (n + 1) then .int n else .real x
    | none => .real x

/-- The blanks that may stand around a number. -/
def isNumberGap (c : Char) : Bool := c == ' ' || (9 ≤ c.toNat && c.toNat ≤ 13)

/-- The number that a text writes with digits of ASCII, if it writes one. -/
def numberOf? (s : String) : Option Cell :=
  let cs := stripped isNumberGap s.toList
  if cs.any fun c => isDecimalDigit c && !isPlainDigit c then none
  else
    (Numeral.ofChars? cs).map fun numeral =>
      if numeral.plain && fitsInt numeral.toInt then .int numeral.toInt else ofReal numeral.toReal

/-- The cell as a column of numbers takes it: a text that writes a number becomes that number. -/
def asNumber (cell : Cell) : Cell :=
  match cell with
  | .text s => (numberOf? s).getD cell
  | .real x => ofReal x
  | _ => cell

/-- The cell as a column of texts takes it. -/
def asText (cell : Cell) : Cell :=
  match cell.toText? with
  | some s => .text s
  | none => .null

end Cell

end RecordListing
