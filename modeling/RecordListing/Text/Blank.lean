import RecordListing.Text.Range

/-!
# Blanks

The characters that count as blank space, and texts without the blanks around them.
-/

set_option autoImplicit false

namespace RecordListing.Text

/-- The blank characters: controls that move the print position, the four information separators,
and the spaces of every width. -/
def blanks : RangeTable := #[
  (0x09, 0x0D), (0x1C, 0x20), (0x85, 0x85), (0xA0, 0xA0), (0x1680, 0x1680), (0x2000, 0x200A),
  (0x2028, 0x2029), (0x202F, 0x202F), (0x205F, 0x205F), (0x3000, 0x3000)]

def isBlank (c : Char) : Bool := blanks.has c

/-- Blanks that are no information separators. -/
def isSpace (c : Char) : Bool := isBlank c && !(0x1C ≤ c.toNat && c.toNat ≤ 0x1F)

/-- The characters without those of a kind at either end. -/
def stripped (isOut : Char → Bool) (cs : List Char) : List Char :=
  ((cs.dropWhile isOut).reverse.dropWhile isOut).reverse

/-- The characters without the blanks at either end. -/
def trimmed (cs : List Char) : List Char := stripped isBlank cs

/-- The text without the blanks at either end. -/
def trim (s : String) : String := String.ofList (trimmed s.toList)

/-- Whether there is nothing but blanks. -/
def isAllBlank (s : String) : Bool := s.toList.all isBlank

end RecordListing.Text
