/-!
# Tables of character ranges

A property of characters is given as the table of its ranges, both ends included.
-/

set_option autoImplicit false

namespace RecordListing.Text

/-- Ranges of code points, both ends included. -/
abbrev RangeTable := Array (Nat × Nat)

/-- Whether the character lies in one of the ranges. -/
def RangeTable.has (table : RangeTable) (c : Char) : Bool :=
  table.any fun range => range.1 ≤ c.toNat && c.toNat ≤ range.2

end RecordListing.Text
