/-!
# Powers of the two bases

Numbers are kept to base two and written to base ten.
-/

set_option autoImplicit false

namespace RecordListing

def twoTo (n : Nat) : Nat := Nat.pow 2 n

def tenTo (n : Nat) : Nat := Nat.pow 10 n

end RecordListing
