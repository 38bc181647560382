import RecordListing.Text.Pieces

/-!
# Patterns

A pattern holds two wildcards: a percent sign stands for any run of characters, an underscore for
any one. There is no escape, and letters of ASCII match in either case.
-/

set_option autoImplicit false

namespace RecordListing.Text

/-- Whether the two characters are one letter of ASCII in either case, or the same character. -/
def sameLetter (a b : Char) : Bool := a.toLower == b.toLower

/-- Whether a text has the form that the pattern describes. -/
def fits : (pattern text : List Char) → Bool
  | [] => List.isEmpty
  | p :: pattern =>
    if p = '%' then anyEnd (fits pattern)
    else fun
      | [] => false
      | c :: cs => (p == '_' || sameLetter p c) && fits pattern cs

/-- The pattern of all texts that hold the given one. -/
def holding (s : String) : String := "%" ++ s ++ "%"

end RecordListing.Text
