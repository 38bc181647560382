/-!
# Cutting and joining

Cutting a text at a separator and joining pieces with one undo each other. Substrings are found
and removed from left to right.
-/

set_option autoImplicit false

namespace RecordListing.Text

/-- The stretches between the separators; there is always at least one. -/
def cutAt (sep : Char) : List Char → List (List Char)
  | [] => [[]]
  | c :: cs =>
    if c = sep then [] :: cutAt sep cs
    else
      match cutAt sep cs with
      | [] => [[c]]
      | piece :: rest => (c :: piece) :: rest

/-- The pieces of a text between the separators. -/
def pieces (sep : Char) (s : String) : List String := (cutAt sep s.toList).map String.ofList

/-- The pieces with the separator between neighbours. -/
def joined (sep : String) : List String → String
  | [] => ""
  | [s] => s
  | s :: t :: rest => s ++ sep ++ joined sep (t :: rest)

/-- What stands before the first separator and what stands after it. -/
def cutOnce (sep : Char) : List Char → Option (List Char × List Char)
  | [] => none
  | c :: cs =>
    if c = sep then some ([], cs)
    else (cutOnce sep cs).map fun parts => (c :: parts.1, parts.2)

/-- What stands before the last separator and what stands after it. -/
def cutLast (sep : Char) : List Char → Option (List Char × List Char)
  | [] => none
  | c :: cs =>
    match cutLast sep cs with
    | some parts => some (c :: parts.1, parts.2)
    | none => if c = sep then some ([], cs) else none

/-- Whether the predicate holds of some end stretch of the list, the whole and the empty one
included. -/
def anyEnd (holds : List Char → Bool) : List Char → Bool
  | [] => holds []
  | c :: cs => holds (c :: cs) || anyEnd holds cs

/-- Whether `part` occurs in the text. -/
def occursIn (part cs : List Char) : Bool := anyEnd (part.isPrefixOf ·) cs

/-- What follows `start`, if the text begins with it. -/
def after? : (start cs : List Char) → Option (List Char)
  | [], cs => some cs
  | _ :: _, [] => none
  | s :: start, c :: cs => if s = c then after? start cs else none

/-- Whether the text ends with `part`. -/
def endsWith (part cs : List Char) : Bool := part.reverse.isPrefixOf cs.reverse

/-- The text without the repetitions of a character at its end. -/
def withoutEnding (out : Char) (s : String) : String :=
  String.ofList (s.toList.reverse.dropWhile (· == out)).reverse

/-- Leaves out every occurrence of `part`, from left to right; `skip` characters of one already
found are still to be left out. -/
def withoutFrom (part : List Char) : (skip : Nat) → List Char → List Char
  | _, [] => []
  | skip + 1, _ :: cs => withoutFrom part skip cs
  | 0, c :: cs =>
    if part.isPrefixOf (c :: cs) then withoutFrom part (part.length - 1) cs
    else c :: withoutFrom part 0 cs

/-- The text without the occurrences of `part`. -/
def without (part cs : List Char) : List Char := withoutFrom part 0 cs

/-- The number padded with zeros to at least `width` digits. -/
def padded (width n : Nat) : String :=
  let digits := Nat.repr n
  String.ofList (List.replicate (width - digits.length) '0') ++ digits

end RecordListing.Text
