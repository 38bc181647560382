import RecordListing.Failure
import RecordListing.Text.Blank

/-!
# Pages

A page is a window on the sorted records: so many of them, after those of the pages before.
-/

set_option autoImplicit false

namespace RecordListing

open Text

structure Window where
  page : Nat
  /-- How many records are shown. -/
  limit : Int
  page_pos : 1 ≤ page
deriving DecidableEq, Repr

/-- How many records the pages before hold. -/
def Window.offset (window : Window) : Int := (window.page - 1 : Nat) * window.limit

/-- The part of a list that the window shows; a limit below zero is none. -/
def Window.cut {α : Type} (window : Window) (items : List α) : List α :=
  let rest := items.drop window.offset.toNat
  if window.limit < 0 then rest else rest.take window.limit.toNat

/-- The digits of a whole number, optionally with a point and zeros behind it, and whether there is
a minus in front. -/
def wholeDigits? (cs : List Char) : Option (Bool × List Nat) :=
  let sign := takeSign cs
  let digits := takeDigits sign.2
  let complete :=
    match digits.2 with
    | [] => true
    | c :: rest => c == '.' && rest.all (· == '0')
  if digits.1.isEmpty || !complete then none else some (sign.1, digits.1)

/-- A whole number as a positive one; `refused` is what comes of any other. -/
def positiveOr (refused : Refusal) (n : Int) : Outcome (Option { n : Nat // 1 ≤ n }) :=
  if h : 1 ≤ n then .ok (some ⟨n.toNat, by omega⟩) else refuse refused

/-- The positive number that characters write; `refused` is what comes of any others. -/
def readPositiveOr (refused : Refusal) (cs : List Char) : Outcome (Option { n : Nat // 1 ≤ n }) :=
  match wholeDigits? cs with
  | none => refuse refused
  | some (negative, digits) =>
    if Crash.digitLimit < digits.length then crashWith (.tooManyDigits digits.length)
    else
      positiveOr refused (if negative then -(ofDigitValues digits : Int) else ofDigitValues digits)

/-- The positive number that a parameter gives; none if it is absent or blank. -/
def readPositive? (parameter : String) (value : Value) : Outcome (Option { n : Nat // 1 ≤ n }) :=
  let refused := Refusal.invalidPagination parameter value
  match value with
  | .null => .ok none
  | .bool _ => refuse refused
  | .int n => positiveOr refused n
  | .text s => if isAllBlank s then .ok none else readPositiveOr refused (trimmed s.toList)
  | value => readPositiveOr refused (trimmed value.toText.toList)

/-- The window that a request asks for. A limit that it leaves out is the usual one. -/
def readWindow (page limit : Value) (usualLimit : Option Int) : Outcome Window := do
  let page? ← readPositive? "page" page
  let limit? ← readPositive? "limit" limit
  let page := page?.getD ⟨1, Nat.le_refl 1⟩
  match (limit?.map fun n => (n.1 : Int)).orElse fun _ => usualLimit with
  | some limit => return ⟨page, limit, page.2⟩
  | none => crashWith ⟨.badType, "unsupported operand type(s) for *: 'int' and 'NoneType'"⟩

end RecordListing
