import RecordListing.Failure
import RecordListing.Json.Basic

/-!
# Parameters in brackets

Filters come as `filters[branch][name]=…`, groups of them as `orFilters[0][status]=…`. The parts in
brackets nest; parts that come several times collect their values in a list.
-/

set_option autoImplicit false

namespace RecordListing

open Text

/-! ## Keys -/

def isNameStart (c : Char) : Bool := ('A' ≤ c && c ≤ 'Z') || ('a' ≤ c && c ≤ 'z') || c == '_'

def isNameChar (c : Char) : Bool := isNameStart c || isPlainDigit c

/-- The parts of a run of brackets; `part` is what has been read of an open one. A line feed may
stand at the end. -/
def bracketParts? : (part : Option (List Char)) → List Char → Option (List (List Char))
  | none, [] => some []
  | none, c :: cs =>
    if c = '[' then bracketParts? (some []) cs
    else if c = '\n' ∧ cs.isEmpty then some []
    else none
  | some _, [] => none
  | some part, c :: cs =>
    if c = ']' then (bracketParts? none cs).map (part :: ·)
    else if c = '[' then none
    else bracketParts? (some (part ++ [c])) cs

/-- The name of a bracketed key and its parts, of which there is at least one. None of them is
empty. -/
def readBracketKey? (key : String) : Option (String × List String) :=
  let cs := key.toList
  let name := cs.takeWhile isNameChar
  match bracketParts? none (cs.dropWhile isNameChar) with
  | none | some [] => none
  | some parts =>
    if (name.head?.map isNameStart).getD false && parts.all (!·.isEmpty) then
      some (String.ofList name, parts.map String.ofList)
    else none

/-! ## Nesting -/

/-- The entries of a map; none of anything else. -/
def innerEntries : Option Value → List (String × Value)
  | some (.map entries) => entries
  | _ => []

/-- What a key holds after one more value: a text, or the list of all texts. A map gives way. -/
def collected (old : Option Value) (value : String) : Value :=
  match old with
  | none | some (.map _) => .text value
  | some (.list items) => .list (items ++ [.text value])
  | some item => .list [item, .text value]

/-- Puts a value under nested keys. Whatever is not nested on the way gives way. -/
def insertAt (value : String) :
    List String → List (String × Value) → List (String × Value)
  | [], entries => entries
  | [part], entries => putEntry part (collected (entries.lookup part) value) entries
  | part :: rest, entries =>
    putEntry part (.map (insertAt value rest (innerEntries (entries.lookup part)))) entries

/-! ## Groups -/

/-- The key of a group as a number, if it consists of digits. -/
def groupNumber? (key : String) : Outcome (Option Nat) :=
  let cs := key.toList
  if cs.isEmpty || !cs.all isDigitSign then .ok none
  else
    match cs.mapM digitValue? with
    | none => crashWith ⟨.badValue, "invalid literal for int() with base 10: " ++ quoted key⟩
    | some digits =>
      if Crash.digitLimit < digits.length then crashWith (.tooManyDigits digits.length)
      else .ok (some (ofDigitValues digits))

/-- Numbered groups come first, by number; the others keep their order. -/
def groupBefore : Option Nat → Option Nat → Bool
  | some m, some n => m ≤ n
  | some _, none => true
  | none, some _ => false
  | none, none => true

/-- The groups in order. -/
def orderGroups {α : Type} (groups : List (String × α)) : Outcome (List α) := do
  let numbered ← groups.mapM fun (key, group) => do return (← groupNumber? key, group)
  return (numbered.mergeSort fun a b => groupBefore a.1 b.1).map (·.2)

/-! ## Query strings -/

structure BracketParams where
  filters : List (String × Value)
  groups : List (List (String × Value))

def filtersName : String := "filters"

def groupsName : String := "orFilters"

/-- The filter map that pairs of a query string write. -/
def bracketFilters (items : List (String × String)) : List (String × Value) :=
  items.foldl (fun entries (key, value) =>
    match readBracketKey? key with
    | some (name, parts) => if name = filtersName then insertAt value parts entries else entries
    | none => entries) []

/-- The groups of filters that pairs of a query string write, in the order of their first pairs. -/
def bracketGroups (items : List (String × String)) : List (String × List (String × Value)) :=
  items.foldl (fun groups (key, value) =>
    match readBracketKey? key with
    | some (name, group :: first :: rest) =>
      if name = groupsName then
        putEntry group (insertAt value (first :: rest) ((groups.lookup group).getD [])) groups
      else groups
    | _ => groups) []

/-- The filters and the groups of filters of a query string. -/
def readBrackets (items : List (String × String)) : Outcome BracketParams := do
  let groups ← orderGroups (bracketGroups items)
  return ⟨bracketFilters items, groups⟩

/-- The items of repeated parameters that may each hold several, between commas. -/
def splitList (values : List String) : List String :=
  (values.flatMap fun value => (pieces ',' value).map trim).filter fun item => !item.isEmpty

/-- The items of all texts that a value lists. -/
def splitValues (values : Value) : Outcome (List String) :=
  if values.isNothing then .ok [] else values.texts.map splitList

end RecordListing
