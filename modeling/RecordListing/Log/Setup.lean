import RecordListing.Failure
import RecordListing.Query.Sorting

/-!
# Log levels

The severity from which on records are written, by name in any case of letters. A name that is no
level stands for `INFO`.
-/

set_option autoImplicit false

namespace RecordListing.Log

open RecordListing.Text

/-- The levels by name. -/
def levels : List (String × Nat) := [
  ("CRITICAL", 50), ("FATAL", 50), ("ERROR", 40), ("WARN", 30), ("WARNING", 30), ("INFO", 20),
  ("DEBUG", 10), ("NOTSET", 0)]

/-- The capital letters of a name; the dotless i has the capital of the i. -/
def levelName (name : String) : String :=
  String.ofList (name.toList.map fun c => if c.toNat = 0x131 then 'I' else capital c)

/-- The level of this name. Two names belong to other settings of the logs and are refused. -/
def levelOf (name : Value) : Outcome Nat :=
  match name with
  | .text s =>
    let name := levelName s
    if name = "BASIC_FORMAT" then crashWith ⟨.badValue, "Unknown level"⟩
    else if name = "_STYLES" then crashWith ⟨.badType, "Level not an integer or a valid string"⟩
    else .ok ((levels.lookup name).getD 20)
  | _ => crashWith ⟨.missingAttribute, "upper"⟩

/-- The level that logs are set up with: that of the argument, if there is one. -/
def setupLevel : List Value → Outcome Nat
  | [] => .ok 20
  | [name] => levelOf name
  | _ => crashWith ⟨.badType, "at most one level"⟩

/-- How log lines are written. -/
def formatterName : String := "StructuredFormatter"

end RecordListing.Log
