import RecordListing.Web.Http

/-!
# Command lines

The tools start the server for development, run the tests, and write the description of the
interface.
-/

set_option autoImplicit false

namespace RecordListing.CommandLine

open RecordListing.Text

inductive Tool
  | serve | test
deriving DecidableEq, Repr

def Tool.ofName? (name : String) : Option Tool :=
  if name = "dev" then some .serve else if name = "test" then some .test else none

/-- The command of a tool, to which further arguments are passed on. -/
def Tool.command (tool : Tool) (arguments : List String) : List String :=
  (match tool with
    | .serve =>
      ["-m", "uvicorn", "fieldops.main:app", "--reload", "--host", "127.0.0.1", "--port", "8000"]
    | .test => ["-m", "pytest", "-q"]) ++ arguments

/-! ## The description of the interface -/

/-- Where the description goes unless the command line says otherwise. -/
def defaultOutput : String := "docs/openapi.json"

/-- The path without empty segments and single dots. -/
def normalPath (path : String) : String :=
  let slashes := path.toList.takeWhile (· == '/')
  let root :=
    match slashes.length with
    | 0 => ""
    | 2 => "//"
    | _ => "/"
  let kept := (pieces '/' path).filter fun piece => piece ≠ "" ∧ piece ≠ "."
  let text := root ++ joined "/" kept
  if text.isEmpty then "." else text

/-- Where the description goes; the arguments may name another place. -/
def outputPath (arguments : List Value) : Outcome String :=
  match arguments with
  | [] => .ok defaultOutput
  | .text path :: _ => .ok (normalPath path)
  | value :: _ => crashWith ⟨.badType, "a path is no " ++ value.kindName⟩

/-- What the tool prints after it has written the description. -/
def reportLines (output : String) : List String := [
  "[OK] OpenAPI schema written: " ++ output,
  "   Title: " ++ interfaceTitle,
  "   Endpoints: " ++ Nat.repr interfacePaths.length ++ " paths"]

/-- The most bytes of a name and of a whole path. -/
def nameLimit : Nat := 255

def pathLimit : Nat := 4095

/-- Why a file of this path cannot be opened, or a directory made. -/
def pathFault? (path : String) : Option Crash :=
  if path.toList.any (·.toNat = 0) then some ⟨.badValue, "embedded null byte"⟩
  else if pathLimit < path.utf8ByteSize ||
      (pieces '/' path).any (nameLimit < ·.utf8ByteSize) then
    some ⟨.other "OSError", "File name too long: " ++ path⟩
  else none

/-- The path of the directory that a path lies in. -/
def parentPath (path : String) : String :=
  ((cutLast '/' path.toList).map fun cut => String.ofList cut.1).getD ""

/-- What describing the interface prints; a directory cannot be written to. The directory of the
file is made first. -/
def describe (arguments : List Value) : Outcome (List String) := do
  let output ← outputPath arguments
  match (pathFault? (parentPath output)).orElse fun _ => pathFault? output with
  | some crash => crashWith crash
  | none =>
    if ["", ".", ".."].contains ((pieces '/' output).getLast?.getD "") then
      crashWith ⟨.other "IsADirectoryError", "Is a directory: " ++ output⟩
    else .ok (reportLines output)

end RecordListing.CommandLine
