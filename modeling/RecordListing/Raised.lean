import RecordListing.Failure
import RecordListing.Web.Status

/-!
# Failures by name

A failure can be raised from outside by its name and arguments: a refusal of a category, a bare
status with its reason, or any other failure. Arguments that do not fit make the raising itself
crash.
-/

set_option autoImplicit false

namespace RecordListing

open Text

inductive Raised
  | failure (reason : Failure)
  /-- A bare status with its reason, and headers for the answer. -/
  | status (code reason headers : Value)

namespace Raised

def statusLabel : String := "HTTPException"

def label : Raised → String
  | .failure reason => reason.label
  | .status _ _ _ => statusLabel

def message : Raised → String
  | .failure reason => reason.message
  | .status code reason _ => code.toText ++ ": " ++ reason.toText

/-- The status that a failure of this kind is answered with. -/
def defaultStatus : Raised → Nat
  | .failure reason => reason.status
  | .status _ _ _ => 500

end Raised

/-! ## Refusals -/

def wrongArguments (name : String) : Crash := ⟨.badType, "wrong arguments of " ++ name⟩

/-- The texts that make up a value. -/
def Value.textParts (value : Value) : Outcome (List String) :=
  match value.parts? with
  | none => crashWith ⟨.badType, "can only join an iterable"⟩
  | some parts => parts.mapM fun
    | .text s => .ok s
    | .member m => .ok m.value
    | part => crashWith ⟨.badType, "expected str instance, " ++ part.kindName ++ " found"⟩

/-- The value, or another in place of one that counts as nothing. -/
def Value.orElse (value other : Value) : Value := if value.isNothing then other else value

/-- A refusal with the message of another, and details by name. -/
def Refusal.likeWith (category : Category) (model : Refusal) (details : List (String × Value)) :
    Refusal :=
  .general category model.message (.map details)

/-- The refusal of a category, from the arguments it is described by. -/
def Refusal.ofArguments (category : Category) (arguments : List Value) : Outcome Refusal :=
  match category, arguments with
  | .relationSegment, [segment, path] =>
    .ok (.likeWith category (.unknownRelationSegment segment.toText path.toText)
      [("segment", segment), ("path", path)])
  | .sortField, [field, available] =>
    available.textParts.map fun names =>
      .likeWith category (.unknownSortField field.toText names)
        [("field", field), ("available", available)]
  | .missingJoin, [relationPath, field] =>
    .ok (.likeWith category (.missingJoin relationPath.toText field.toText)
      [("relation_path", relationPath), ("field", field)])
  | .field, [field, entity] =>
    .ok (.likeWith category (.unknownField field.toText entity.toText)
      [("field", field), ("entity", entity)])
  | .filterValue, [field, kind] =>
    .ok (.general category
      (.text ("Invalid filter value for field '" ++ field.toText ++ "' (" ++ kind.toText ++ ")"))
      (.map [("field", field), ("kind", kind)]))
  | .entity, [entity] => .ok (unknown entity .null)
  | .entity, [entity, available] => .ok (unknown entity available)
  | .relationSegment, _ | .sortField, _ | .missingJoin, _ | .field, _ | .filterValue, _
  | .entity, _ => crashWith (wrongArguments category.label)
  | _, [message] => .ok (.general category message (.map []))
  | _, [message, details] => .ok (.general category message (details.orElse (.map [])))
  | _, _ => crashWith (wrongArguments category.label)
where
  /-- That an entity is not known. -/
  unknown (entity available : Value) : Refusal :=
    .likeWith .entity (.unknownEntity entity.toText [])
      [("entity", entity), ("available", available.orElse (.list []))]

/-! ## All failures -/

/-- The text of what a failure was raised with: the argument if it is one, else all of them between
brackets. A missing key is shown quoted. -/
def argumentsText (name : String) : List Value → String
  | [] => ""
  | [argument] => if name = "KeyError" then argument.shown else argument.toText
  | arguments => "(" ++ joined ", " (Value.shownItems arguments) ++ ")"

/-! ## Failures of the system -/

/-- The failures of the system by number. -/
def systemFailures : List (Int × String) := [
  (1, "PermissionError"), (2, "FileNotFoundError"), (3, "ProcessLookupError"),
  (4, "InterruptedError"), (10, "ChildProcessError"), (11, "BlockingIOError"),
  (13, "PermissionError"), (17, "FileExistsError"), (20, "NotADirectoryError"),
  (21, "IsADirectoryError"), (32, "BrokenPipeError"), (103, "ConnectionAbortedError"),
  (104, "ConnectionResetError"), (108, "BrokenPipeError"), (110, "TimeoutError"),
  (111, "ConnectionRefusedError"), (114, "BlockingIOError"), (115, "BlockingIOError")]

def anySystemFailure : String := "OSError"

def systemNames : List String :=
  [anySystemFailure, "IOError", "EnvironmentError", "ConnectionError"] ++ systemFailures.map (·.2)

/-- The name of a failure of the system; some numbers of failures have names of their own. -/
def systemName (name : String) (number : Value) : String :=
  let name := if ["IOError", "EnvironmentError"].contains name then anySystemFailure else name
  match number with
  | .int n => if name = anySystemFailure then (systemFailures.lookup n).getD name else name
  | _ => name

/-- The files that a failure of the system is about. What could not be written may be counted in
place of a file. -/
def systemFiles (name : String) (file other : Value) : String :=
  match file with
  | .null => ""
  | file =>
    if name = "BlockingIOError" && file.wholeNumber?.isSome then ""
    else ": " ++ file.shown ++ if other.isNull then "" else " -> " ++ other.shown

/-- What is raised under the name of a failure of the system: a number, what it means, and the files
it is about. -/
def Crash.ofSystem (name : String) (arguments : List Value) : Crash :=
  match arguments with
  | number :: reason :: rest =>
    if 3 < rest.length then
      ⟨.other (systemName name .null), argumentsText name arguments⟩
    else
      let name := systemName name number
      ⟨.other name, "[Errno " ++ number.toText ++ "] " ++ reason.toText ++
        systemFiles name (rest.getD 0 .null) (rest.getD 2 .null)⟩
  | arguments => ⟨.other (systemName name .null), argumentsText name arguments⟩

/-- Failures that cannot be raised with plain data. -/
def heldFailures : List String :=
  ["UnicodeDecodeError", "UnicodeEncodeError", "UnicodeTranslateError", "ExceptionGroup"]

/-- Failures about what is read, which tell their first argument. -/
def readingFailures : List String := ["SyntaxError", "IndentationError", "TabError"]

/-- The crash of this name. -/
def Crash.ofArguments (name : String) (arguments : List Value) : Outcome Crash :=
  if systemNames.contains name then .ok (.ofSystem name arguments)
  else if heldFailures.contains name then crashWith (wrongArguments name)
  else if readingFailures.contains name then
    match arguments with
    | [_, _] => crashWith (wrongArguments name)
    | arguments => .ok ⟨.other name, (arguments.head?.getD .null).toText⟩
  else .ok ⟨.other name, argumentsText name arguments⟩

/-! ## Raising -/

namespace Raised

/-- A bare status; one that gives no reason has the usual one. -/
def ofStatus (code reason headers : Value) : Outcome Raised :=
  match reason, code with
  | .null, .int n =>
    match if n < 0 then none else statusReasons.lookup n.toNat with
    | some usual => .ok (.status code (.text usual) headers)
    | none => crashWith ⟨.badValue, toString n ++ " is not a valid HTTPStatus"⟩
  | .null, code => crashWith ⟨.badValue, code.shown ++ " is not a valid HTTPStatus"⟩
  | reason, code => .ok (.status code reason headers)

/-- What is raised under a name with these arguments. -/
def ofArguments (name : String) (arguments : List Value) : Outcome Raised :=
  if name = statusLabel then
    match arguments with
    | [code] => ofStatus code .null .null
    | [code, reason] => ofStatus code reason .null
    | [code, reason, headers] => ofStatus code reason headers
    | _ => crashWith (wrongArguments name)
  else
    match Category.ofLabel? name with
    | some category =>
      (Refusal.ofArguments category arguments).map fun reason => .failure (.refusal reason)
    | none => (Crash.ofArguments name arguments).map fun crash => .failure (.crash crash)

/-- What comes out of a call that this is raised in: what ends an iteration cannot leave it as
such. -/
def escaping (raised : Raised) : Raised :=
  if raised.label = "StopIteration" then
    .failure (.crash ⟨.badState, "coroutine raised StopIteration"⟩)
  else raised

end Raised

end RecordListing
