import RecordListing.Schema.Entity
import RecordListing.Value.Shown

/-!
# Failures

A refusal tells the caller what is wrong with the request: it has a category, a message, details by
name, and the status it is answered with. A crash is a failure that no rule foresees. What stops
work from outside, a cancellation or a want of memory, is neither.
-/

set_option autoImplicit false

namespace RecordListing

open Text

inductive Category
  | base | validation | notFound | pagination | sortOrder | relationSegment | sortField
  | missingJoin | field | filterValue | entity | record
deriving DecidableEq, Repr

namespace Category

def all : List Category := [
  .base, .validation, .notFound, .pagination, .sortOrder, .relationSegment, .sortField,
  .missingJoin, .field, .filterValue, .entity, .record]

/-- The name that answers and logs carry. -/
def label : Category → String
  | .base => "FieldOpsError"
  | .validation => "ValidationError"
  | .notFound => "NotFoundError"
  | .pagination => "InvalidPaginationError"
  | .sortOrder => "InvalidSortOrderError"
  | .relationSegment => "UnknownRelationSegmentError"
  | .sortField => "UnknownSortFieldError"
  | .missingJoin => "MissingJoinError"
  | .field => "UnknownFieldError"
  | .filterValue => "InvalidFilterValueError"
  | .entity => "UnknownEntityError"
  | .record => "RecordNotFoundError"

def ofLabel? (label : String) : Option Category := all.find? (·.label = label)

/-- What is missing is answered with 404, what is wrong in the request with 400. -/
def status : Category → Nat
  | .base => 500
  | .notFound | .entity | .record => 404
  | _ => 400

end Category

inductive Refusal
  /-- A message and details of the caller's choice, as they are given. -/
  | general (category : Category) (message details : Value)
  | invalidPagination (parameter : String) (value : Value)
  | invalidSortOrder (value : Value)
  | unknownRelationSegment (segment path : String)
  | unknownSortField (field : String) (available : List String)
  | missingJoin (relationPath field : String)
  | unknownField (field entity : String)
  | invalidFilterValue (field : String) (kind : ColumnKind)
  | unknownEntity (entity : String) (available : List String)
  | recordNotFound (entity : String) (id : Value)
  | noSoftDelete (entity : String)

namespace Refusal

def category : Refusal → Category
  | .general category _ _ => category
  | .invalidPagination _ _ => .pagination
  | .invalidSortOrder _ => .sortOrder
  | .unknownRelationSegment _ _ => .relationSegment
  | .unknownSortField _ _ => .sortField
  | .missingJoin _ _ => .missingJoin
  | .unknownField _ _ => .field
  | .invalidFilterValue _ _ => .filterValue
  | .unknownEntity _ _ => .entity
  | .recordNotFound _ _ => .record
  | .noSoftDelete _ => .validation

def label (refusal : Refusal) : String := refusal.category.label

def status (refusal : Refusal) : Nat := refusal.category.status

/-- The message of all refusals but those of the caller's choice. -/
def ownMessage : Refusal → String
  | .general _ _ _ => ""
  | .invalidPagination _ _ => "Pagination parameters must be valid numbers greater than 0."
  | .invalidSortOrder _ => "Sort order must be either 'ASC' or 'DESC'."
  | .unknownRelationSegment segment path =>
    "Invalid relation segment '" ++ segment ++ "' in '" ++ path ++ "'"
  | .unknownSortField field available =>
    "Invalid sortBy field: '" ++ field ++ "'. Available: " ++ joined ", " available
  | .missingJoin relationPath field =>
    "Missing join for relation path '" ++ relationPath ++ "' (from '" ++ field ++ "')"
  | .unknownField field entity => "Unknown field '" ++ field ++ "' on '" ++ entity ++ "'"
  | .invalidFilterValue field kind =>
    "Invalid filter value for field '" ++ field ++ "' (" ++ kind.name ++ ")"
  | .unknownEntity entity _ => "Unknown entity '" ++ entity ++ "'"
  | .recordNotFound entity id => entity ++ " with ID " ++ id.toText ++ " not found."
  | .noSoftDelete entity => entity ++ " does not support soft delete"

def message : Refusal → Value
  | .general _ message _ => message
  | refusal => .text refusal.ownMessage

/-- What is known besides the message, by name. -/
def ownDetails : Refusal → List (String × Value)
  | .general _ _ _ => []
  | .invalidPagination parameter value => [(parameter, value)]
  | .invalidSortOrder value => [("sort_order", value)]
  | .unknownRelationSegment segment path => [("segment", .text segment), ("path", .text path)]
  | .unknownSortField field available =>
    [("field", .text field), ("available", .list (available.map .text))]
  | .missingJoin relationPath field =>
    [("relation_path", .text relationPath), ("field", .text field)]
  | .unknownField field entity => [("field", .text field), ("entity", .text entity)]
  | .invalidFilterValue field kind => [("field", .text field), ("kind", .text kind.name)]
  | .unknownEntity entity available =>
    [("entity", .text entity), ("available", .list (available.map .text))]
  | .recordNotFound entity id => [("entity", .text entity), ("id", .text id.toText)]
  | .noSoftDelete entity => [("entity", .text entity), ("column", .text Entity.deletionName)]

def details : Refusal → Value
  | .general _ _ details => details
  | refusal => .map refusal.ownDetails

end Refusal

/-! ## Crashes -/

inductive CrashKind
  | badValue | overflow | badDecimal | badType | missingAttribute | badState | severalRows
  | badParameter | unknownParameter | brokenRule
  | other (name : String)
deriving DecidableEq, Repr

def CrashKind.label : CrashKind → String
  | .badValue => "ValueError"
  | .overflow => "OverflowError"
  | .badDecimal => "InvalidOperation"
  | .badType => "TypeError"
  | .missingAttribute => "AttributeError"
  | .badState => "RuntimeError"
  | .severalRows => "MultipleResultsFound"
  | .badParameter => "StatementError"
  | .unknownParameter => "ProgrammingError"
  | .brokenRule => "IntegrityError"
  | .other name => name

structure Crash where
  kind : CrashKind
  message : String
deriving DecidableEq, Repr

namespace Crash

def ofDate (fault : DateFault) : Crash :=
  ⟨if fault = .beyondCalendar then .overflow else .badValue, fault.message⟩

/-- A power of ten beyond what decimals hold. -/
def decimalRange : Crash := ⟨.badDecimal, "[<class 'decimal.InvalidOperation'>]"⟩

/-- A value of a kind that has no such attribute. -/
def noAttribute (value : Value) (name : String) : Crash :=
  ⟨.missingAttribute, "'" ++ value.fullKindName ++ "' object has no attribute '" ++ name ++ "'"⟩

/-- A value that cannot be gone through. -/
def noParts (value : Value) : Crash :=
  ⟨.badType, "'" ++ value.fullKindName ++ "' object is not iterable"⟩

def notAMember (text enumeration : String) : Crash :=
  ⟨.badValue, quoted text ++ " is not a valid " ++ enumeration⟩

/-- The most digits that a whole number is read from. -/
def digitLimit : Nat := 4300

def tooManyDigits (count : Nat) : Crash :=
  ⟨.badValue, "Exceeds the limit (4300 digits) for integer string conversion: value has " ++
    Nat.repr count ++ " digits; use sys.set_int_max_str_digits() to increase the limit"⟩

end Crash

inductive Failure
  | refusal (reason : Refusal)
  | crash (reason : Crash)

namespace Failure

def label : Failure → String
  | .refusal reason => reason.label
  | .crash reason => reason.kind.label

/-- The message as text. -/
def message : Failure → String
  | .refusal reason => reason.message.toText
  | .crash reason => reason.message

/-- The status it is answered with. -/
def status : Failure → Nat
  | .refusal reason => reason.status
  | .crash _ => 500

end Failure

/-- What an operation comes to. -/
abbrev Outcome (α : Type) : Type := Except Failure α

/-- Fails with a refusal. -/
def refuse {α : Type} (reason : Refusal) : Outcome α := .error (.refusal reason)

/-- Fails with a crash. -/
def crashWith {α : Type} (reason : Crash) : Outcome α := .error (.crash reason)

/-- The entries of a map. -/
def Value.entries (value : Value) : Outcome (List (String × Value)) :=
  match value with
  | .map entries => .ok entries
  | _ => crashWith (.noAttribute value "items")

/-- What going through a value yields, if one can. -/
def Value.parts (value : Value) : Outcome (List Value) :=
  match value.parts? with
  | some parts => .ok parts
  | none => crashWith (.noParts value)

/-- The text that a value is; `use` is what only texts have. -/
def Value.asText (value : Value) (use : String) : Outcome String :=
  match value with
  | .text s => .ok s
  | .member m => .ok m.value
  | _ => crashWith (.noAttribute value use)

/-- The texts that a value lists, each of which is split. -/
def Value.texts (value : Value) : Outcome (List String) := do
  let parts ← value.parts
  parts.mapM (·.asText "split")

/-- The dotted paths that a value lists; what counts as nothing is an empty one. -/
def Value.paths (value : Value) : Outcome (List String) := do
  let parts ← value.parts
  parts.mapM fun part => if part.isNothing then .ok "" else part.asText "split"

end RecordListing
