import RecordListing.Value.Basic

/-!
# Log events

What the program tells about its work while it runs: how severe, from which part, what, and further
data by name.
-/

set_option autoImplicit false

namespace RecordListing.Log

inductive Severity
  | debug | info | warning | error
deriving DecidableEq, Repr

def Severity.name : Severity → String
  | .debug => "DEBUG"
  | .info => "INFO"
  | .warning => "WARNING"
  | .error => "ERROR"

structure Event where
  severity : Severity
  logger : String
  message : String
  extra : List (String × Value) := []

/-- A list of texts as a value. -/
def textList (ss : List String) : Value := .list (ss.map .text)

end RecordListing.Log
