import RecordListing.CommandLine

/-!
# The command line

`dev` and `test` print the command that starts the server or runs the tests; `openapi` prints the
report on the description of the interface.
-/

set_option autoImplicit false

namespace RecordListing

/-- The lines that a command line prints; none if it names no tool. -/
def commandLines (arguments : List String) : Option (Outcome (List String)) :=
  match arguments with
  | "openapi" :: rest => some (CommandLine.describe (rest.map .text))
  | name :: rest =>
    (CommandLine.Tool.ofName? name).map fun tool => .ok [Text.joined " " (tool.command rest)]
  | [] => none

end RecordListing

def main (arguments : List String) : IO UInt32 := do
  match RecordListing.commandLines arguments with
  | some (.ok lines) =>
    for line in lines do
      IO.println line
    return 0
  | some (.error failure) =>
    IO.eprintln (failure.label ++ ": " ++ failure.message)
    return 1
  | none =>
    IO.eprintln "usage: dev | test | openapi [output]"
    return 2
