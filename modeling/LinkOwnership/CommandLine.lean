/-
# LinkOwnership.CommandLine -- one run of the command line

`CommandLine.run` turns the arguments of a run into all that the run shows: its exit status
and what it writes to either stream.  A suggestion is described on standard output; arguments
outside the grammar bring the cause and the help to standard error, and status 2.  A value
that no zones can be read from is no error of the grammar: the run breaks off (`Run.broken`).
-/
import LinkOwnership.Suggestion.Options

namespace LinkOwnership.CommandLine

set_option autoImplicit false

structure Report where
  status : Nat
  stdout : String
  stderr : String
  deriving DecidableEq, Repr

inductive Run where
  | finished (report : Report)
  | broken (fault : OptionFault)
  deriving DecidableEq, Repr

def run (args : List String) : Run :=
  match Suggestion.suggestionOfArgs args with
  | .ok suggestion => .finished ⟨0, suggestion.describe ++ "\n", ""⟩
  | .error .separatorValue => .broken .separatorValue
  | .error fault =>
      .finished ⟨2, "", "Error: " ++ fault.message ++ "\n" ++ Suggestion.help⟩

end LinkOwnership.CommandLine
