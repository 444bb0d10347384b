/-
# LinkOwnership.Main -- the command line

Prints what `CommandLine.run` says and exits with its status.  A run that breaks off says why
and exits with status 1.
-/
import LinkOwnership.CommandLine

set_option autoImplicit false

def main (args : List String) : IO UInt32 := do
  match LinkOwnership.CommandLine.run args with
  | .finished report =>
      (← IO.getStdout).putStr report.stdout
      (← IO.getStderr).putStr report.stderr
      return UInt32.ofNat report.status
  | .broken fault =>
      (← IO.getStderr).putStr ("AttributeError: " ++ fault.message ++ "\n")
      return 1
