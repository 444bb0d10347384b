/-
# LinkOwnership.Log -- what the program reports while it works

A `LogEntry` is one line of the program's log, with its level.  It may repeat what a client
sent, so its text may hold lone halves of surrogate pairs.
-/
import LinkOwnership.Text.Loose

namespace LinkOwnership

set_option autoImplicit false

open LinkOwnership.Text (LooseString)

inductive LogLevel where
  | info
  | warning
  | error
  deriving DecidableEq, Repr

def LogLevel.name : LogLevel → String
  | .info => "INFO"
  | .warning => "WARNING"
  | .error => "ERROR"

structure LogEntry where
  level : LogLevel
  text : LooseString
  deriving DecidableEq, Repr

namespace LogEntry

def info (text : LooseString) : LogEntry := ⟨.info, text⟩

def warning (text : LooseString) : LogEntry := ⟨.warning, text⟩

def error (text : LooseString) : LogEntry := ⟨.error, text⟩

end LogEntry

end LinkOwnership
