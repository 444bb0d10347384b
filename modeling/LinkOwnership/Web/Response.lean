/-
# LinkOwnership.Web.Response -- what a client is answered

A `Response` has a status and a content, with the log entries that went with it.  Where a failure
leaves the application, the answer is that of an internal error, and `raised` says what it was.
-/
import LinkOwnership.Service.Basic

namespace LinkOwnership.Web

set_option autoImplicit false

open LinkOwnership.Text (LoneHalves)

/-- A failure that leaves the application. -/
inductive Failure where
  | service (fault : Service.Fault)
  /-- A number in the answer has no form in JSON. -/
  | unwritableNumber
  /-- A number in the answer has no form in JSON, and stands too deep to be reported. -/
  | unwritableNumberAtBottom
  /-- The answer is nested too deep. -/
  | nestedTooDeep
  /-- The text of the answer has no form in UTF-8. -/
  | unwritableText (halves : LoneHalves)
  /-- One of the names that the answer lists has no form in UTF-8. -/
  | unwritableName (halves : LoneHalves)
  /-- The answer is to repeat bytes that are no UTF-8. -/
  | unreadableInput (fault : Text.Utf8.Fault)

def Failure.message : Failure → String
  | .service fault => fault.message
  | .unwritableNumber => "Out of range float values are not JSON compliant"
  | .unwritableNumberAtBottom => "maximum recursion depth exceeded while calling a Python object"
  | .nestedTooDeep => "maximum recursion depth exceeded while encoding a JSON object"
  | .unwritableText halves => halves.message
  | .unwritableName halves =>
      "Error serializing to JSON: UnicodeEncodeError: " ++ halves.message
  | .unreadableInput fault => fault.message

inductive Content where
  | json (v : Json.Value)
  | text (s : String)

/-- One answer, with the log entries and the failure that went with it. -/
structure Response where
  status : Nat
  content : Content
  location : Option String
  logs : List LogEntry
  raised : Option Failure

namespace Response

def json (status : Nat) (v : Json.Value) : Response := ⟨status, .json v, none, [], none⟩

def empty (status : Nat) : Response := ⟨status, .text "", none, [], none⟩

/-- An answer that turns the request down in a few words. -/
def detail (status : Nat) (words : String) : Response :=
  json status (.obj [("detail", .str words)])

def internalError (failure : Failure) : Response :=
  ⟨500, .text "Internal Server Error", none, [], some failure⟩

structure Fine (r : Response) : Prop where
  status : r.status ≠ 500
  raised : r.raised = none

end Response

end LinkOwnership.Web
