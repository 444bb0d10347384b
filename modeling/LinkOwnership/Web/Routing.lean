/-
# LinkOwnership.Web.Routing -- a framework that can be run

`routing` resolves a request to an action, reads its body if the action asks for one, and checks the
parts.  Requests that fall through are answered here, with the problems that were found or in a few
words.

An answer to a problem repeats its input as it is, and may turn out to have no written form
(`Response.send`).  How deep it may be nested is what is left of a stack on which the server already
stands.
-/
import LinkOwnership.Web.Body
import LinkOwnership.Web.Route

namespace LinkOwnership.Web

set_option autoImplicit false

/-! ## Answers -/

namespace Response

/-- How many arrays and objects of an answer may be inside each other. -/
def depthLimit : Nat := 962

/-- An answer with a JSON body that may have no written form. -/
def send (status : Nat) (v : Json.Value) : Response :=
  match v.obstacle? depthLimit with
  | some .notFinite => internalError .unwritableNumber
  | some .notFiniteAtBottom => internalError .unwritableNumberAtBottom
  | some .tooDeep => internalError .nestedTooDeep
  | none =>
      match Text.loneHalves? v.body with
      | none => json status v
      | some halves => internalError (.unwritableText halves)

def problems (ps : List Problem) : Response :=
  match ps.mapM Problem.toJson? with
  | .ok shown => send 422 (.obj [("detail", .arr shown)])
  | .error fault => internalError (.unreadableInput fault)

def redirect (path : String) : Response := ⟨307, .text "", some (addressOf path), [], none⟩

end Response

/-! ## Requests -/

/-- What was checked, or the answer to the problems. -/
def settled {α : Type} (checked : Checked α) : Except Response α :=
  checked.mapError Response.problems

/-- The body of a request whose action asks for one. -/
def Request.given (r : Request) : Except Response Body :=
  r.readBody.mapError fun
    | .malformed position => .problems [.malformed position]
    | .unreadable => .detail 400 "There was an error parsing the body"

/-- The call that an action stands for, if the parts of the request are its arguments. -/
def Request.invocation (r : Request) : Action → List String → Except Response Invocation
  | .addPackage, [user, package] => do
      let body ← r.given
      let (u, hosts) ← settled (both (checkUser user) (checkHosts body))
      return .addPackage u package hosts
  | .setLinkHandling, [user, package] => do
      let body ← r.given
      let (u, allowed) ← settled (both (checkUser user) (checkAllowed body))
      return .setLinkHandling u package allowed
  | .requestVerification, [] => do
      let body ← r.given
      let names ← settled (checkPackageNames body)
      return .requestVerification names
  | .showPackage, [user, package] =>
      (settled (checkUser user)).map fun u => .showPackage u package
  | .removePackage, [user, package] =>
      (settled (checkUser user)).map fun u => .removePackage u package
  | .verifyHost, [user, package, host] =>
      (settled (checkUser user)).map fun u => .verifyHost u package host
  | .selectHost, [user, package, host] =>
      (settled (checkUser user)).map fun u => .selectHost u package host
  | .unselectHost, [user, package, host] =>
      (settled (checkUser user)).map fun u => .unselectHost u package host
  | .showOwners, [user, host] =>
      (settled (checkUser user)).map fun u => .showOwners u host
  | .health, [] => .ok .health
  | .documentation, _ => .error (.empty 200)
  | _, _ => .error (.detail 404 "Not Found")

def Request.receive (r : Request) : Reception :=
  match resolve r.method r.path with
  | .unknown => .answer (.detail 404 "Not Found")
  | .otherMethod => .answer (.detail 405 "Method Not Allowed")
  | .elsewhere path => .answer (.redirect path)
  | .call action parameters =>
      match r.invocation action parameters with
      | .ok c => .call c
      | .error response => .answer response

/-- Three levels of an answer are around an input that it repeats. -/
def routing : Framework where
  receive := Request.receive
  body? r := r.readBody.toOption
  depth := Response.depthLimit - 3

end LinkOwnership.Web
