/-
# LinkOwnership.Web.Framework -- what stands between a request and the application

Requests come in as they were sent: a path, and a body of bytes with or without a content type.  A
`Framework` makes of each one an `Invocation`, which is a call to one of the application's functions
with its arguments, or it answers by itself: when no function is meant, when an argument is missing
or of another type, or with a page of its own.

The application is not told which framework it has.  `Framework.Lawful` is all that is asked of one.
`Web.routing` is one that can be run.
-/
import LinkOwnership.Web.Response

namespace LinkOwnership.Web

set_option autoImplicit false

open LinkOwnership.Text (LooseString)

structure Request where
  method : String
  path : String
  body : List UInt8
  contentType : Option (List UInt8)
  deriving DecidableEq, Repr

/-- What a body is taken for. -/
inductive Body where
  | absent
  | json (v : Json.Value)
  /-- A body of some other content type. -/
  | other (bytes : List UInt8)

/-- An answer with some levels left can repeat the body. -/
def Body.Told (depth : Nat) : Body → Prop
  | .absent => True
  | .json v => v.Writable depth
  | .other bytes => (Text.Utf8.decode bytes).isOk = true

instance (depth : Nat) : (body : Body) → Decidable (body.Told depth)
  | .absent => .isTrue trivial
  | .json v => inferInstanceAs (Decidable (v.Writable depth))
  | .other _ => inferInstanceAs (Decidable (_ = true))

/-! ## Calls to the application -/

/-- A call to one of the application's functions. -/
inductive Invocation where
  | addPackage (user : Int) (package : String) (hosts : List LooseString)
  | showPackage (user : Int) (package : String)
  | removePackage (user : Int) (package : String)
  | verifyHost (user : Int) (package host : String)
  | selectHost (user : Int) (package host : String)
  | unselectHost (user : Int) (package host : String)
  | setLinkHandling (user : Int) (package : String) (allowed : Bool)
  | showOwners (user : Int) (host : String)
  | requestVerification (names : List LooseString)
  | health

namespace Invocation

/-- The method that the function is declared for. -/
def method : Invocation → String
  | .showPackage .. | .showOwners .. | .health => "GET"
  | .addPackage .. | .selectHost .. | .setLinkHandling .. => "PUT"
  | .removePackage .. | .unselectHost .. => "DELETE"
  | .verifyHost .. | .requestVerification .. => "POST"

def key? : Invocation → Option RowKey
  | .addPackage user package _ | .showPackage user package | .removePackage user package
  | .verifyHost user package _ | .selectHost user package _ | .unselectHost user package _
  | .setLinkHandling user package _ => some ⟨user, package⟩
  | .showOwners .. | .requestVerification .. | .health => none

def user? : Invocation → Option Int
  | .showOwners user _ => some user
  | c => c.key?.map RowKey.user

/-- Whether the call is answered whether there is such a package or not. -/
def adds : Invocation → Bool
  | .addPackage .. => true
  | _ => false

end Invocation

/-! ## Frameworks -/

inductive Reception where
  | call (c : Invocation)
  | answer (response : Response)

structure Framework where
  receive : Request → Reception
  /-- What the body of a request is taken for, if it can be read. -/
  body? : Request → Option Body
  /-- How many levels are left in an answer for an input that it repeats. -/
  depth : Nat

/-- What frameworks promise. -/
structure Framework.Lawful (fw : Framework) : Prop where
  /-- A function is called for the method that it is declared for. -/
  method : ∀ r c, fw.receive r = .call c → r.method = c.method
  /-- An integer that is too long to be written is not taken from a path. -/
  user : ∀ r c, fw.receive r = .call c → ∀ u ∈ c.user?, Text.Integer.fits u = true
  /-- The framework's own answers fail only where they have to repeat a body and cannot. -/
  answer : ∀ r response, fw.receive r = .answer response →
    (∀ body ∈ fw.body? r, body.Told fw.depth) → response.Fine

end LinkOwnership.Web
