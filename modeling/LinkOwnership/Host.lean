/-
# LinkOwnership.Host -- hosts in one spelling

A host is known by its normal form: no blanks around it, and all of it in lower case.
`Host.normalize` gives the normal form of a spelling, and `Host.IsNormal` says that a
spelling is its own.  A spelling may hold lone halves of surrogate pairs; its normal form holds
the same ones.
-/
import LinkOwnership.Rejection
import LinkOwnership.Text.Blank
import LinkOwnership.Text.Casing

namespace LinkOwnership.Host

set_option autoImplicit false

open LinkOwnership.Text (LooseString Point)

/-- The normal form over points: trimmed first, then put into lower case. -/
def normalForm (t : List Point) : List Point :=
  Text.lower (Text.trim (Point.holds Text.isBlank) t)

def normalize (host : LooseString) : LooseString := ⟨normalForm host.points⟩

def IsNormal (host : LooseString) : Prop := normalize host = host

instance (host : LooseString) : Decidable (IsNormal host) := inferInstanceAs (Decidable (_ = _))

def normalize? (host : Option LooseString) : Except Rejection LooseString :=
  (required .host host).map normalize

/-- A key of a map of hosts before it is checked. -/
inductive Key where
  | given (host : Option LooseString)
  /-- A value of another type than text, one of those of its type. -/
  | other (type : String) (which : Nat)
  deriving DecidableEq, Repr

namespace Key

def host? : Key → Option LooseString
  | .given host => host
  | .other _ _ => none

def normalize? : Key → Except Rejection LooseString
  | .given host => Host.normalize? host
  | .other type _ => .error (.notText type)

end Key

end LinkOwnership.Host
