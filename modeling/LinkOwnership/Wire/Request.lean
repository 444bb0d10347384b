/-
# LinkOwnership.Wire.Request -- the stored form of a verification request

A flag byte without flags, and the list of the package names in order.  Reading takes names
in any order and any number of times; writing again puts them in order.
-/
import LinkOwnership.VerificationRequest
import LinkOwnership.Wire.Reader
import LinkOwnership.Wire.Writer

namespace LinkOwnership.VerificationRequest

set_option autoImplicit false

def encode (r : VerificationRequest) : Except Wire.Unwritable (List UInt8) := do
  let names ← r.sorted.mapError fun _ => .incomparable
  let list ← Wire.putTexts names
  return 0 :: list

def reader : Wire.Reader VerificationRequest := do
  let _ ← Wire.Reader.flags 0
  let names ← Wire.Reader.texts "package_names"
  return ofList (names.map fun name => some (.ofString name))

/-- The request that bytes are a stored form of. -/
def decode (bytes : List UInt8) : Except Wire.Fault VerificationRequest := reader.run bytes

end LinkOwnership.VerificationRequest
