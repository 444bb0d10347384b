/-
# LinkOwnership.Wire.Fault -- what is wrong with stored bytes

`Wire.Fault` lists the ways in which bytes fail to be a stored value, `Wire.Unwritable` the
ways in which a value has no stored form.
-/
import LinkOwnership.Rejection
import LinkOwnership.Text.Utf8

namespace LinkOwnership.Wire

set_option autoImplicit false

inductive Fault where
  /-- The bytes end too early. -/
  | truncated (need offset left : Nat)
  /-- A text has a negative length that does not stand for a missing text. -/
  | badLength (length : Int)
  /-- The bytes of a text are not UTF-8. -/
  | badText (fault : Text.Utf8.Fault)
  /-- A text that must be given is missing. -/
  | missingText (field : String)
  /-- A count is negative, or more than the bytes that are left can hold. -/
  | badCount (field : String) (count : Int)
  /-- Flag bits are set that mean nothing. -/
  | unknownFlags (bits : Nat)
  /-- Bytes follow the value. -/
  | trailing (count : Nat)
  /-- Two entries name the same host. -/
  | duplicateHost (host : Text.LooseString)
  /-- The code of a host is no link state. -/
  | unknownCode (code : Int)
  deriving DecidableEq, Repr

/-- Whether the fault lies in the code of a host and nowhere else. -/
def Fault.isUnknownCode : Fault → Bool
  | .unknownCode _ => true
  | _ => false

def Fault.message : Fault → String
  | .truncated need offset left =>
      "Truncated record: need " ++ toString need ++ " byte(s) at offset " ++ toString offset
        ++ ", have " ++ toString left
  | .badLength length => "Invalid string length: " ++ toString length
  | .badText fault => "Invalid UTF-8 string: " ++ fault.message
  | .missingText field => "Missing required string: " ++ field
  | .badCount field count =>
      "Invalid element count for " ++ field ++ ": " ++ toString count
  | .unknownFlags bits =>
      "Unknown flag bits: 0x" ++ String.ofList (Text.Hex.padded 2 bits)
  | .trailing count => toString count ++ " trailing byte(s) after record"
  | .duplicateHost host => "Duplicate host in record: " ++ host.shown
  | .unknownCode code => (Rejection.unknownCode (.int code)).message

inductive Unwritable where
  /-- A number is more than its field can hold. -/
  | outOfRange (number : Int)
  /-- A text has no form in UTF-8. -/
  | loneHalves (halves : Text.LoneHalves)
  /-- Texts that are to be in order cannot be compared. -/
  | incomparable
  deriving DecidableEq, Repr

/-- A number that does not even fit 64 bits is not told its limits. -/
def Unwritable.message : Unwritable → String
  | .outOfRange number =>
      if -0x8000000000000000 ≤ number ∧ number < 0x8000000000000000 then
        "'i' format requires -2147483648 <= number <= 2147483647"
      else "argument out of range"
  | .loneHalves halves => halves.message
  | .incomparable => Rejection.incomparable.message

end LinkOwnership.Wire
