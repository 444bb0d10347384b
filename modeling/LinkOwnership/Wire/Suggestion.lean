/-
# LinkOwnership.Wire.Suggestion -- the stored form of a time zone suggestion

A flag byte (bit 0 says that there is a list of zones), the list of zones if there is one, and
the list of notes.
-/
import LinkOwnership.Suggestion.Basic
import LinkOwnership.Wire.Reader
import LinkOwnership.Wire.Writer

namespace LinkOwnership.Suggestion

set_option autoImplicit false

/-- The flag that says that there is a list of zones. -/
def zonesFlag : UInt8 := 0x01

def encode (s : Suggestion) : Except Wire.Unwritable (List UInt8) :=
  match s.zoneIds with
  | some zones => do
      let zones ← Wire.putStrings zones
      let notes ← Wire.putStrings s.debugInfo
      return zonesFlag :: (zones ++ notes)
  | none => do
      let notes ← Wire.putStrings s.debugInfo
      return 0 :: notes

def reader : Wire.Reader Suggestion := do
  let flags ← Wire.Reader.flags zonesFlag
  if flags = 0 then
    let notes ← Wire.Reader.texts "debug_info"
    return ⟨none, notes.map some⟩
  else
    let zones ← Wire.Reader.texts "zone_ids"
    let notes ← Wire.Reader.texts "debug_info"
    return ⟨some (zones.map some), notes.map some⟩

/-- The suggestion that bytes are the stored form of. -/
def decode (bytes : List UInt8) : Except Wire.Fault Suggestion := reader.run bytes

end LinkOwnership.Suggestion
