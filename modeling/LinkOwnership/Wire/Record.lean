/-
# LinkOwnership.Wire.Record -- the stored form of a record

A flag byte (bit 3 says that links may be opened), the identifier, the package name, the user,
the number of hosts, and for each host its text and its code.  `Record.decode` reads exactly
such bytes.  It normalizes each host as it comes and refuses one that has come before, so a
record that was stored with other spellings is read in normal form.
-/
import LinkOwnership.Record
import LinkOwnership.Wire.Reader
import LinkOwnership.Wire.Writer

namespace LinkOwnership

set_option autoImplicit false

namespace Record

/-- The flag that says that links may be opened. -/
def linkHandlingFlag : UInt8 := 0x08

/-- Hosts and their codes, one after the other. -/
def encodeHosts : List (Text.LooseString × LinkState) → Except Wire.Unwritable (List UInt8)
  | [] => .ok []
  | (host, state) :: rest => do
      let text ← Wire.putText (some host)
      let code ← Wire.putInt32 state.code
      let more ← encodeHosts rest
      return text ++ code ++ more

def encode (r : Record) : Except Wire.Unwritable (List UInt8) := do
  let flags : UInt8 := if r.linkHandlingAllowed then linkHandlingFlag else 0
  let name ← Wire.putText (some r.packageName)
  let user ← Wire.putInt32 r.user
  let count ← Wire.putInt32 r.hosts.size
  let hosts ← encodeHosts r.hosts.entries
  return flags :: (Wire.putIdentifier r.identifier ++ name ++ user ++ count ++ hosts)

/-- Read the given number of hosts into the map. -/
def decodeHosts : Nat → HostMap → Wire.Reader HostMap
  | 0, hosts => return hosts
  | n + 1, hosts => do
      let spelling ← Wire.Reader.requiredText "host"
      let host := Host.normalize spelling
      if hosts.contains host then throw (.duplicateHost host)
      else
        let code ← Wire.Reader.int32
        match LinkState.ofCode? code with
        | some state => decodeHosts n (hosts.insert host state)
        | none => throw (.unknownCode code)

def reader : Wire.Reader Record := do
  let flags ← Wire.Reader.flags linkHandlingFlag
  let identifier ← Wire.Reader.identifier
  let packageName ← Wire.Reader.requiredText "package_name"
  let user ← Wire.Reader.int32
  let count ← Wire.Reader.count "host_to_state"
  let hosts ← decodeHosts count OrderedMap.empty
  return { identifier, packageName, user, linkHandlingAllowed := flags ≠ 0, hosts }

/-- The record that bytes are the stored form of. -/
def decode (bytes : List UInt8) : Except Wire.Fault Record := reader.run bytes

end Record

end LinkOwnership
