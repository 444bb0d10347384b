/-
# LinkOwnership.Wire.Reader -- reading the parts of a stored value

A `Reader` takes a part off the front of the bytes that a `Cursor` has left, and moves the
cursor on; or it says what is wrong.  The readers here are the counterparts of the functions
of `LinkOwnership.Wire.Writer`.  A count is held against the bytes that are left before
anything is read for it: each element needs four bytes at least.
-/
import LinkOwnership.Identifier
import LinkOwnership.Wire.Fault
import LinkOwnership.Wire.Number

namespace LinkOwnership.Wire

set_option autoImplicit false

/-- The bytes that are left, and how many were read before them. -/
structure Cursor where
  offset : Nat
  rest : List UInt8
  deriving DecidableEq, Repr

/-- Takes a part off the front of the bytes. -/
abbrev Reader (α : Type) := StateT Cursor (Except Fault) α

namespace Reader

def take (n : Nat) : Reader (List UInt8) := fun cursor =>
  if n ≤ cursor.rest.length then
    .ok (cursor.rest.take n, ⟨cursor.offset + n, cursor.rest.drop n⟩)
  else .error (.truncated n cursor.offset cursor.rest.length)

def byte : Reader Nat := natOfBytes <$> take 1

def int32 : Reader Int := do
  let bytes ← take 4
  return signed (natOfBytes bytes)

def identifier : Reader Identifier := do
  let upper ← take 8
  let lower ← take 8
  return .ofHalves (natOfBytes upper) (natOfBytes lower)

/-- A text that may be missing. -/
def text : Reader (Option String) := do
  let length ← int32
  if length = -1 then return none
  else if length < 0 then throw (.badLength length)
  else
    let bytes ← take length.toNat
    match Text.Utf8.decode bytes with
    | .ok chars => return some (String.ofList chars)
    | .error fault => throw (.badText fault)

/-- A text that must be given. -/
def requiredText (field : String) : Reader String := do
  match ← text with
  | some s => return s
  | none => throw (.missingText field)

def count (field : String) : Reader Nat := do
  let n ← int32
  let cursor ← get
  if n < 0 ∨ (cursor.rest.length : Int) < n * 4 then throw (.badCount field n)
  else return n.toNat

def textsOf (field : String) : Nat → Reader (List String)
  | 0 => return []
  | n + 1 => do
      let first ← requiredText field
      let more ← textsOf field n
      return first :: more

def texts (field : String) : Reader (List String) := do
  let n ← count field
  textsOf field n

/-- A flag byte, in which only the bits of `allowed` may be set. -/
def flags (allowed : UInt8) : Reader UInt8 := do
  let n ← byte
  let bits := UInt8.ofNat n
  let unknown := bits &&& ~~~allowed
  if unknown = 0 then return bits else throw (.unknownFlags unknown.toNat)

/-- The value that a reader takes off the bytes, with nothing behind it. -/
def run {α : Type} (reader : Reader α) (bytes : List UInt8) : Except Fault α := do
  let (a, cursor) ← StateT.run reader ⟨0, bytes⟩
  match cursor.rest with
  | [] => return a
  | rest => throw (.trailing rest.length)

end Reader

end LinkOwnership.Wire
