/-
# LinkOwnership.Wire.Writer -- the parts of a stored value, as bytes

Numbers are signed and stored with the least byte first, in four bytes or in eight.  An
identifier is its upper and then its lower half.  A text is the number of its UTF-8 bytes and
then the bytes; the length -1 stands for a missing text.  A list is the number of its texts
and then the texts.  A number beyond its field and a text with lone halves of surrogate pairs
have no stored form.
-/
import LinkOwnership.Identifier
import LinkOwnership.Wire.Fault
import LinkOwnership.Wire.Number

namespace LinkOwnership.Wire

set_option autoImplicit false

open LinkOwnership.Text (LooseString)

def putInt32 (n : Int) : Except Unwritable (List UInt8) :=
  if FitsInt32 n then .ok (littleEndian 4 (n % 0x100000000).toNat) else .error (.outOfRange n)

def putIdentifier (i : Identifier) : List UInt8 :=
  littleEndian 8 i.upper ++ littleEndian 8 i.lower

/-- A text that may be missing. -/
def putText : Option LooseString → Except Unwritable (List UInt8)
  | none => putInt32 (-1)
  | some t => do
      let s ← t.string.mapError .loneHalves
      let bytes := Text.Utf8.encodeString s
      let length ← putInt32 bytes.length
      return length ++ bytes

def putEach : List (Option LooseString) → Except Unwritable (List UInt8)
  | [] => .ok []
  | text :: rest => do
      let first ← putText text
      let more ← putEach rest
      return first ++ more

def putTexts (texts : List (Option LooseString)) : Except Unwritable (List UInt8) := do
  let count ← putInt32 texts.length
  let each ← putEach texts
  return count ++ each

def putStrings (strings : List (Option String)) : Except Unwritable (List UInt8) :=
  putTexts (strings.map fun s => s.map .ofString)

end LinkOwnership.Wire
