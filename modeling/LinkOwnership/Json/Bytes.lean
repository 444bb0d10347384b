/-
# LinkOwnership.Json.Bytes -- a JSON text sent as bytes

A JSON text may arrive in UTF-8, UTF-16 or UTF-32.  A byte order mark tells which; without
one, the zero bytes among the first four do, because a JSON text starts with two characters
of the basic Latin block.  `Encoding.ofBytes` reads these signs and `Encoding.decode?` the
text.  Sixteen-bit units that make up a surrogate pair are one character; a half without the
other stays a lone half.
-/
import LinkOwnership.Text.Loose
import LinkOwnership.Text.Utf8

namespace LinkOwnership.Json

set_option autoImplicit false

open LinkOwnership.Text (Point)

inductive Encoding where
  | utf8
  /-- UTF-8 behind a byte order mark. -/
  | utf8Marked
  | utf16 (bigEndian : Bool)
  | utf32 (bigEndian : Bool)
  deriving DecidableEq, Repr

namespace Encoding

/-- The encoding that the first bytes of a text speak for. -/
def ofBytes : List UInt8 → Encoding
  | 0xEF :: 0xBB :: 0xBF :: _ => .utf8Marked
  | [a, b] => if a = 0 then .utf16 true else if b = 0 then .utf16 false else .utf8
  | a :: b :: c :: d :: _ =>
      if a = 0 then if b = 0 then .utf32 true else .utf16 true
      else if b = 0 then if c = 0 ∧ d = 0 then .utf32 false else .utf16 false
      else .utf8
  | _ => .utf8

/-- Sixteen-bit units; an odd byte at the end is refused. -/
def units16? (bigEndian : Bool) : List UInt8 → Option (List Nat)
  | [] => some []
  | a :: b :: rest =>
      (units16? bigEndian rest).map
        ((if bigEndian then a.toNat * 0x100 + b.toNat else b.toNat * 0x100 + a.toNat) :: ·)
  | [_] => none

/-- Thirty-two-bit units; up to three bytes at the end are refused. -/
def units32? (bigEndian : Bool) : List UInt8 → Option (List Nat)
  | [] => some []
  | a :: b :: c :: d :: rest =>
      let ds := if bigEndian then [a, b, c, d] else [d, c, b, a]
      (units32? bigEndian rest).map (ds.foldl (fun n x => n * 0x100 + x.toNat) 0 :: ·)
  | _ => none

def pointsOfUnits16 : List Nat → List Point
  | [] => []
  | [n] => [.ofNat n]
  | n :: m :: rest =>
      if 0xD800 ≤ n ∧ n < 0xDC00 ∧ 0xDC00 ≤ m ∧ m < 0xE000 then
        .ofNat (0x10000 + (n - 0xD800) * 0x400 + (m - 0xDC00)) :: pointsOfUnits16 rest
      else .ofNat n :: pointsOfUnits16 (m :: rest)

def pointsOfUtf8? (bytes : List UInt8) : Option (List Point) :=
  (Text.Utf8.decode bytes).toOption.map (·.map .char)

def decode? : Encoding → List UInt8 → Option (List Point)
  | .utf8, bytes => pointsOfUtf8? bytes
  | .utf8Marked, bytes => pointsOfUtf8? (bytes.drop 3)
  | .utf16 bigEndian, bytes => (units16? bigEndian bytes).map pointsOfUnits16
  | .utf32 bigEndian, bytes => do
      let units ← units32? bigEndian bytes
      if units.all (· < 0x110000) then some (units.map .ofNat) else none

end Encoding

/-- The points of a JSON text sent as bytes, if they can be read. -/
def pointsOfBytes? (bytes : List UInt8) : Option (List Point) :=
  (Encoding.ofBytes bytes).decode? bytes

end LinkOwnership.Json
