/-
# LinkOwnership.Identifier -- 128-bit identifiers

A record carries an `Identifier`, a number below 2^128, for its whole life.  Its text is 32
hexadecimal digits in groups of 8, 4, 4, 4 and 12.  `Issuer` hands out identifiers one after
the other, so a run that starts from the same issuer names its records in the same way.
-/
import LinkOwnership.Text.Hex

namespace LinkOwnership

set_option autoImplicit false

structure Identifier where
  val : Fin 0x100000000000000000000000000000000
  deriving DecidableEq, Repr

namespace Identifier

/-- The identifier of a number, which is reduced modulo 2^128. -/
def ofNat (n : Nat) : Identifier := ⟨Fin.ofNat 0x100000000000000000000000000000000 n⟩

def upper (i : Identifier) : Nat := i.val.val / 0x10000000000000000

def lower (i : Identifier) : Nat := i.val.val % 0x10000000000000000

def ofHalves (upper lower : Nat) : Identifier :=
  ofNat (upper * 0x10000000000000000 + lower)

theorem upper_lt (i : Identifier) : i.upper < 0x10000000000000000 := by
  have := i.val.isLt; unfold upper; omega

theorem lower_lt (i : Identifier) : i.lower < 0x10000000000000000 :=
  Nat.mod_lt _ (by decide)

theorem ofHalves_upper_lower (i : Identifier) : ofHalves i.upper i.lower = i := by
  obtain ⟨n, h⟩ := i
  have joined :
      n / 0x10000000000000000 * 0x10000000000000000 + n % 0x10000000000000000 = n :=
    Nat.div_add_mod' n 0x10000000000000000
  simp only [ofHalves, ofNat, upper, lower, Identifier.mk.injEq, joined]
  exact Fin.ext (Nat.mod_eq_of_lt h)

/-- The digits of the identifier, all 32 of them. -/
def digits (i : Identifier) : List Char := Text.Hex.padded 32 i.val.val

/-- Groups of 8, 4, 4, 4 and 12 digits, with hyphens between them. -/
def text (i : Identifier) : String :=
  let ds := i.digits
  String.ofList (ds.take 8 ++ '-' :: (ds.drop 8).take 4 ++ '-' :: (ds.drop 12).take 4
    ++ '-' :: (ds.drop 16).take 4 ++ '-' :: ds.drop 20)

/-- Read 32 digits; hyphens between them do not count. -/
def ofText? (s : String) : Option Identifier :=
  let ds := s.toList.filter (· != '-')
  if ds.length = 32 then (Text.Hex.natOfDigits? ds).map ofNat else none

end Identifier

/-- A source of identifiers: `issued` of them have been handed out so far. -/
structure Issuer where
  issued : Nat
  deriving DecidableEq, Repr

namespace Issuer

def initial : Issuer := ⟨0⟩

/-- The next identifier: the first is 1, the second 2, and so on. -/
def issue (i : Issuer) : Identifier × Issuer := (.ofNat (i.issued + 1), ⟨i.issued + 1⟩)

/-- The identifier that is asked for, or the next one if none is. -/
def supply (i : Issuer) : Option Identifier → Identifier × Issuer
  | some given => (given, i)
  | none => i.issue

end Issuer

end LinkOwnership
