/-
# LinkOwnership.Decimal.Binary64 -- a 64-bit binary fraction, taken apart

`Binary64.ofFloat` reads the sign, the exponent and the significand of a number out of its
bits: a finite number is `significand * 2 ^ exponent`, up to sign.  `Binary64.int?` is the
integer that a number is equal to, if it is equal to one.  `Binary64.ofDecimal` goes the
other way, from a decimal significand and exponent to the nearest number.
-/

namespace LinkOwnership.Decimal

set_option autoImplicit false

inductive Binary64 where
  | nan
  | infinite (negative : Bool)
  | finite (negative : Bool) (significand : Nat) (exponent : Int)
  deriving DecidableEq, Repr

namespace Binary64

/-- The bit that a normal number has in front of its fraction. -/
def hiddenBit : Nat := 0x10000000000000

/-- The least exponent, which the numbers below the normal ones share. -/
def leastExponent : Int := -1074

/-- Twelve bits of sign and exponent, fifty-two of significand. -/
def ofBits (bits : UInt64) : Binary64 :=
  let n := bits.toNat
  let negative := decide (0x8000000000000000 ≤ n)
  let biased : Nat := n / hiddenBit % 2048
  let fraction : Nat := n % hiddenBit
  if biased = 2047 then if fraction = 0 then .infinite negative else .nan
  else if biased = 0 then .finite negative fraction leastExponent
  else .finite negative (hiddenBit + fraction) ((biased : Int) - 1 + leastExponent)

def ofFloat (x : Float) : Binary64 := ofBits x.toBits

def int? : Binary64 → Option Int
  | .finite negative significand exponent =>
      let size : Option Nat :=
        if 0 ≤ exponent then some (significand * Nat.pow 2 exponent.toNat)
        else
          let unit := Nat.pow 2 (-exponent).toNat
          if significand % unit = 0 then some (significand / unit) else none
      size.map fun n => if negative then -(n : Int) else n
  | _ => none

/-- The number nearest to `digits * 10 ^ exponent`.  Exponents far outside the range are
decided by size alone, so no power of ten grows beyond need. -/
def ofDecimal (negative : Bool) (digits : Nat) (exponent : Int) : Float :=
  let magnitude : Int := exponent + (Nat.toDigits 10 digits).length
  let size : Float :=
    if digits = 0 ∨ magnitude < -400 then 0.0
    else if 400 < magnitude then 1.0 / 0.0
    else if 0 ≤ exponent then Float.ofScientific digits false exponent.toNat
    else Float.ofScientific digits true (-exponent).toNat
  if negative then -size else size

end Binary64

end LinkOwnership.Decimal
