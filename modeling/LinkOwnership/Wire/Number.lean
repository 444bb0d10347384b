/-
# LinkOwnership.Wire.Number -- numbers as bytes

Numbers are stored with the least byte first.  `littleEndian` writes a number in as many bytes as it
is told, and `natOfBytes` is the number that bytes stand for, which is written as these bytes again
(`littleEndian_natOfBytes`).  A number with a sign is stored in four bytes as the number without one
that is equal to it modulo 2^32 (`signed_emod`, `signed_of_lt`).
-/

namespace LinkOwnership.Wire

set_option autoImplicit false

/-! ## Numbers without a sign -/

/-- The given number of bytes of a number, least byte first. -/
def littleEndian : Nat → Nat → List UInt8
  | 0, _ => []
  | width + 1, n => UInt8.ofNat (n % 256) :: littleEndian width (n / 256)

/-- The number whose bytes are given, least byte first. -/
def natOfBytes : List UInt8 → Nat
  | [] => 0
  | b :: rest => b.toNat + 256 * natOfBytes rest

theorem length_littleEndian (width n : Nat) : (littleEndian width n).length = width := by
  induction width generalizing n with
  | zero => rfl
  | succ width ih => simp [littleEndian, ih]

/-- The number that bytes stand for is written as these bytes. -/
theorem littleEndian_natOfBytes {width : Nat} {bytes : List UInt8} (long : bytes.length = width) :
    littleEndian width (natOfBytes bytes) = bytes := by
  subst long
  induction bytes with
  | nil => rfl
  | cons b rest ih =>
      have low : b.toNat < 256 := b.toNat_lt
      have digit : (b.toNat + 256 * natOfBytes rest) % 256 = b.toNat := by omega
      have digits : (b.toNat + 256 * natOfBytes rest) / 256 = natOfBytes rest := by omega
      rw [natOfBytes, List.length_cons, littleEndian, digit, digits, ih, UInt8.ofNat_toNat]

/-! ## Numbers with a sign -/

/-- Whether a number fits four bytes with a sign. -/
def FitsInt32 (n : Int) : Prop := -0x80000000 ≤ n ∧ n < 0x80000000

instance (n : Int) : Decidable (FitsInt32 n) := inferInstanceAs (Decidable (_ ∧ _))

/-- The number that thirty-two bits stand for when the highest is a sign. -/
def signed (n : Nat) : Int := if n < 0x80000000 then n else (n : Int) - 0x100000000

/-- The sign of a number that fits four bytes is read back from the highest bit. -/
theorem signed_emod {n : Int} (fits : FitsInt32 n) : signed (n % 0x100000000).toNat = n := by
  obtain ⟨low, high⟩ := fits
  unfold signed
  split <;> omega

/-- Thirty-two bits stand for a number that fits them, and they are the bits of this number. -/
theorem signed_of_lt {n : Nat} (small : n < 0x100000000) :
    FitsInt32 (signed n) ∧ (signed n % 0x100000000).toNat = n := by
  unfold signed FitsInt32
  split <;> omega

end LinkOwnership.Wire
