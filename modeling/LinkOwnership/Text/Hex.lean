/-
# LinkOwnership.Text.Hex -- numbers and bytes in base sixteen

Digits are lower case.  `Hex.digits` writes a number without leading zeros,
`Hex.padded` with at least a given number of digits, `Hex.signed` an integer with a
minus sign in front where it is negative, and `Hex.ofBytes` bytes with two digits each.
`Hex.bytes?` reads bytes back (`bytes?_ofBytes`); it takes capital digits too.
`Hex.natOfDigits?` reads a number back, with zeros in front or without
(`natOfDigits?_digits`, `natOfDigits?_padded`).
-/

namespace LinkOwnership.Text.Hex

set_option autoImplicit false

/-- The digits of a number, most significant first. -/
def digits (n : Nat) : List Char := Nat.toDigits 16 n

/-- The digits of a number with zeros in front, up to `width` digits. -/
def padded (width n : Nat) : List Char :=
  List.replicate (width - (digits n).length) '0' ++ digits n

/-- An integer: a sign if it is negative, and the digits of its size. -/
def signed : Int → List Char
  | .ofNat n => digits n
  | .negSucc n => '-' :: digits (n + 1)

def digit (n : Nat) : Char := Nat.digitChar n

/-- The value of a digit in either case. -/
def digitValue? (c : Char) : Option Nat :=
  if '0' ≤ c ∧ c ≤ '9' then some (c.toNat - '0'.toNat)
  else if 'a' ≤ c ∧ c ≤ 'f' then some (c.toNat - 'a'.toNat + 10)
  else if 'A' ≤ c ∧ c ≤ 'F' then some (c.toNat - 'A'.toNat + 10)
  else none

def ofBytes : List UInt8 → List Char
  | [] => []
  | b :: rest => digit (b.toNat / 16) :: digit (b.toNat % 16) :: ofBytes rest

/-- The bytes that pairs of digits stand for. -/
def bytes? : List Char → Option (List UInt8)
  | [] => some []
  | high :: low :: rest => do
      let h ← digitValue? high
      let l ← digitValue? low
      let bytes ← bytes? rest
      return UInt8.ofNat (16 * h + l) :: bytes
  | [_] => none

def natOfDigits? : List Char → Option Nat
  | [] => none
  | cs => cs.foldlM (fun n c => (digitValue? c).map (16 * n + ·)) 0

theorem digitValue?_digit : ∀ n < 16, digitValue? (digit n) = some n := by decide

theorem bytes?_ofBytes (bytes : List UInt8) : bytes? (ofBytes bytes) = some bytes := by
  induction bytes with
  | nil => rfl
  | cons b rest ih =>
      have bound : b.toNat < 256 := b.toNat_lt
      simp only [ofBytes, bytes?, digitValue?_digit _ (show b.toNat / 16 < 16 by omega),
        digitValue?_digit _ (show b.toNat % 16 < 16 by omega), ih, Option.bind_eq_bind,
        Option.bind_some, Option.pure_def, Option.some.injEq, List.cons.injEq, and_true]
      rw [Nat.div_add_mod]
      exact UInt8.ofNat_toNat

/-! ## A number and its digits -/

theorem digits_ne_nil (n : Nat) : digits n ≠ [] := Nat.toDigits_ne_nil

theorem exists_digit_of_mem_digits {n : Nat} {c : Char} (h : c ∈ digits n) :
    ∃ k < 16, c = digit k := by
  induction n using Nat.strongRecOn with
  | ind n ih =>
      rw [digits, Nat.toDigits_eq_if (by decide)] at h
      split at h
      · rename_i small
        exact ⟨n, small, List.mem_singleton.1 h⟩
      · rcases List.mem_append.1 h with high | low
        · exact ih (n / 16) (by omega) high
        · exact ⟨n % 16, Nat.mod_lt n (by decide), List.mem_singleton.1 low⟩

theorem exists_digit_of_mem_padded {width n : Nat} {c : Char} (h : c ∈ padded width n) :
    ∃ k < 16, c = digit k := by
  rcases List.mem_append.1 h with zero | inside
  · exact ⟨0, by decide, List.eq_of_mem_replicate zero⟩
  · exact exists_digit_of_mem_digits inside

/-- A number whose digits fit the width is written in exactly that many digits. -/
theorem length_padded {width n : Nat} (fits : (digits n).length ≤ width) :
    (padded width n).length = width := by
  rw [padded, List.length_append, List.length_replicate]
  omega

/-- The reader's fold over the digits of a number, from nothing. -/
private theorem foldlM_digits (n : Nat) :
    (digits n).foldlM (fun n c => (digitValue? c).map (16 * n + ·)) 0 = some n := by
  induction n using Nat.strongRecOn with
  | ind n ih =>
      rw [digits, Nat.toDigits_eq_if (by decide)]
      split
      · rename_i small
        rw [List.foldlM_cons, show Nat.digitChar n = digit n from rfl, digitValue?_digit n small]
        simp
      · have low : digitValue? (Nat.digitChar (n % 16)) = some (n % 16) :=
          digitValue?_digit _ (Nat.mod_lt n (by decide))
        rw [List.foldlM_append, show Nat.toDigits 16 (n / 16) = digits (n / 16) from rfl,
          ih (n / 16) (by omega), Option.bind_eq_bind, Option.bind_some, List.foldlM_cons, low]
        simp only [Option.map_some, Option.bind_eq_bind, Option.bind_some, List.foldlM_nil,
          Option.pure_def, Nat.div_add_mod]

/-- Zeros in front leave the fold at nothing. -/
private theorem foldlM_zeros (count : Nat) :
    (List.replicate count '0').foldlM (fun n c => (digitValue? c).map (16 * n + ·)) 0
      = some 0 := by
  induction count with
  | zero => rfl
  | succ count ih => simpa [List.replicate_succ, digitValue?] using ih

theorem natOfDigits?_digits (n : Nat) : natOfDigits? (digits n) = some n := by
  cases cs : digits n with
  | nil => exact absurd cs (digits_ne_nil n)
  | cons c cs' =>
      rw [natOfDigits?, ← cs, foldlM_digits]
      exact List.cons_ne_nil c cs'

theorem natOfDigits?_padded (width n : Nat) : natOfDigits? (padded width n) = some n := by
  cases cs : padded width n with
  | nil => exact absurd (List.append_eq_nil_iff.1 cs).2 (digits_ne_nil n)
  | cons c cs' =>
      rw [natOfDigits?, ← cs, padded, List.foldlM_append, foldlM_zeros, Option.bind_eq_bind,
        Option.bind_some, foldlM_digits]
      exact List.cons_ne_nil c cs'

end LinkOwnership.Text.Hex
