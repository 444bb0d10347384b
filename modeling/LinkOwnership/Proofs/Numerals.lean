/-
# LinkOwnership.Proofs.Numerals -- integers that can be written

An integer fits when it has no more digits than are written, which is so when it is small enough
(`Text.Integer.fits_of_lt`).  An integer of 32 bits is (`Text.Integer.fits_of_int32`), and so is one
that was read from a text, because no longer numerals are read (`Text.Integer.fits_of_parse`).  What
is unknown of such a user is said in words (`PackageRef.unknown_of_fits`).
-/
import Mathlib.Data.List.Induction
import Mathlib.Data.Nat.Digits.Defs
import LinkOwnership.Registry.Basic
import LinkOwnership.Wire.Number

namespace LinkOwnership

set_option autoImplicit false

namespace Text.Integer

theorem fits_of_lt {n : Int} (small : n.natAbs < 10 ^ maxDigits) : fits n = true :=
  decide_eq_true (Nat.toDigits_length 10 n.natAbs maxDigits (by decide) small)

theorem fits_of_int32 {n : Int} (int32 : Wire.FitsInt32 n) : fits n = true := by
  obtain ⟨least, greatest⟩ := int32
  have small : n.natAbs < 10 ^ 10 := by omega
  exact fits_of_lt (Nat.lt_of_lt_of_le small (Nat.pow_le_pow_right (by decide) (by decide)))

/-- A numeral of digits is less than the power of ten with as many zeros. -/
theorem natOfDigits_lt (ds : List Char) (digits : ∀ c ∈ ds, c.isDigit = true) :
    natOfDigits ds < 10 ^ ds.length := by
  induction ds using List.reverseRecOn with
  | nil => decide
  | append_singleton front c ih =>
      have before := ih fun d member => digits d (List.mem_append_left _ member)
      have last := digits c (List.mem_append_right _ (List.mem_singleton_self c))
      obtain ⟨_, atMost⟩ := (Bool.and_eq_true_iff.1 last).imp of_decide_eq_true of_decide_eq_true
      have value : c.toNat - '0'.toNat ≤ 9 := Nat.sub_le_of_le_add (show c.toNat ≤ 57 from atMost)
      rw [natOfDigits, List.foldl_append, List.foldl_cons, List.foldl_nil, List.length_append,
        List.length_singleton, Nat.pow_succ]
      change 10 * natOfDigits front + _ < _
      omega

theorem fits_of_plain {t : List Char} {n : Int} (read : plain t = .ok n) : fits n = true := by
  unfold plain at read
  simp only at read
  split at read
  · cases read
    exact fits_of_lt (Nat.pow_pos (by decide))
  · split at read
    · cases read
    · split at read
      · cases read
      · split at read
        · cases read
        · rename_i _ _ short whole
          replace whole := not_not.1 whole
          have bound := natOfDigits_lt ((splitSign t).2.takeWhile Char.isDigit)
            (List.all_eq_true.1 List.all_takeWhile)
          have small := Nat.lt_of_lt_of_le bound
            (Nat.pow_le_pow_right (by decide) (Nat.not_lt.1 short))
          cases read
          refine fits_of_lt ?_
          split
          · rwa [Int.natAbs_neg, Int.natAbs_natCast]
          · rwa [Int.natAbs_natCast]

/-- What is read can be written. -/
theorem fits_of_parse {t : List Char} {n : Int} (read : parse t = .ok n) : fits n = true := by
  unfold parse at read
  split at read
  · split at read
    · rename_i m again
      cases read
      obtain ⟨tidied, _, same⟩ := Option.map_eq_some_iff.1 again
      exact fits_of_plain same
    · cases read
  · exact fits_of_plain read

end Text.Integer

/-- Of a user whose number can be written it is said which package is unknown. -/
theorem PackageRef.unknown_of_fits (ref : PackageRef)
    (fits : ref.user.all Text.Integer.fits = true) :
    ref.unknown = .unknownPackage ref.user ref.package := Rejection.raised_of_fits _ fits

end LinkOwnership
