/-
# LinkOwnership.Proofs.Codes -- codes in words, told apart

The words for a code are the label of its state, or its number in base sixteen.  Numerals are
described by their digits alone (`Hex.IsNumeral`); they are exactly what is written of positive
numbers (`Hex.isNumeral_iff`) and, with a minus sign in front or not, of integers other than zero
(`Hex.isSignedNumeral_iff`).

No label is a numeral (`LinkState.not_isSignedNumeral_label`), so the words tell which value they
were put for (`LinkState.ofWords?_of_diagnostic`), and no two values share theirs
(`LinkState.codes_told_apart`).  An integer that is too long to be written in base ten has no words
in base sixteen either, because its rejection is written first (`LinkState.diagnostic_of_long`).
-/
import Mathlib.Algebra.Group.Int.Defs
import Mathlib.Data.List.Basic
import Mathlib.Data.List.Induction
import LinkOwnership.LinkState

namespace LinkOwnership

set_option autoImplicit false

open Text

/-! ## Numerals -/

namespace Text.Hex

/-- The digits that are written, in the order of their values. -/
def lowerDigits : List Char := "0123456789abcdef".toList

/-- Lower-case digits, the first of which is not zero. -/
structure IsNumeral (ds : List Char) : Prop where
  filled : ds ≠ []
  lower : ∀ c ∈ ds, c ∈ lowerDigits
  leading : ds.head? ≠ some '0'

instance (ds : List Char) : Decidable (IsNumeral ds) :=
  -- Digit by digit; otherwise every character that there is would be tried.
  haveI := List.decidableBAll (· ∈ lowerDigits) ds
  decidable_of_iff (ds ≠ [] ∧ (∀ c ∈ ds, c ∈ lowerDigits) ∧ ds.head? ≠ some '0')
    ⟨fun ⟨filled, lower, leading⟩ => ⟨filled, lower, leading⟩,
      fun numeral => ⟨numeral.filled, numeral.lower, numeral.leading⟩⟩

/-- A numeral, with a minus sign in front or without. -/
def IsSignedNumeral (t : List Char) : Prop := ∃ ds, IsNumeral ds ∧ (t = ds ∨ t = '-' :: ds)

/-- The integer that a text stands for in base sixteen. -/
def intOfText? : List Char → Option Int
  | '-' :: ds => (natOfDigits? ds).map fun n => -(n : Int)
  | ds => (natOfDigits? ds).map fun n => (n : Int)

variable {ds t : List Char} {n : Nat}

theorem mem_lowerDigits_iff {c : Char} : c ∈ lowerDigits ↔ ∃ k < 16, digit k = c := by
  have listed : lowerDigits = (List.range 16).map digit := by decide
  simp only [listed, List.mem_map, List.mem_range]

theorem mem_lowerDigits_of_mem_digits {c : Char} (member : c ∈ digits n) : c ∈ lowerDigits := by
  obtain ⟨k, small, rfl⟩ := exists_digit_of_mem_digits member
  exact mem_lowerDigits_iff.2 ⟨k, small, rfl⟩

/-- A positive number is written without zeros in front. -/
theorem head?_digits_ne_zero (positive : n ≠ 0) : (digits n).head? ≠ some '0' := by
  induction n using Nat.strongRecOn with
  | ind n ih =>
      by_cases small : n < 16
      · rw [digits, Nat.toDigits_of_lt_base small]
        simpa using positive
      · -- The first digit is that of the quotient, which is not zero either.
        have front : (digits n).head? = (digits (n / 16)).head? := by
          rw [digits, Nat.toDigits_of_base_le (by decide) (by omega)]
          exact List.head?_append_of_ne_nil _ (digits_ne_nil (n / 16))
        rw [front]
        exact ih (n / 16) (by omega) (by omega)

theorem isNumeral_digits (positive : n ≠ 0) : IsNumeral (digits n) where
  filled := digits_ne_nil n
  lower _ := mem_lowerDigits_of_mem_digits
  leading := head?_digits_ne_zero positive

/-- By induction from the last digit: what stands in front of it is a numeral or nothing. -/
theorem IsNumeral.exists_digits (numeral : IsNumeral ds) : ∃ n, n ≠ 0 ∧ ds = digits n := by
  induction ds using List.reverseRecOn with
  | nil => exact absurd rfl numeral.filled
  | append_singleton front c ih =>
      obtain ⟨k, small, rfl⟩ := mem_lowerDigits_iff.1 (numeral.lower c List.mem_concat_self)
      have last : [digit k] = digits k := (Nat.toDigits_of_lt_base small).symm
      by_cases single : front = []
      · subst single
        refine ⟨k, fun zero => numeral.leading ?_, last⟩
        rw [zero]
        rfl
      · have shorter : IsNumeral front := by
          refine ⟨single, fun c member => numeral.lower c (List.mem_append_left _ member), ?_⟩
          rw [← List.head?_append_of_ne_nil front single]
          exact numeral.leading
        obtain ⟨n, positive, rfl⟩ := ih shorter
        refine ⟨16 * n + k, by omega, ?_⟩
        rw [last]
        exact Nat.toDigits_append_toDigits (by decide) (Nat.pos_of_ne_zero positive) small

/-- Numerals are the digits of the positive numbers. -/
theorem isNumeral_iff : IsNumeral ds ↔ ∃ n, n ≠ 0 ∧ ds = digits n := by
  constructor
  · exact IsNumeral.exists_digits
  · rintro ⟨n, positive, rfl⟩
    exact isNumeral_digits positive

theorem isSignedNumeral_iff : IsSignedNumeral t ↔ ∃ n : Int, n ≠ 0 ∧ t = signed n := by
  constructor
  · rintro ⟨ds, numeral, same⟩
    obtain ⟨n, positive, rfl⟩ := isNumeral_iff.1 numeral
    rcases same with rfl | rfl
    · exact ⟨n, Int.natCast_ne_zero.2 positive, rfl⟩
    · obtain ⟨m, rfl⟩ := Nat.exists_eq_succ_of_ne_zero positive
      exact ⟨.negSucc m, Int.negSucc_ne_zero m, rfl⟩
  · rintro ⟨n, other, rfl⟩
    cases n with
    | ofNat n => exact ⟨digits n, isNumeral_digits (by simpa using other), .inl rfl⟩
    | negSucc n => exact ⟨digits (n + 1), isNumeral_digits (Nat.succ_ne_zero n), .inr rfl⟩

theorem intOfText?_signed (n : Int) : intOfText? (signed n) = some n := by
  cases n with
  | ofNat n =>
      have unsigned (ds : List Char) (same : digits n = '-' :: ds) : False := by
        have sign : '-' ∈ digits n := same ▸ List.mem_cons_self
        exact absurd (mem_lowerDigits_of_mem_digits sign) (by decide)
      rw [signed, intOfText?, natOfDigits?_digits]
      · rfl
      · exact unsigned
  | negSucc n =>
      rw [signed, intOfText?, natOfDigits?_digits]
      rfl

/-- An integer has one signed numeral. -/
theorem eq_signed_of_intOfText? {n : Int} (numeral : IsSignedNumeral t)
    (read : intOfText? t = some n) : t = signed n := by
  obtain ⟨m, _, rfl⟩ := isSignedNumeral_iff.1 numeral
  rw [intOfText?_signed, Option.some.injEq] at read
  rw [read]

end Text.Hex

/-! ## Words -/

namespace LinkState

theorem diagnostic_code (s : LinkState) :
    diagnostic (.int s.code) = .ok ("DOMAIN_STATE_" ++ s.label) := by
  rw [diagnostic, ofValue_code]

theorem ofValue_of_unknown {n : Int} (unknown : ∀ s : LinkState, n ≠ s.code) :
    ofValue (.int n) = .error (Rejection.unknownCode (.int n)).raised := by
  simp only [ofValue, (ofCode?_eq_none_iff n).2 unknown]

/-- A value that is no code has words when it has a number and its rejection can be written. -/
theorem diagnostic_of_error {v : Json.Value}
    (unknown : ofValue v = .error (Rejection.unknownCode v).raised) :
    diagnostic v = if v.fits then hexadecimal v else .error .longNumeral := by
  rw [diagnostic, unknown]
  cases fits : v.fits with
  | true => rw [Rejection.raised_of_fits (.unknownCode v) fits, if_pos rfl]
  | false => rw [Rejection.raised_of_long (.unknownCode v) fits, if_neg Bool.false_ne_true]

theorem not_isSignedNumeral_label (s : LinkState) :
    ¬ Hex.IsSignedNumeral ("DOMAIN_STATE_" ++ s.label).toList := by
  have opens : ("DOMAIN_STATE_" ++ s.label).toList
      = 'D' :: ("OMAIN_STATE_".toList ++ s.label.toList) := by
    rw [String.toList_append]
    rfl
  rintro ⟨ds, numeral, same⟩
  rw [opens] at same
  rcases same with rfl | signed
  · exact absurd (numeral.lower 'D' List.mem_cons_self) (by decide)
  · exact absurd (List.cons.inj signed).1 (by decide)

/-- The value that words were put for.  A code that is known has a label, so the numbers 0 and 1
are left for the truth values. -/
def ofWords? (text : String) : Option Json.Value :=
  match all.find? fun s => text = "DOMAIN_STATE_" ++ s.label with
  | some s => some (.int s.code)
  | none => (Hex.intOfText? text.toList).map fun n =>
      if n = 0 then .bool false else if n = 1 then .bool true else .int n

theorem ofWords?_label (s : LinkState) :
    ofWords? ("DOMAIN_STATE_" ++ s.label) = some (.int s.code) := by
  cases s <;> rfl

section Unknown

variable {n : Int} (unknown : ∀ s : LinkState, n ≠ s.code)
include unknown

theorem diagnostic_of_unknown (fits : Integer.fits n = true) :
    diagnostic (.int n) = .ok (String.ofList (Hex.signed n)) :=
  (diagnostic_of_error (ofValue_of_unknown unknown)).trans (if_pos fits)

theorem isSignedNumeral_signed : Hex.IsSignedNumeral (Hex.signed n) :=
  Hex.isSignedNumeral_iff.2 ⟨n, unknown .unclaimed, rfl⟩

theorem signed_ne_label (s : LinkState) :
    String.ofList (Hex.signed n) ≠ "DOMAIN_STATE_" ++ s.label := by
  intro same
  refine not_isSignedNumeral_label s ?_
  rw [← same, String.toList_ofList]
  exact isSignedNumeral_signed unknown

theorem ofWords?_signed : ofWords? (String.ofList (Hex.signed n)) = some (.int n) := by
  have unlabelled :
      (all.find? fun s => String.ofList (Hex.signed n) = "DOMAIN_STATE_" ++ s.label) = none :=
    List.find?_eq_none.2 fun s _ => by simpa using signed_ne_label unknown s
  have zero : n ≠ 0 := unknown .unclaimed
  have one : n ≠ 1 := unknown .selected
  rw [ofWords?, unlabelled, String.toList_ofList, Hex.intOfText?_signed, Option.map_some, if_neg zero,
    if_neg one]

end Unknown

/-- An integer that is too long for a message has no words. -/
theorem diagnostic_of_long {n : Int} (long : Integer.fits n = false) :
    diagnostic (.int n) = .error .longNumeral := by
  have unknown (s : LinkState) : n ≠ s.code := by
    rintro rfl
    cases long.symm.trans (fits_code s)
  rw [diagnostic_of_error (ofValue_of_unknown unknown), if_neg]
  exact fun fits => Bool.false_ne_true (long.symm.trans fits)

/-- Words that were put for a value are read back as this value. -/
theorem ofWords?_of_diagnostic {v : Json.Value} {text : String} (put : diagnostic v = .ok text) :
    ofWords? text = some v := by
  cases v with
  | int n =>
      by_cases known : ∃ s : LinkState, n = s.code
      · obtain ⟨s, rfl⟩ := known
        rw [diagnostic_code] at put
        obtain rfl := Except.ok.inj put
        exact ofWords?_label s
      · have unknown := not_exists.1 known
        cases fits : Integer.fits n with
        | true =>
            rw [diagnostic_of_unknown unknown fits] at put
            obtain rfl := Except.ok.inj put
            exact ofWords?_signed unknown
        | false => cases (diagnostic_of_long fits).symm.trans put
  | bool b =>
      obtain rfl := Except.ok.inj put
      cases b <;> rfl
  | _ =>
      rw [diagnostic_of_error rfl] at put
      split at put <;> cases put

/-- The codes of the states have their labels for words.  Any other integer that is not too long to
be written in base ten has digits in base sixteen, in lower case and without zeros in front, with a
minus sign or without.  These are read back as the integer, no other such text is, and they are no
label.  Only an integer that is too long has no words.  So an integer that has words shares them
with no other integer, and any two values that have words have different ones, truth values among
them. -/
theorem codes_told_apart (n : Int) :
    (∀ s : LinkState, n = s.code → diagnostic (.int n) = .ok ("DOMAIN_STATE_" ++ s.label)) ∧
    (n ≠ 0 → n ≠ 1 → n ≠ 2 → Integer.fits n = true →
      ∃ text : String, diagnostic (.int n) = .ok text ∧ Hex.IsSignedNumeral text.toList ∧
        Hex.intOfText? text.toList = some n ∧
        (∀ other : String, Hex.IsSignedNumeral other.toList →
          Hex.intOfText? other.toList = some n → other = text) ∧
        ∀ s : LinkState, text ≠ "DOMAIN_STATE_" ++ s.label) ∧
    (diagnostic (.int n) = .error .longNumeral ↔ Integer.fits n = false) ∧
    (Integer.fits n = true → ∀ m : Int, diagnostic (.int m) = diagnostic (.int n) → m = n) ∧
    ∀ (v w : Json.Value) (text : String),
      diagnostic v = .ok text → diagnostic w = .ok text → v = w := by
  have apart (v w : Json.Value) (text : String) (put : diagnostic v = .ok text)
      (put' : diagnostic w = .ok text) : v = w :=
    Option.some.inj ((ofWords?_of_diagnostic put).symm.trans (ofWords?_of_diagnostic put'))
  have words (fits : Integer.fits n = true) : ∃ text, diagnostic (.int n) = .ok text := by
    by_cases known : ∃ s : LinkState, n = s.code
    · obtain ⟨s, rfl⟩ := known
      exact ⟨_, diagnostic_code s⟩
    · exact ⟨_, diagnostic_of_unknown (not_exists.1 known) fits⟩
  refine ⟨?known, fun zero one two fits => ?unknown, ⟨fun mute => ?short, diagnostic_of_long⟩,
    fun fits m same => ?injective, apart⟩
  case known =>
    rintro s rfl
    exact diagnostic_code s
  case unknown =>
    have unknown (s : LinkState) : n ≠ s.code := by
      cases s
      exacts [zero, one, two]
    refine ⟨_, diagnostic_of_unknown unknown fits, ?_⟩
    rw [String.toList_ofList]
    refine ⟨isSignedNumeral_signed unknown, Hex.intOfText?_signed n, fun other numeral read => ?_,
      signed_ne_label unknown⟩
    rw [← String.toList_inj, String.toList_ofList]
    exact Hex.eq_signed_of_intOfText? numeral read
  case short =>
    rw [← Bool.not_eq_true]
    intro fits
    obtain ⟨text, put⟩ := words fits
    cases put.symm.trans mute
  case injective =>
    obtain ⟨text, put⟩ := words fits
    exact Json.Value.int.inj (apart _ _ text (same.trans put) put)

/-- A negative integer beyond 64 bits, with zeros behind its first digit; the number of a code is
left for a truth value. -/
theorem codes_told_apart_negative :
    let code : Int := -18446744073709551616
    let text := "-10000000000000000"
    code ≠ 0 ∧ code ≠ 1 ∧ code ≠ 2 ∧ Integer.fits code = true ∧
      Hex.IsSignedNumeral text.toList ∧ Hex.intOfText? text.toList = some code ∧
      diagnostic (.int code) = .ok text ∧ (∀ s : LinkState, text ≠ "DOMAIN_STATE_" ++ s.label) ∧
      diagnostic (.int (-code)) ≠ diagnostic (.int code) ∧
      diagnostic (.bool true) = .ok "1" ∧ diagnostic (.int 1) ≠ .ok "1" := by
  intro code text
  obtain ⟨_, unknown, _, injective, apart⟩ := codes_told_apart code
  have other : code ≠ 0 ∧ code ≠ 1 ∧ code ≠ 2 := by decide
  have fits : Integer.fits code = true := by decide +kernel
  obtain ⟨written, words, _, _, unique, unlabelled⟩ := unknown other.1 other.2.1 other.2.2 fits
  have numeral : Hex.IsSignedNumeral text.toList :=
    ⟨"10000000000000000".toList, by decide, .inr (by decide)⟩
  have read : Hex.intOfText? text.toList = some code := by decide
  obtain rfl : text = written := unique text numeral read
  refine ⟨other.1, other.2.1, other.2.2, fits, numeral, read, words, unlabelled, fun same => ?_, rfl,
    fun same => ?_⟩
  · exact absurd (injective fits _ same) (by decide)
  · cases apart (.bool true) (.int 1) "1" rfl same

/-- The least positive integer with a digit too many has a numeral in base sixteen, and no words. -/
theorem wordless_of_digit_too_many :
    hexadecimal (.int (10 ^ 4300)) = .ok (String.ofList (Hex.signed (10 ^ 4300))) ∧
      diagnostic (.int (10 ^ 4300)) = .error .longNumeral :=
  ⟨rfl, diagnostic_of_long (by decide +kernel)⟩

end LinkState

end LinkOwnership
