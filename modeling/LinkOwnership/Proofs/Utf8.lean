/-
# LinkOwnership.Proofs.Utf8 -- what was written as UTF-8 is read as it was, and nothing else is

Each character takes one to four bytes, and the first byte says how many.  The reader takes exactly
those bytes for the character, whatever follows (`Utf8.decodeFrom_encodeChar`), so a whole text
is read back (`Utf8.decode_encode`).  Conversely the bytes of a sequence that is read are those of
the character it is read as, so bytes are read as a text exactly when they are its UTF-8
(`Utf8.decode_eq_ok_iff`).
-/
import LinkOwnership.Proofs.Normalization
import LinkOwnership.Text.Utf8

namespace LinkOwnership.Text.Utf8

set_option autoImplicit false

/-! ## Bytes -/

theorem toNat_ofNat_of_lt {n : Nat} (small : n < 256) : (UInt8.ofNat n).toNat = n := by
  rw [UInt8.toNat_ofNat', Nat.mod_eq_of_lt small]

theorem isTail_iff (b : UInt8) : isTail b = true ↔ 0x80 ≤ b.toNat ∧ b.toNat < 0xC0 := by
  simp [isTail, UInt8.le_iff_toNat_le, UInt8.lt_iff_toNat_lt]

theorem isSecondOfThree_iff (a b : UInt8) :
    isSecondOfThree a b = true ↔ (0x80 ≤ b.toNat ∧ b.toNat < 0xC0) ∧
      (a.toNat = 0xE0 → 0xA0 ≤ b.toNat) ∧ (a.toNat = 0xED → b.toNat < 0xA0) := by
  simp [isSecondOfThree, isTail_iff, UInt8.le_iff_toNat_le, UInt8.lt_iff_toNat_lt,
    ← UInt8.toNat_inj, and_assoc, Decidable.imp_iff_not_or]

theorem isSecondOfFour_iff (a b : UInt8) :
    isSecondOfFour a b = true ↔ (0x80 ≤ b.toNat ∧ b.toNat < 0xC0) ∧
      (a.toNat = 0xF0 → 0x90 ≤ b.toNat) ∧ (a.toNat = 0xF4 → b.toNat < 0x90) := by
  simp [isSecondOfFour, isTail_iff, UInt8.le_iff_toNat_le, UInt8.lt_iff_toNat_lt,
    ← UInt8.toNat_inj, and_assoc, Decidable.imp_iff_not_or]

/-! ## Sequences -/

theorem decodeFrom_one (pos : Nat) {a : UInt8} (rest : List UInt8) (first : a.toNat < 0x80) :
    decodeFrom pos (a :: rest) = (decodeFrom (pos + 1) rest).map (Char.ofNat a.toNat :: ·) := by
  have ascii : a < 0x80 := UInt8.lt_iff_toNat_lt.2 first
  rw [decodeFrom.eq_def]
  simp only [ascii, if_true]

/-- A first byte of two, three or four is neither a character by itself nor out of order. -/
theorem starts_of_le {a : UInt8} (low : 0xC2 ≤ a.toNat) (high : a.toNat ≤ 0xF4) :
    ¬ a < 0x80 ∧ (decide (a < 0xC2) || decide (0xF4 < a)) = false := by
  simp only [UInt8.lt_iff_toNat_lt, Bool.or_eq_false_iff, decide_eq_false_iff_not]
  refine ⟨?_, ?_, ?_⟩
  · show ¬ a.toNat < 0x80; omega
  · show ¬ a.toNat < 0xC2; omega
  · show ¬ 0xF4 < a.toNat; omega

theorem decodeFrom_two (pos : Nat) {a b : UInt8} (rest : List UInt8) (low : 0xC2 ≤ a.toNat)
    (high : a.toNat < 0xE0) (second : isTail b = true) :
    decodeFrom pos (a :: b :: rest) =
      (decodeFrom (pos + 2) rest).map
        (Char.ofNat ((a.toNat - 0xC0) * 0x40 + tailBits b) :: ·) := by
  obtain ⟨notAscii, inOrder⟩ := starts_of_le low (by omega)
  have two : a < 0xE0 := UInt8.lt_iff_toNat_lt.2 high
  rw [decodeFrom.eq_def]
  simp only [notAscii, inOrder, two, second, if_true, if_false, Bool.false_eq_true]

theorem decodeFrom_three (pos : Nat) {a b c : UInt8} (rest : List UInt8) (low : 0xE0 ≤ a.toNat)
    (high : a.toNat < 0xF0) (second : isSecondOfThree a b = true) (third : isTail c = true) :
    decodeFrom pos (a :: b :: c :: rest) =
      (decodeFrom (pos + 3) rest).map
        (Char.ofNat ((a.toNat - 0xE0) * 0x1000 + tailBits b * 0x40 + tailBits c) :: ·) := by
  obtain ⟨notAscii, inOrder⟩ := starts_of_le (a := a) (by omega) (by omega)
  have notTwo : ¬ a < 0xE0 := fun less => Nat.not_lt.2 low (UInt8.lt_iff_toNat_lt.1 less)
  have three : a < 0xF0 := UInt8.lt_iff_toNat_lt.2 high
  rw [decodeFrom.eq_def]
  simp only [notAscii, inOrder, notTwo, three, second, third, if_true, if_false,
    Bool.false_eq_true]

theorem decodeFrom_four (pos : Nat) {a b c d : UInt8} (rest : List UInt8) (low : 0xF0 ≤ a.toNat)
    (high : a.toNat ≤ 0xF4) (second : isSecondOfFour a b = true) (third : isTail c = true)
    (fourth : isTail d = true) :
    decodeFrom pos (a :: b :: c :: d :: rest) =
      (decodeFrom (pos + 4) rest).map
        (Char.ofNat ((a.toNat - 0xF0) * 0x40000 + tailBits b * 0x1000 + tailBits c * 0x40
          + tailBits d) :: ·) := by
  obtain ⟨notAscii, inOrder⟩ := starts_of_le (a := a) (by omega) high
  have notThree : ¬ a < 0xF0 := fun less => Nat.not_lt.2 low (UInt8.lt_iff_toNat_lt.1 less)
  have notTwo : ¬ a < 0xE0 := fun less =>
    Nat.not_lt.2 (Nat.le_trans (by decide) low) (UInt8.lt_iff_toNat_lt.1 less)
  rw [decodeFrom.eq_def]
  simp only [notAscii, inOrder, notTwo, notThree, second, third, fourth, if_true, if_false,
    Bool.false_eq_true]

/-! ## Characters -/

/-- Six bits as a byte that follows another. -/
theorem tail_ofNat {m : Nat} (six : m < 0x40) :
    isTail (UInt8.ofNat (0x80 + m)) = true ∧ tailBits (UInt8.ofNat (0x80 + m)) = m := by
  have value : (UInt8.ofNat (0x80 + m)).toNat = 0x80 + m := toNat_ofNat_of_lt (by omega)
  constructor
  · rw [isTail_iff, value]
    exact ⟨Nat.le_add_right _ _, Nat.add_lt_add_left six 0x80⟩
  · unfold tailBits
    rw [value]
    exact Nat.add_sub_cancel_left ..

/-- The reader takes exactly the bytes of a character for it. -/
theorem decodeFrom_encodeChar (pos : Nat) (c : Char) (rest : List UInt8) :
    decodeFrom pos (encodeChar c ++ rest) =
      (decodeFrom (pos + (encodeChar c).length) rest).map (c :: ·) := by
  have scalar : c.toNat < 0xD800 ∨ 0xDFFF < c.toNat ∧ c.toNat < 0x110000 := c.valid
  have back : Char.ofNat c.toNat = c := Char.ofNat_toNat c
  unfold encodeChar
  simp only
  generalize c.toNat = n at scalar back
  obtain ⟨lastTail, lastBits⟩ := tail_ofNat (m := n % 0x40) (by omega)
  obtain ⟨middleTail, middleBits⟩ := tail_ofNat (m := n / 0x40 % 0x40) (by omega)
  by_cases one : n < 0x80
  · have first : (UInt8.ofNat n).toNat = n := toNat_ofNat_of_lt (by omega)
    have step := decodeFrom_one pos (a := UInt8.ofNat n) rest (by rw [first]; exact one)
    rw [first, back] at step
    rw [if_pos one]
    exact step
  · by_cases two : n < 0x800
    · have first : (UInt8.ofNat (0xC0 + n / 0x40)).toNat = 0xC0 + n / 0x40 :=
        toNat_ofNat_of_lt (by omega)
      have number : (0xC0 + n / 0x40 - 0xC0) * 0x40 + n % 0x40 = n := by omega
      have step := decodeFrom_two pos rest (by rw [first]; omega) (by rw [first]; omega) lastTail
      rw [first, lastBits, number, back] at step
      rw [if_neg one, if_pos two]
      exact step
    · by_cases three : n < 0x10000
      · have first : (UInt8.ofNat (0xE0 + n / 0x1000)).toNat = 0xE0 + n / 0x1000 :=
          toNat_ofNat_of_lt (by omega)
        have number : (0xE0 + n / 0x1000 - 0xE0) * 0x1000 + n / 0x40 % 0x40 * 0x40 + n % 0x40 = n := by
          omega
        have second : isSecondOfThree (UInt8.ofNat (0xE0 + n / 0x1000))
            (UInt8.ofNat (0x80 + n / 0x40 % 0x40)) = true := by
          rw [isSecondOfThree_iff, first, toNat_ofNat_of_lt (by omega)]
          omega
        have step := decodeFrom_three pos rest (by rw [first]; omega) (by rw [first]; omega) second
          lastTail
        rw [first, middleBits, lastBits, number, back] at step
        rw [if_neg one, if_neg two, if_pos three]
        exact step
      · have first : (UInt8.ofNat (0xF0 + n / 0x40000)).toNat = 0xF0 + n / 0x40000 :=
          toNat_ofNat_of_lt (by omega)
        have secondBits := (tail_ofNat (m := n / 0x1000 % 0x40) (by omega)).2
        have number : (0xF0 + n / 0x40000 - 0xF0) * 0x40000 + n / 0x1000 % 0x40 * 0x1000
            + n / 0x40 % 0x40 * 0x40 + n % 0x40 = n := by
          omega
        have second : isSecondOfFour (UInt8.ofNat (0xF0 + n / 0x40000))
            (UInt8.ofNat (0x80 + n / 0x1000 % 0x40)) = true := by
          rw [isSecondOfFour_iff, first, toNat_ofNat_of_lt (by omega)]
          omega
        have step := decodeFrom_four pos rest (by rw [first]; omega) (by rw [first]; omega) second
          middleTail lastTail
        rw [first, secondBits, middleBits, lastBits, number, back] at step
        rw [if_neg one, if_neg two, if_neg three]
        exact step

/-! ## Texts -/

theorem decodeFrom_encode (pos : Nat) (t : List Char) : decodeFrom pos (encode t) = .ok t := by
  induction t generalizing pos with
  | nil => exact decodeFrom.eq_def pos []
  | cons c rest ih =>
      rw [encode, List.flatMap_cons, decodeFrom_encodeChar]
      have behind := ih (pos + (encodeChar c).length)
      rw [encode] at behind
      rw [behind]
      rfl

/-- A text is read back from its UTF-8. -/
theorem decode_encode (t : List Char) : decode (encode t) = .ok t := decodeFrom_encode 0 t

theorem decode_encodeString (s : String) : decode (encodeString s) = .ok s.toList :=
  decode_encode s.toList

/-! ## Nothing else is read -/

/-- What the bytes of a character are, by the size of its number. -/
theorem encodeChar_ofNat {n : Nat} (scalar : n < 0xD800 ∨ 0xDFFF < n ∧ n < 0x110000) :
    encodeChar (Char.ofNat n) =
      if n < 0x80 then [UInt8.ofNat n]
      else if n < 0x800 then [UInt8.ofNat (0xC0 + n / 0x40), UInt8.ofNat (0x80 + n % 0x40)]
      else if n < 0x10000 then
        [UInt8.ofNat (0xE0 + n / 0x1000), UInt8.ofNat (0x80 + n / 0x40 % 0x40),
          UInt8.ofNat (0x80 + n % 0x40)]
      else
        [UInt8.ofNat (0xF0 + n / 0x40000), UInt8.ofNat (0x80 + n / 0x1000 % 0x40),
          UInt8.ofNat (0x80 + n / 0x40 % 0x40), UInt8.ofNat (0x80 + n % 0x40)] := by
  unfold encodeChar
  rw [Text.toNat_ofNat_of_lt (by omega) (by omega)]

theorem ofNat_of_toNat_eq {n : Nat} {a : UInt8} (same : a.toNat = n) : UInt8.ofNat n = a := by
  rw [← same, UInt8.ofNat_toNat]

/-- The bits of a byte that follows another, below the mark that says it does. -/
theorem tailBits_of_isTail {b : UInt8} (tail : isTail b = true) :
    tailBits b < 0x40 ∧ b.toNat = 0x80 + tailBits b := by
  obtain ⟨low, high⟩ := (isTail_iff b).1 tail
  constructor
  · exact Nat.sub_lt_left_of_lt_add low high
  · exact (Nat.add_sub_cancel' low).symm

theorem encodeChar_one {a : UInt8} (first : a.toNat < 0x80) :
    encodeChar (Char.ofNat a.toNat) = [a] := by
  rw [encodeChar_ofNat (Or.inl (Nat.lt_trans first (by decide))), if_pos first,
    UInt8.ofNat_toNat]

/-- The first byte of two, three or four says so when it is read. -/
theorem bounds_of_starts {a : UInt8}
    (inOrder : ¬ (decide (a < 0xC2) || decide (0xF4 < a)) = true) :
    0xC2 ≤ a.toNat ∧ a.toNat ≤ 0xF4 := by
  simp only [UInt8.lt_iff_toNat_lt, Bool.or_eq_true, decide_eq_true_eq, not_or, Nat.not_lt]
    at inOrder
  exact inOrder

theorem encodeChar_two {a b : UInt8} (low : 0xC2 ≤ a.toNat) (high : a.toNat < 0xE0)
    (second : isTail b = true) :
    encodeChar (Char.ofNat ((a.toNat - 0xC0) * 0x40 + tailBits b)) = [a, b] := by
  obtain ⟨six, secondByte⟩ := tailBits_of_isTail second
  generalize tailBits b = m at six secondByte
  generalize firstByte : a.toNat = x at low high
  rw [encodeChar_ofNat (by omega), if_neg (by omega), if_pos (by omega),
    ofNat_of_toNat_eq (a := a) (by omega), ofNat_of_toNat_eq (a := b) (by omega)]

theorem encodeChar_three {a b c : UInt8} (low : 0xE0 ≤ a.toNat) (high : a.toNat < 0xF0)
    (second : isSecondOfThree a b = true) (third : isTail c = true) :
    encodeChar (Char.ofNat ((a.toNat - 0xE0) * 0x1000 + tailBits b * 0x40 + tailBits c)) =
      [a, b, c] := by
  obtain ⟨secondTail, notOverlong, notSurrogate⟩ := (isSecondOfThree_iff a b).1 second
  obtain ⟨six, secondByte⟩ := tailBits_of_isTail ((isTail_iff b).2 secondTail)
  obtain ⟨six', thirdByte⟩ := tailBits_of_isTail third
  generalize tailBits b = m at six secondByte
  generalize tailBits c = k at six' thirdByte
  generalize firstByte : a.toNat = x at low high notOverlong notSurrogate
  rw [encodeChar_ofNat (by omega), if_neg (by omega), if_neg (by omega), if_pos (by omega),
    ofNat_of_toNat_eq (a := a) (by omega), ofNat_of_toNat_eq (a := b) (by omega),
    ofNat_of_toNat_eq (a := c) (by omega)]

theorem encodeChar_four {a b c d : UInt8} (low : 0xF0 ≤ a.toNat) (high : a.toNat ≤ 0xF4)
    (second : isSecondOfFour a b = true) (third : isTail c = true) (fourth : isTail d = true) :
    encodeChar (Char.ofNat ((a.toNat - 0xF0) * 0x40000 + tailBits b * 0x1000 + tailBits c * 0x40
      + tailBits d)) = [a, b, c, d] := by
  obtain ⟨secondTail, notOverlong, notBeyond⟩ := (isSecondOfFour_iff a b).1 second
  obtain ⟨six, secondByte⟩ := tailBits_of_isTail ((isTail_iff b).2 secondTail)
  obtain ⟨six', thirdByte⟩ := tailBits_of_isTail third
  obtain ⟨six'', fourthByte⟩ := tailBits_of_isTail fourth
  generalize tailBits b = m at six secondByte
  generalize tailBits c = k at six' thirdByte
  generalize tailBits d = l at six'' fourthByte
  generalize firstByte : a.toNat = x at low high notOverlong notBeyond
  rw [encodeChar_ofNat (by omega), if_neg (by omega), if_neg (by omega), if_neg (by omega),
    ofNat_of_toNat_eq (a := a) (by omega), ofNat_of_toNat_eq (a := b) (by omega),
    ofNat_of_toNat_eq (a := c) (by omega), ofNat_of_toNat_eq (a := d) (by omega)]

theorem map_cons_eq_ok {pos : Nat} {rest : List UInt8} {c : Char} {t : List Char}
    (read : (decodeFrom pos rest).map (c :: ·) = .ok t) :
    ∃ t', decodeFrom pos rest = .ok t' ∧ t = c :: t' := by
  cases behind : decodeFrom pos rest with
  | error fault => rw [behind] at read; cases read
  | ok t' => rw [behind] at read; cases read; exact ⟨t', rfl, rfl⟩

/-- Only the bytes of a text are read as a text. -/
theorem encode_of_decodeFrom {pos : Nat} {bytes : List UInt8} {t : List Char}
    (read : decodeFrom pos bytes = .ok t) : encode t = bytes := by
  fun_induction decodeFrom pos bytes generalizing t with
  | case1 pos => cases read; rfl
  | case2 pos a rest ascii ih =>
      obtain ⟨t', behind, rfl⟩ := map_cons_eq_ok read
      have first : a.toNat < 0x80 := UInt8.lt_iff_toNat_lt.1 ascii
      rw [encode, List.flatMap_cons, encodeChar_one first]
      exact congrArg (a :: ·) (ih behind)
  | case5 pos a notAscii inOrder two b rest second ih =>
      obtain ⟨t', behind, rfl⟩ := map_cons_eq_ok read
      obtain ⟨low, _⟩ := bounds_of_starts inOrder
      rw [encode, List.flatMap_cons, encodeChar_two low (UInt8.lt_iff_toNat_lt.1 two) second]
      exact congrArg ([a, b] ++ ·) (ih behind)
  | case9 pos a notAscii inOrder notTwo three b second c rest third ih =>
      obtain ⟨t', behind, rfl⟩ := map_cons_eq_ok read
      have low : 0xE0 ≤ a.toNat := by
        rw [UInt8.lt_iff_toNat_lt, Nat.not_lt] at notTwo
        exact notTwo
      rw [encode, List.flatMap_cons,
        encodeChar_three low (UInt8.lt_iff_toNat_lt.1 three) second third]
      exact congrArg ([a, b, c] ++ ·) (ih behind)
  | case15 pos a notAscii inOrder notTwo notThree b second c third d rest fourth ih =>
      obtain ⟨t', behind, rfl⟩ := map_cons_eq_ok read
      obtain ⟨_, high⟩ := bounds_of_starts inOrder
      have low : 0xF0 ≤ a.toNat := by
        rw [UInt8.lt_iff_toNat_lt, Nat.not_lt] at notThree
        exact notThree
      rw [encode, List.flatMap_cons, encodeChar_four low high second third fourth]
      exact congrArg ([a, b, c, d] ++ ·) (ih behind)
  | _ => cases read

/-- The texts that bytes are read as are those whose UTF-8 the bytes are. -/
theorem decode_eq_ok_iff {bytes : List UInt8} {t : List Char} :
    decode bytes = .ok t ↔ encode t = bytes := by
  constructor
  · exact encode_of_decodeFrom
  · rintro rfl
    exact decode_encode t

end LinkOwnership.Text.Utf8
