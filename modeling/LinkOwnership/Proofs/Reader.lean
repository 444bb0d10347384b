/-
# LinkOwnership.Proofs.Reader -- what a reader takes off the bytes

The parts of a stored value have forms that are stated here without the reader: `IsInt32`,
`IsIdentifier` and `IsText`.  A reader `Parses` a form when it takes exactly a form of its value off
the front of the bytes.  Readers that are run one after the other parse one form after the other
(`Wire.Parses.bind`), so each reader needs one lemma.  A count is the exception: it looks at what
follows, and stands only before enough bytes (`Wire.count_bind_eq_iff`).

One fault counts apart from the others, that of an unknown code.  No reader here has it, so what is
`Heard` of readers that are run one after the other, a value or this fault, comes from the last of
them, and they are opened one at a time (`Wire.Parses.bind_eq_iff`).
-/
import LinkOwnership.Proofs.Records
import LinkOwnership.Proofs.Utf8
import LinkOwnership.Wire.Reader

namespace LinkOwnership

set_option autoImplicit false

namespace Wire

/-! ## Forms -/

/-- Four bytes that stand for a number, least byte first and with a sign. -/
def IsInt32 (n : Int) (bytes : List UInt8) : Prop :=
  bytes.length = 4 ∧ signed (natOfBytes bytes) = n

/-- Sixteen bytes that stand for an identifier, the upper half first. -/
def IsIdentifier (i : Identifier) (bytes : List UInt8) : Prop :=
  ∃ upper lower, upper.length = 8 ∧ lower.length = 8 ∧ bytes = upper ++ lower ∧
    Identifier.ofHalves (natOfBytes upper) (natOfBytes lower) = i

/-- A text: the number of its bytes in UTF-8, and these bytes. -/
def IsText (s : String) (bytes : List UInt8) : Prop :=
  ∃ length, IsInt32 (Text.Utf8.encodeString s).length length ∧
    bytes = length ++ Text.Utf8.encodeString s

theorem IsText.four_le {s : String} {bytes : List UInt8} (form : IsText s bytes) :
    4 ≤ bytes.length := by
  obtain ⟨length, counted, rfl⟩ := form
  rw [List.length_append]
  exact Nat.le_add_right_of_le (Nat.le_of_eq counted.1.symm)

/-! ## Readers of forms -/

namespace Reader

variable {α β : Type}

theorem bind_apply (reader : Reader α) (next : α → Reader β) (cursor : Cursor) :
    (reader >>= next) cursor = reader cursor >>= fun taken => next taken.1 taken.2 := rfl

theorem bind_of_error {reader : Reader α} {next : α → Reader β} {cursor : Cursor} {fault : Fault}
    (failed : reader cursor = .error fault) : (reader >>= next) cursor = .error fault := by
  rw [bind_apply, failed]
  rfl

/-- The reader has no fault that is an unknown code. -/
def Quiet (reader : Reader α) : Prop :=
  ∀ cursor fault, reader cursor = .error fault → fault.isUnknownCode = false

/-- A value, or the fault of an unknown code. -/
def Heard (outcome : Except Fault α) : Prop :=
  ∀ fault, outcome = .error fault → fault.isUnknownCode = true

theorem heard_ok (a : α) : Heard (.ok a) := nofun

theorem heard_unknownCode (code : Int) : Heard (.error (.unknownCode code) : Except Fault α) := by
  rintro fault ⟨⟩
  rfl

/-- What is heard of two readers comes from the second. -/
theorem bind_eq_heard_iff {reader : Reader α} (quiet : Quiet reader) {next : α → Reader β}
    {cursor : Cursor} {outcome : Except Fault (β × Cursor)} (heard : Heard outcome) :
    (reader >>= next) cursor = outcome ↔
      ∃ a cursor', reader cursor = .ok (a, cursor') ∧ next a cursor' = outcome := by
  rw [bind_apply]
  cases first : reader cursor with
  | ok taken =>
      constructor
      · exact fun behind => ⟨taken.1, taken.2, rfl, behind⟩
      · rintro ⟨a, cursor', same, behind⟩
        cases same
        exact behind
  | error fault =>
      constructor
      · rintro rfl
        have silent := quiet cursor fault first
        rw [heard fault rfl] at silent
        cases silent
      · rintro ⟨a, cursor', same, _⟩
        cases same

theorem Quiet.pure (a : α) : Quiet (Pure.pure a) := by
  intro cursor fault failed
  cases failed

theorem Quiet.throw {fault : Fault} (other : fault.isUnknownCode = false) :
    Quiet (throw fault : Reader α) := by
  intro cursor fault' failed
  cases failed
  exact other

theorem Quiet.bind {reader : Reader α} {next : α → Reader β} (first : Quiet reader)
    (second : ∀ a, Quiet (next a)) : Quiet (reader >>= next) := by
  intro cursor fault failed
  rw [bind_apply] at failed
  cases one : reader cursor with
  | ok taken =>
      rw [one] at failed
      exact second taken.1 taken.2 fault failed
  | error why =>
      rw [one] at failed
      cases failed
      exact first cursor fault one

theorem bind_pure_eq_error_iff {reader : Reader α} {f : α → β} {cursor : Cursor} {fault : Fault} :
    (reader >>= fun a => Pure.pure (f a)) cursor = .error fault ↔ reader cursor = .error fault := by
  rw [bind_apply]
  cases reader cursor with
  | error why => simp only [bind, Except.bind, Except.error.injEq]
  | ok taken => exact ⟨nofun, nofun⟩

theorem pure_eq_ok_iff {a b : α} {cursor cursor' : Cursor} :
    (Pure.pure a : Reader α) cursor = .ok (b, cursor') ↔ a = b ∧ cursor = cursor' := by
  show Except.ok (a, cursor) = .ok (b, cursor') ↔ _
  rw [Except.ok.injEq, Prod.mk.injEq]

theorem run_eq_ok_iff {reader : Reader α} {bytes : List UInt8} {a : α} :
    reader.run bytes = .ok a ↔ ∃ offset, reader ⟨0, bytes⟩ = .ok (a, ⟨offset, []⟩) := by
  rw [Wire.Reader.run, bind_eq_ok_iff]
  constructor
  · rintro ⟨⟨_, offset, rest⟩, read, ends⟩
    cases rest with
    | nil => cases ends; exact ⟨offset, read⟩
    | cons byte rest => cases ends
  · rintro ⟨offset, read⟩
    exact ⟨_, read, rfl⟩

theorem run_of_error {reader : Reader α} {bytes : List UInt8} {fault : Fault}
    (failed : reader ⟨0, bytes⟩ = .error fault) : reader.run bytes = .error fault := by
  show (reader ⟨0, bytes⟩ >>= _) = _
  rw [failed]
  rfl

/-- The fault of bytes that follow the value is another one. -/
theorem run_eq_unknownCode_iff {reader : Reader α} {bytes : List UInt8} {code : Int} :
    reader.run bytes = .error (.unknownCode code) ↔
      reader ⟨0, bytes⟩ = .error (.unknownCode code) := by
  rw [run]
  show (reader ⟨0, bytes⟩ >>= _) = _ ↔ _
  cases read : reader ⟨0, bytes⟩ with
  | error fault => simp only [bind, Except.bind, Except.error.injEq]
  | ok taken =>
      obtain ⟨a, offset, rest⟩ := taken
      refine ⟨fun failed => ?_, nofun⟩
      cases rest <;> cases failed

end Reader

open Reader (Quiet Heard)

/-- The reader takes exactly a form of its value off the front of the bytes, and has no fault that is
an unknown code. -/
structure Parses {α : Type} (reader : Reader α) (form : α → List UInt8 → Prop) : Prop where
  quiet : Quiet reader
  takes : ∀ {offset : Nat} {bytes : List UInt8} {a : α} {cursor : Cursor},
    reader ⟨offset, bytes⟩ = .ok (a, cursor) ↔
      ∃ front, form a front ∧ bytes = front ++ cursor.rest ∧
        cursor.offset = offset + front.length

namespace Parses

variable {α β : Type} {reader : Reader α} {form : α → List UInt8 → Prop}

/-- What is heard of a reader that goes on after a form. -/
theorem bind_eq_iff (parses : Parses reader form) {next : α → Reader β} {offset : Nat}
    {bytes : List UInt8} {outcome : Except Fault (β × Cursor)} (heard : Heard outcome) :
    (reader >>= next) ⟨offset, bytes⟩ = outcome ↔
      ∃ a front rest, form a front ∧ bytes = front ++ rest ∧
        next a ⟨offset + front.length, rest⟩ = outcome := by
  rw [Reader.bind_eq_heard_iff parses.quiet heard]
  constructor
  · rintro ⟨a, ⟨offset', rest⟩, taken, behind⟩
    obtain ⟨front, formed, rfl, rfl⟩ := parses.takes.1 taken
    exact ⟨a, front, rest, formed, rfl, behind⟩
  · rintro ⟨a, front, rest, formed, rfl, behind⟩
    exact ⟨a, _, parses.takes.2 ⟨front, formed, rfl, rfl⟩, behind⟩

/-- Behind a form the next reader goes on. -/
theorem bind_of_form (parses : Parses reader form) {next : α → Reader β} {a : α}
    {front rest : List UInt8} {offset : Nat} (formed : form a front) :
    (reader >>= next) ⟨offset, front ++ rest⟩ = next a ⟨offset + front.length, rest⟩ := by
  have taken : reader ⟨offset, front ++ rest⟩ = .ok (a, ⟨offset + front.length, rest⟩) :=
    parses.takes.2 ⟨front, formed, rfl, rfl⟩
  rw [Reader.bind_apply, taken]
  rfl

/-- One reader after the other takes one form after the other. -/
theorem bind {next : α → Reader β} (first : Parses reader form)
    (form' : α → β → List UInt8 → Prop) (second : ∀ a, Parses (next a) (form' a)) :
    Parses (reader >>= next) (fun b bytes =>
      ∃ a front back, form a front ∧ form' a b back ∧ bytes = front ++ back) where
  quiet := first.quiet.bind fun a => (second a).quiet
  takes := by
    intro offset bytes b cursor
    rw [first.bind_eq_iff (Reader.heard_ok _)]
    constructor
    · rintro ⟨a, front, rest, formed, rfl, behind⟩
      obtain ⟨back, formed', rfl, moved⟩ := (second a).takes.1 behind
      refine ⟨front ++ back, ⟨a, front, back, formed, formed', rfl⟩, ?_, ?_⟩
      · rw [List.append_assoc]
      · rw [moved, List.length_append, Nat.add_assoc]
    · rintro ⟨_, ⟨a, front, back, formed, formed', rfl⟩, rfl, moved⟩
      refine ⟨a, front, back ++ cursor.rest, formed, List.append_assoc .., ?_⟩
      refine (second a).takes.2 ⟨back, formed', rfl, ?_⟩
      rw [moved, List.length_append, Nat.add_assoc]

theorem pure (a : α) : Parses (Pure.pure a) (fun b bytes => a = b ∧ bytes = []) where
  quiet := .pure a
  takes := by
    intro offset bytes b cursor
    rw [Reader.pure_eq_ok_iff]
    constructor
    · rintro ⟨same, rfl⟩
      exact ⟨[], ⟨same, rfl⟩, rfl, rfl⟩
    · rintro ⟨_, ⟨same, rfl⟩, rfl, moved⟩
      rw [List.length_nil, Nat.add_zero] at moved
      rw [← moved, List.nil_append]
      exact ⟨same, rfl⟩

theorem throw {fault : Fault} (other : fault.isUnknownCode = false) :
    Parses (MonadExcept.throw fault : Reader α) (fun _ _ => False) where
  quiet := .throw other
  takes := by
    intro offset bytes a cursor
    constructor
    · intro read
      cases read
    · rintro ⟨_, never, _⟩
      exact never.elim

theorem congr {form' : α → List UInt8 → Prop} (parses : Parses reader form)
    (same : ∀ a bytes, form a bytes ↔ form' a bytes) : Parses reader form' where
  quiet := parses.quiet
  takes := by
    intro offset bytes a cursor
    simp only [parses.takes, same]

theorem take (n : Nat) :
    Parses (Reader.take n) (fun taken bytes => bytes.length = n ∧ taken = bytes) where
  quiet := by
    intro cursor fault failed
    unfold Reader.take at failed
    split at failed
    · cases failed
    · cases failed
      rfl
  takes := by
    intro offset bytes taken cursor
    constructor
    · intro read
      unfold Reader.take at read
      split at read
      · rename_i enough
        cases read
        refine ⟨bytes.take n, ⟨List.length_take_of_le enough, rfl⟩, (List.take_append_drop ..).symm, ?_⟩
        rw [List.length_take_of_le enough]
      · cases read
    · rintro ⟨front, ⟨rfl, rfl⟩, rfl, moved⟩
      have enough : taken.length ≤ (taken ++ cursor.rest).length := by
        rw [List.length_append]
        exact Nat.le_add_right ..
      rw [Reader.take, if_pos enough, List.take_left, List.drop_left, ← moved]

end Parses

theorem parses_int32 : Parses Reader.int32 IsInt32 := by
  refine ((Parses.take 4).bind _ fun bytes => .pure _).congr ?_
  intro n bytes
  constructor
  · rintro ⟨_, front, _, ⟨four, rfl⟩, ⟨value, rfl⟩, rfl⟩
    rw [List.append_nil]
    exact ⟨four, value⟩
  · rintro ⟨four, value⟩
    exact ⟨bytes, bytes, [], ⟨four, rfl⟩, ⟨value, rfl⟩, (List.append_nil _).symm⟩

theorem parses_identifier : Parses Reader.identifier IsIdentifier := by
  refine ((Parses.take 8).bind _ fun upper => (Parses.take 8).bind _ fun lower => .pure _).congr ?_
  intro i bytes
  constructor
  · rintro ⟨_, upper, _, ⟨eight, rfl⟩, ⟨_, lower, _, ⟨eight', rfl⟩, ⟨value, rfl⟩, rfl⟩, rfl⟩
    rw [List.append_nil]
    exact ⟨_, _, eight, eight', rfl, value⟩
  · rintro ⟨upper, lower, eight, eight', rfl, value⟩
    exact ⟨_, _, _, ⟨eight, rfl⟩,
      ⟨_, _, _, ⟨eight', rfl⟩, ⟨value, rfl⟩, (List.append_nil _).symm⟩, rfl⟩

/-- What stands behind the length of a text; the length -1 stands for a missing text. -/
def IsBody (length : Int) (s? : Option String) (bytes : List UInt8) : Prop :=
  s? = none ∧ length = -1 ∧ bytes = [] ∨
    ∃ s, s? = some s ∧ length = bytes.length ∧ Text.Utf8.encodeString s = bytes

/-- The bytes of a text are its UTF-8. -/
theorem parses_utf8 (bytes : List UInt8) :
    Parses
      (match Text.Utf8.decode bytes with
        | .ok chars => pure (some (String.ofList chars))
        | .error fault => throw (.badText fault) : Reader (Option String))
      (fun s? rest => ∃ s, s? = some s ∧ Text.Utf8.encodeString s = bytes ∧ rest = []) := by
  cases read : Text.Utf8.decode bytes with
  | error fault =>
      refine (Parses.throw rfl).congr fun s? rest => ⟨False.elim, ?_⟩
      rintro ⟨s, _, rfl, _⟩
      rw [Text.Utf8.decode_encodeString] at read
      cases read
  | ok chars =>
      refine (Parses.pure _).congr fun s? rest => ?_
      constructor
      · rintro ⟨rfl, rfl⟩
        refine ⟨_, rfl, ?_, rfl⟩
        rw [Text.Utf8.encodeString, String.toList_ofList]
        exact Text.Utf8.decode_eq_ok_iff.1 read
      · rintro ⟨s, rfl, rfl, rfl⟩
        rw [Text.Utf8.decode_encodeString] at read
        cases read
        rw [String.ofList_toList]
        exact ⟨rfl, rfl⟩

theorem parses_text : Parses Reader.text fun s? bytes =>
    ∃ length head body, IsInt32 length head ∧ IsBody length s? body ∧ bytes = head ++ body := by
  refine parses_int32.bind _ fun length => ?_
  split
  · rename_i missing
    refine (Parses.pure none).congr fun s? bytes => ?_
    constructor
    · rintro ⟨rfl, rfl⟩
      exact Or.inl ⟨rfl, missing, rfl⟩
    · rintro (⟨rfl, _, rfl⟩ | ⟨s, rfl, counted, _⟩)
      · exact ⟨rfl, rfl⟩
      · omega
  · rename_i given
    split
    · rename_i negative
      refine (Parses.throw rfl).congr fun s? bytes => ⟨False.elim, ?_⟩
      rintro (⟨_, missing, _⟩ | ⟨s, _, counted, _⟩)
      · exact given missing
      · omega
    · refine ((Parses.take length.toNat).bind _ parses_utf8).congr fun s? bytes => ?_
      constructor
      · rintro ⟨_, front, _, ⟨long, rfl⟩, ⟨s, rfl, written, rfl⟩, rfl⟩
        rw [List.append_nil]
        exact Or.inr ⟨s, rfl, by omega, written⟩
      · rintro (⟨_, missing, _⟩ | ⟨s, rfl, counted, written⟩)
        · exact absurd missing given
        · exact ⟨bytes, bytes, [], ⟨by omega, rfl⟩, ⟨s, rfl, written, rfl⟩,
            (List.append_nil _).symm⟩

theorem parses_requiredText (field : String) : Parses (Reader.requiredText field) IsText := by
  refine (parses_text.bind (fun s? s bytes => s? = some s ∧ bytes = []) ?_).congr ?_
  · intro s?
    cases s? with
    | none => exact (Parses.throw rfl).congr fun s bytes => by simp only [reduceCtorEq, false_and]
    | some s => exact (Parses.pure s).congr fun s' bytes => by simp only [Option.some.injEq]
  · intro s bytes
    constructor
    · rintro ⟨_, _, _, ⟨length, head, body, counted, written, rfl⟩, ⟨rfl, rfl⟩, rfl⟩
      obtain ⟨missing, _⟩ | ⟨s', same, rfl, rfl⟩ := written
      · cases missing
      · cases same
        rw [List.append_nil]
        exact ⟨head, counted, rfl⟩
    · rintro ⟨head, counted, rfl⟩
      exact ⟨some s, _, [], ⟨_, head, _, counted, Or.inr ⟨s, rfl, rfl, rfl⟩, rfl⟩, ⟨rfl, rfl⟩,
        (List.append_nil _).symm⟩

theorem parses_flags (allowed : UInt8) :
    Parses (Reader.flags allowed) fun bits bytes => bytes = [bits] ∧ bits &&& ~~~allowed = 0 := by
  refine (((Parses.take 1).bind _ fun bytes => .pure _).bind
    (fun n bits bytes => (UInt8.ofNat n = bits ∧ bytes = []) ∧ bits &&& ~~~allowed = 0)
    fun n => ?_).congr fun bits bytes => ?_
  · simp only
    split
    · rename_i known
      refine (Parses.pure _).congr fun bits bytes => ⟨fun same => ⟨same, ?_⟩, And.left⟩
      rw [← same.1, known]
    · rename_i unknown
      refine (Parses.throw rfl).congr fun bits bytes => ⟨False.elim, ?_⟩
      rintro ⟨⟨rfl, _⟩, known⟩
      exact unknown known
  · have value (b : UInt8) : UInt8.ofNat (natOfBytes [b]) = b := by
      rw [natOfBytes, natOfBytes, Nat.mul_zero, Nat.add_zero, UInt8.ofNat_toNat]
    constructor
    · rintro ⟨_, _, _, ⟨_, front, _, ⟨one, rfl⟩, ⟨rfl, rfl⟩, rfl⟩, ⟨⟨rfl, rfl⟩, known⟩, rfl⟩
      obtain ⟨b, rfl⟩ := List.length_eq_one_iff.1 one
      rw [value] at known ⊢
      exact ⟨rfl, known⟩
    · rintro ⟨rfl, known⟩
      exact ⟨_, [bits], [], ⟨_, [bits], [], ⟨rfl, rfl⟩, ⟨rfl, rfl⟩, rfl⟩, ⟨⟨value bits, rfl⟩, known⟩,
        rfl⟩

/-- Where one flag is allowed, there are two flag bytes, the one without it and the one with it. -/
theorem flag_cases {flag bits : UInt8} (single : ∃ k : Fin 8, flag = 1 <<< UInt8.ofNat k)
    (known : bits &&& ~~~flag = 0) : bits = 0 ∨ bits = flag := by
  have all : ∀ (k : Fin 8) (n : Fin 256), UInt8.ofFin n &&& ~~~(1 <<< UInt8.ofNat k) = 0 →
      UInt8.ofFin n = 0 ∨ UInt8.ofFin n = 1 <<< UInt8.ofNat k := by
    decide +kernel
  obtain ⟨k, rfl⟩ := single
  exact all k bits.toFin known

/-- A count is held against the bytes that are left. -/
theorem count_eq (field : String) :
    Reader.count field = Reader.int32 >>= fun n cursor =>
      if n < 0 ∨ (cursor.rest.length : Int) < n * 4 then .error (.badCount field n)
      else .ok (n.toNat, cursor) := by
  unfold Reader.count
  congr 1
  funext n cursor
  show (if n < 0 ∨ (cursor.rest.length : Int) < n * 4 then throw (.badCount field n)
    else pure n.toNat : Reader Nat) cursor = _
  split <;> rfl

theorem quiet_count (field : String) : Quiet (Reader.count field) := by
  rw [count_eq]
  refine parses_int32.quiet.bind fun n cursor fault failed => ?_
  split at failed
  · cases failed
    rfl
  · cases failed

theorem count_eq_ok_iff {field : String} {offset n : Nat} {bytes : List UInt8} {cursor : Cursor} :
    Reader.count field ⟨offset, bytes⟩ = .ok (n, cursor) ↔
      ∃ head, IsInt32 n head ∧ bytes = head ++ cursor.rest ∧
        cursor.offset = offset + head.length ∧ 4 * n ≤ cursor.rest.length := by
  rw [count_eq, parses_int32.bind_eq_iff (Reader.heard_ok _)]
  constructor
  · rintro ⟨announced, head, rest, formed, rfl, taken⟩
    split at taken
    · cases taken
    · rename_i possible
      cases taken
      have same : (announced.toNat : Int) = announced := by omega
      have enough : 4 * announced.toNat ≤ rest.length := by
        dsimp only at possible
        omega
      exact ⟨head, by rwa [same], rfl, rfl, enough⟩
  · rintro ⟨head, formed, rfl, moved, enough⟩
    refine ⟨n, head, cursor.rest, formed, rfl, ?_⟩
    rw [if_neg (by dsimp only; omega), ← moved, Int.toNat_natCast]

/-- What is heard of a reader that goes on after a count: at least four bytes are left for each
element. -/
theorem count_bind_eq_iff {α : Type} {field : String} {next : Nat → Reader α} {offset : Nat}
    {bytes : List UInt8} {outcome : Except Fault (α × Cursor)} (heard : Heard outcome) :
    (Reader.count field >>= next) ⟨offset, bytes⟩ = outcome ↔
      ∃ (n : Nat) (head rest : List UInt8), IsInt32 n head ∧ bytes = head ++ rest ∧
        4 * n ≤ rest.length ∧ next n ⟨offset + head.length, rest⟩ = outcome := by
  rw [Reader.bind_eq_heard_iff (quiet_count field) heard]
  constructor
  · rintro ⟨n, ⟨offset', rest⟩, taken, behind⟩
    obtain ⟨head, counted, rfl, rfl, enough⟩ := count_eq_ok_iff.1 taken
    exact ⟨n, head, rest, counted, rfl, enough, behind⟩
  · rintro ⟨n, head, rest, counted, rfl, enough, behind⟩
    exact ⟨n, _, count_eq_ok_iff.2 ⟨head, counted, rfl, rfl, enough⟩, behind⟩

end Wire

end LinkOwnership
