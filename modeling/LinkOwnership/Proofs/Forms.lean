/-
# LinkOwnership.Proofs.Forms -- each value has one form, and each form ends by itself

A number, an identifier and a text have exactly one form, the one that is written
(`Wire.isInt32_iff_put`, `Wire.isIdentifier_iff_put`, `Wire.isText_iff_put`).  So what is read of
them is written again as it was.

Forms are `Wire.PrefixFree` when the bytes tell where a form ends: no bytes start with the forms of
two values, nor with two forms of one.  What a reader parses is prefix-free
(`Wire.Parses.prefixFree`).  So is a counted list of prefix-free forms (`Wire.PrefixFree.counted`);
this is what the reader of texts takes (`Wire.parses_texts`), and what is written for texts, missing
ones among them (`Wire.putTexts_eq_ok_iff`).
-/
import LinkOwnership.Proofs.Wire

namespace LinkOwnership

set_option autoImplicit false

open LinkOwnership.Text (LooseString)

namespace Identifier

variable {high low : Nat}

theorem val_ofHalves (upper : high < 0x10000000000000000) (lower : low < 0x10000000000000000) :
    (ofHalves high low).val.val = high * 0x10000000000000000 + low := by
  have small : high * 0x10000000000000000 + low < 0x100000000000000000000000000000000 := by omega
  rw [ofHalves, ofNat, Fin.val_ofNat, Nat.mod_eq_of_lt small]

theorem upper_ofHalves (upper : high < 0x10000000000000000) (lower : low < 0x10000000000000000) :
    (ofHalves high low).upper = high := by
  rw [Identifier.upper, val_ofHalves upper lower]
  omega

theorem lower_ofHalves (upper : high < 0x10000000000000000) (lower : low < 0x10000000000000000) :
    (ofHalves high low).lower = low := by
  rw [Identifier.lower, val_ofHalves upper lower]
  omega

end Identifier

namespace Wire

/-! ## What is written is the only form -/

theorem isInt32_iff_put {n : Int} {bytes : List UInt8} :
    IsInt32 n bytes ↔ putInt32 n = .ok bytes := by
  refine ⟨?_, isInt32_of_put⟩
  rintro ⟨four, rfl⟩
  obtain ⟨fits, same⟩ := signed_of_lt (natOfBytes_lt four)
  refine putInt32_eq_ok_iff.2 ⟨fits, ?_⟩
  rw [same, littleEndian_natOfBytes four]

theorem isIdentifier_iff_put {i : Identifier} {bytes : List UInt8} :
    IsIdentifier i bytes ↔ putIdentifier i = bytes := by
  constructor
  · rintro ⟨upper, lower, eight, eight', rfl, rfl⟩
    have high := natOfBytes_lt eight
    have low := natOfBytes_lt eight'
    rw [putIdentifier, Identifier.upper_ofHalves high low, Identifier.lower_ofHalves high low,
      littleEndian_natOfBytes eight, littleEndian_natOfBytes eight']
  · rintro rfl
    exact isIdentifier_putIdentifier i

theorem isText_iff_put {s : String} {bytes : List UInt8} :
    IsText s bytes ↔ putText (some (.ofString s)) = .ok bytes := by
  rw [putText_eq_ok_iff]
  constructor
  · rintro ⟨length, counted, rfl⟩
    exact ⟨s, length, rfl, isInt32_iff_put.1 counted, rfl⟩
  · rintro ⟨s', length, same, counted, rfl⟩
    cases LooseString.ofString_inj same
    exact ⟨length, isInt32_of_put counted, rfl⟩

/-! ## Where a form ends -/

/-- No bytes start with the forms of two values, nor with two forms of one. -/
def PrefixFree {α : Type} (form : α → List UInt8 → Prop) : Prop :=
  ∀ {a b : α} {front front' rest rest' : List UInt8}, form a front → form b front' →
    front ++ rest = front' ++ rest' → a = b ∧ front = front' ∧ rest = rest'

/-- Bytes have one meaning at most. -/
theorem PrefixFree.unique {α : Type} {form : α → List UInt8 → Prop} (free : PrefixFree form)
    {a b : α} {bytes : List UInt8} (left : form a bytes) (right : form b bytes) : a = b := by
  have same : bytes ++ [] = bytes ++ [] := rfl
  exact (free left right same).1

namespace Parses

variable {α : Type} {reader : Reader α} {form : α → List UInt8 → Prop}

/-- A reader gives one answer, so what it takes is prefix-free. -/
theorem prefixFree (parses : Parses reader form) : PrefixFree form := by
  intro a b front front' rest rest' left right same
  have read : reader ⟨0, front ++ rest⟩ = .ok (a, ⟨0 + front.length, rest⟩) :=
    parses.takes.2 ⟨front, left, rfl, rfl⟩
  have read' : reader ⟨0, front' ++ rest'⟩ = .ok (b, ⟨0 + front'.length, rest'⟩) :=
    parses.takes.2 ⟨front', right, rfl, rfl⟩
  rw [same, read'] at read
  simp only [Except.ok.injEq, Prod.mk.injEq, Cursor.mk.injEq] at read
  obtain ⟨rfl, _, rfl⟩ := read
  exact ⟨rfl, List.append_cancel_right same, rfl⟩

/-- All of the bytes are read when they are a form. -/
theorem run_eq_ok_iff (parses : Parses reader form) {bytes : List UInt8} {a : α} :
    reader.run bytes = .ok a ↔ form a bytes := by
  rw [Reader.run_eq_ok_iff]
  constructor
  · rintro ⟨offset, read⟩
    obtain ⟨front, formed, rfl, _⟩ := parses.takes.1 read
    rwa [List.append_nil]
  · intro formed
    exact ⟨0 + bytes.length, parses.takes.2 ⟨bytes, formed, (List.append_nil bytes).symm, rfl⟩⟩

/-- Bytes that are no form are at fault, and not for an unknown code. -/
theorem run_eq_error (parses : Parses reader form) {bytes : List UInt8}
    (ill : ∀ a, ¬ form a bytes) :
    ∃ fault, reader.run bytes = .error fault ∧ fault.isUnknownCode = false := by
  cases read : reader.run bytes with
  | ok a => exact absurd (parses.run_eq_ok_iff.1 read) (ill a)
  | error fault =>
      refine ⟨fault, rfl, ?_⟩
      cases fault with
      | unknownCode code =>
          have silent := parses.quiet _ _ (Reader.run_eq_unknownCode_iff.1 read)
          cases silent
      | _ => rfl

end Parses

theorem prefixFree_int32 : PrefixFree IsInt32 := parses_int32.prefixFree

theorem prefixFree_text : PrefixFree IsText := (parses_requiredText "").prefixFree

/-! ## Lists -/

inductive Row {α : Type} (form : α → List UInt8 → Prop) : List α → List UInt8 → Prop
  | nil : Row form [] []
  | cons {a : α} {rest : List α} {front more : List UInt8} (first : form a front)
      (others : Row form rest more) : Row form (a :: rest) (front ++ more)

def Counted {α : Type} (form : α → List UInt8 → Prop) (items : List α) (bytes : List UInt8) : Prop :=
  ∃ count row, IsInt32 items.length count ∧ Row form items row ∧ bytes = count ++ row

section

variable {α β : Type} {form : α → List UInt8 → Prop} {form' : β → List UInt8 → Prop}

/-- Rows of the same length end at the same place. -/
theorem PrefixFree.row (free : PrefixFree form) {items items' : List α}
    {row row' rest rest' : List UInt8} (left : Row form items row) (right : Row form items' row')
    (long : items.length = items'.length) (same : row ++ rest = row' ++ rest') :
    items = items' ∧ row = row' ∧ rest = rest' := by
  induction left generalizing items' row' with
  | nil =>
      cases right with
      | nil => exact ⟨rfl, rfl, same⟩
      | cons => cases long
  | cons first others ih =>
      cases right with
      | nil => cases long
      | cons first' others' =>
          -- The other forms start where the first one ends, and this is at the same place.
          rw [List.append_assoc, List.append_assoc] at same
          obtain ⟨rfl, rfl, behind⟩ := free first first' same
          obtain ⟨rfl, rfl, rfl⟩ := ih others' (Nat.succ.inj long) behind
          exact ⟨rfl, rfl, rfl⟩

theorem PrefixFree.counted (free : PrefixFree form) : PrefixFree (Counted form) := by
  rintro items items' _ _ rest rest' ⟨count, row, counted, formed, rfl⟩
    ⟨count', row', counted', formed', rfl⟩ same
  rw [List.append_assoc, List.append_assoc] at same
  obtain ⟨long, rfl, behind⟩ := prefixFree_int32 counted counted' same
  obtain ⟨rfl, rfl, rfl⟩ := free.row formed formed' (Int.ofNat.inj long) behind
  exact ⟨rfl, rfl, rfl⟩

/-- A row is no shorter than its items, each of which takes four bytes at least. -/
theorem Row.enough (long : ∀ {a front}, form a front → 4 ≤ front.length) {items : List α}
    {row : List UInt8} (formed : Row form items row) : 4 * items.length ≤ row.length := by
  induction formed with
  | nil => exact Nat.zero_le _
  | cons first others ih =>
      have here := long first
      rw [List.length_cons, List.length_append]
      omega

/-- A row of other items with the same forms. -/
theorem row_map_iff {f : β → α} (same : ∀ b bytes, form (f b) bytes ↔ form' b bytes)
    {items : List β} {bytes : List UInt8} :
    Row form (items.map f) bytes ↔ Row form' items bytes := by
  induction items generalizing bytes with
  | nil =>
      constructor
      · intro formed
        cases formed
        exact .nil
      · intro formed
        cases formed
        exact .nil
  | cons item rest ih =>
      constructor
      · intro formed
        cases formed with
        | cons first others => exact .cons ((same item _).1 first) (ih.1 others)
      · intro formed
        cases formed with
        | cons first others => exact .cons ((same item _).2 first) (ih.2 others)

theorem counted_map_iff {f : β → α} (same : ∀ b bytes, form (f b) bytes ↔ form' b bytes)
    {items : List β} {bytes : List UInt8} :
    Counted form (items.map f) bytes ↔ Counted form' items bytes := by
  simp only [Counted, List.length_map, row_map_iff same]

end

/-! ## Lists of texts -/

/-- The form that is written for a text that may be missing. -/
def IsPut (text : Option LooseString) (bytes : List UInt8) : Prop := putText text = .ok bytes

theorem isPut_none_iff {bytes : List UInt8} : IsPut none bytes ↔ IsInt32 (-1) bytes :=
  isInt32_iff_put.symm

theorem isPut_some_iff {s : String} {bytes : List UInt8} :
    IsPut (some (.ofString s)) bytes ↔ IsText s bytes :=
  isText_iff_put.symm

theorem IsPut.four_le {text : Option LooseString} {bytes : List UInt8} (put : IsPut text bytes) :
    4 ≤ bytes.length := by
  cases text with
  | none => exact Nat.le_of_eq (isPut_none_iff.1 put).1.symm
  | some t =>
      obtain ⟨s, rfl, form⟩ := isText_of_put put
      exact form.four_le

theorem parses_textsOf (field : String) (n : Nat) :
    Parses (Reader.textsOf field n) fun names bytes => names.length = n ∧ Row IsText names bytes := by
  induction n with
  | zero =>
      refine (Parses.pure []).congr fun names bytes => ?_
      constructor
      · rintro ⟨rfl, rfl⟩
        exact ⟨rfl, .nil⟩
      · rintro ⟨none, row⟩
        obtain rfl := List.length_eq_zero_iff.1 none
        cases row
        exact ⟨rfl, rfl⟩
  | succ n ih =>
      refine ((parses_requiredText field).bind _ fun name =>
        ih.bind _ fun others => .pure (name :: others)).congr fun names bytes => ?_
      constructor
      · rintro ⟨name, front, _, named, ⟨others, more, _, ⟨rfl, row⟩, ⟨rfl, rfl⟩, rfl⟩, rfl⟩
        rw [List.append_nil]
        exact ⟨rfl, .cons named row⟩
      · rintro ⟨long, row⟩
        cases row with
        | nil => cases long
        | cons named row =>
            exact ⟨_, _, _, named, ⟨_, _, [], ⟨Nat.succ.inj long, row⟩, ⟨rfl, rfl⟩,
              (List.append_nil _).symm⟩, rfl⟩

/-- The count of a list that is well formed is never held to be too large. -/
theorem parses_texts (field : String) : Parses (Reader.texts field) (Counted IsText) where
  quiet := (quiet_count field).bind fun n => (parses_textsOf field n).quiet
  takes := by
    intro offset bytes names cursor
    rw [Reader.texts, count_bind_eq_iff (Reader.heard_ok _)]
    constructor
    · rintro ⟨n, count, rest, counted, rfl, _, behind⟩
      obtain ⟨row, ⟨rfl, formed⟩, rfl, moved⟩ := (parses_textsOf field n).takes.1 behind
      refine ⟨count ++ row, ⟨count, row, counted, formed, rfl⟩, ?_, ?_⟩
      · rw [List.append_assoc]
      · rw [moved, List.length_append, Nat.add_assoc]
    · rintro ⟨_, ⟨count, row, counted, formed, rfl⟩, rfl, moved⟩
      have enough : 4 * names.length ≤ (row ++ cursor.rest).length := by
        have here := formed.enough IsText.four_le
        rw [List.length_append]
        omega
      refine ⟨names.length, count, row ++ cursor.rest, counted, List.append_assoc .., enough, ?_⟩
      refine (parses_textsOf field names.length).takes.2 ⟨row, ⟨rfl, formed⟩, rfl, ?_⟩
      rw [moved, List.length_append, Nat.add_assoc]

theorem putEach_eq_ok_iff {texts : List (Option LooseString)} {bytes : List UInt8} :
    putEach texts = .ok bytes ↔ Row IsPut texts bytes := by
  induction texts generalizing bytes with
  | nil =>
      constructor
      · intro put
        cases put
        exact .nil
      · intro row
        cases row
        rfl
  | cons text rest ih =>
      simp only [putEach, bind_eq_ok_iff, pure, Except.pure, Except.ok.injEq]
      constructor
      · rintro ⟨front, put, more, others, rfl⟩
        exact .cons put (ih.1 others)
      · intro row
        cases row with
        | cons put others => exact ⟨_, put, _, ih.2 others, rfl⟩

/-- A list is written as its length and its texts. -/
theorem putTexts_eq_ok_iff {texts : List (Option LooseString)} {bytes : List UInt8} :
    putTexts texts = .ok bytes ↔ Counted IsPut texts bytes := by
  simp only [putTexts, bind_eq_ok_iff, pure, Except.pure, Except.ok.injEq, Counted,
    isInt32_iff_put, putEach_eq_ok_iff]
  constructor
  · rintro ⟨count, counted, row, formed, rfl⟩
    exact ⟨count, row, counted, formed, rfl⟩
  · rintro ⟨count, row, counted, formed, rfl⟩
    exact ⟨count, counted, row, formed, rfl⟩

/-- Of names that are given, the list that is written is the list that is read. -/
theorem putTexts_names_iff {names : List String} {bytes : List UInt8} :
    putTexts (names.map fun name => some (.ofString name)) = .ok bytes ↔
      Counted IsText names bytes := by
  rw [putTexts_eq_ok_iff]
  exact counted_map_iff fun _ _ => isPut_some_iff

theorem exists_putText_iff {text : Option LooseString} :
    (∃ bytes, putText text = .ok bytes) ↔
      ∀ t, text = some t → ∃ n, utf8Length? t = some n ∧ n ≤ 0x7FFFFFFF := by
  cases text with
  | none =>
      have fits : FitsInt32 (-1) := by decide
      exact ⟨fun _ => nofun, fun _ => exists_putInt32.2 fits⟩
  | some t => simp only [exists_putText, Option.some.injEq, forall_eq']

theorem exists_putEach {texts : List (Option LooseString)} :
    (∃ bytes, putEach texts = .ok bytes) ↔
      ∀ t, some t ∈ texts → ∃ n, utf8Length? t = some n ∧ n ≤ 0x7FFFFFFF := by
  induction texts with
  | nil => exact ⟨fun _ _ member => absurd member List.not_mem_nil, fun _ => ⟨[], rfl⟩⟩
  | cons text rest ih =>
      simp only [List.mem_cons, or_imp, forall_and, eq_comm (b := text), ← exists_putText_iff, ← ih]
      constructor
      · rintro ⟨bytes, put⟩
        cases putEach_eq_ok_iff.1 put with
        | cons first others => exact ⟨⟨_, first⟩, _, putEach_eq_ok_iff.2 others⟩
      · rintro ⟨⟨front, first⟩, more, others⟩
        exact ⟨_, putEach_eq_ok_iff.2 (.cons first (putEach_eq_ok_iff.1 others))⟩

/-- A list has a stored form when its length fits its field and so do the lengths of its texts. -/
theorem exists_putTexts {texts : List (Option LooseString)} :
    (∃ bytes, putTexts texts = .ok bytes) ↔ texts.length ≤ 0x7FFFFFFF ∧
      ∀ t, some t ∈ texts → ∃ n, utf8Length? t = some n ∧ n ≤ 0x7FFFFFFF := by
  rw [← fitsInt32_natCast, ← exists_putInt32, ← exists_putEach]
  constructor
  · rintro ⟨_, put⟩
    obtain ⟨count, row, counted, formed, rfl⟩ := putTexts_eq_ok_iff.1 put
    exact ⟨⟨count, isInt32_iff_put.1 counted⟩, row, putEach_eq_ok_iff.2 formed⟩
  · rintro ⟨⟨count, counted⟩, row, formed⟩
    exact ⟨_, putTexts_eq_ok_iff.2
      ⟨count, row, isInt32_iff_put.2 counted, putEach_eq_ok_iff.1 formed, rfl⟩⟩

end Wire

end LinkOwnership
