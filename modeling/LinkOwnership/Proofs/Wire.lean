/-
# LinkOwnership.Proofs.Wire -- a stored record is read back as it was

What is written for a number, an identifier or a text has the form that is read as it, and what is
written for the hosts of a record spells them as they are.  So the grammar of records takes every
stored form, and a record whose hosts are in normal form is read back as it was
(`Record.decode_of_encode`).

A record has a stored form exactly when it is `Record.Storable`, and the form of a record that was
built is read back as this record, with its hosts in the same order.
-/
import Mathlib.Algebra.Group.Nat.Defs
import LinkOwnership.Proofs.Grammar

namespace LinkOwnership

set_option autoImplicit false

open LinkOwnership.Text (LooseString Point)

/-! ## Texts without lone halves -/

namespace Text

theorem map_char_of_loneHalvesFrom {pos : Nat} {t : List Point}
    (whole : loneHalvesFrom pos t = none) :
    (t.filterMap Point.char?).map .char = t := by
  induction t generalizing pos with
  | nil => rfl
  | cons point rest ih =>
      cases point with
      | half n => cases whole
      | char c => exact congrArg (Point.char c :: ·) (ih whole)

/-- Only the text of a string has that string. -/
theorem LooseString.string_eq_ok_iff {t : LooseString} {s : String} :
    t.string = .ok s ↔ t = .ofString s := by
  constructor
  · intro read
    unfold LooseString.string at read
    split at read
    · cases read
    · rename_i whole
      cases read
      rw [LooseString.ofString, String.toList_ofList]
      exact congrArg LooseString.mk (map_char_of_loneHalvesFrom whole).symm
  · rintro rfl
    exact LooseString.string_ofString s

theorem LooseString.string?_eq_some_iff {t : LooseString} {s : String} :
    t.string? = some s ↔ t = .ofString s := by
  rw [← string_eq_ok_iff, string?, toOption_eq_some_iff]

/-- There is no lone half among the points. -/
def Whole (t : List Point) : Prop := ∀ x ∈ t, x.isHalf = false

instance (t : List Point) : Decidable (Whole t) :=
  inferInstanceAs (Decidable (∀ x ∈ t, x.isHalf = false))

theorem whole_nil : Whole [] := List.forall_mem_nil _

theorem whole_cons {x : Point} {t : List Point} :
    Whole (x :: t) ↔ x.isHalf = false ∧ Whole t := List.forall_mem_cons

theorem whole_append {s t : List Point} : Whole (s ++ t) ↔ Whole s ∧ Whole t :=
  List.forall_mem_append

theorem whole_map_char (t : List Char) : Whole (t.map .char) :=
  List.forall_mem_map.2 fun _ _ => rfl

theorem whole_ofString (s : String) : Whole (LooseString.ofString s).points := whole_map_char s.toList

theorem whole_flatMap {α : Type} {f : α → List Point} {items : List α} :
    Whole (items.flatMap f) ↔ ∀ a ∈ items, Whole (f a) := by
  induction items with
  | nil => exact ⟨fun _ => List.forall_mem_nil _, fun _ => whole_nil⟩
  | cons a rest ih => rw [List.flatMap_cons, whole_append, ih, List.forall_mem_cons]

theorem loneHalvesFrom_eq_none_iff {pos : Nat} {t : List Point} :
    loneHalvesFrom pos t = none ↔ Whole t := by
  induction t generalizing pos with
  | nil => exact ⟨fun _ => whole_nil, fun _ => rfl⟩
  | cons x rest ih =>
      cases x with
      | char c => rw [loneHalvesFrom, ih, whole_cons, Point.isHalf, eq_self, true_and]
      | half n => simp only [loneHalvesFrom, whole_cons, Point.isHalf, reduceCtorEq, false_and]

theorem loneHalves?_eq_none_iff {t : List Point} : loneHalves? t = none ↔ Whole t :=
  loneHalvesFrom_eq_none_iff

/-- A text without lone halves is that of a string. -/
theorem exists_ofString_iff {t : LooseString} : (∃ s, t = .ofString s) ↔ Whole t.points := by
  constructor
  · rintro ⟨s, rfl⟩
    exact whole_ofString s
  · intro whole
    have chars := map_char_of_loneHalvesFrom (loneHalves?_eq_none_iff.2 whole)
    refine ⟨String.ofList (t.points.filterMap Point.char?), ?_⟩
    rw [LooseString.ofString, String.toList_ofList, chars]

theorem whole_trim (p : Point → Bool) {t : List Point} (whole : Whole t) : Whole (trim p t) := by
  intro x member
  rw [trim, trimEnd, trimStart, List.mem_reverse] at member
  have inner := List.mem_reverse.1 ((List.dropWhile_sublist p).mem member)
  exact whole x ((List.dropWhile_sublist p).mem inner)

theorem whole_lowerAfter {afterLetter : Bool} {t : List Point} (whole : Whole t) :
    Whole (lowerAfter afterLetter t) := by
  induction t generalizing afterLetter with
  | nil => exact whole_nil
  | cons x rest ih =>
      obtain ⟨char, behind⟩ := whole_cons.1 whole
      cases x with
      | char c => exact whole_append.2 ⟨whole_map_char _, ih behind⟩
      | half n => cases char

end Text

/-- The normal form of a host has lone halves only where the spelling has. -/
theorem Host.whole_normalize {host : LooseString} (whole : Text.Whole host.points) :
    Text.Whole (Host.normalize host).points :=
  Text.whole_lowerAfter (Text.whole_trim _ whole)

namespace Wire

/-! ## What is written -/

theorem putInt32_eq_ok_iff {n : Int} {bytes : List UInt8} :
    putInt32 n = .ok bytes ↔ FitsInt32 n ∧ littleEndian 4 (n % 0x100000000).toNat = bytes := by
  unfold putInt32
  split
  · rename_i fits
    simp only [Except.ok.injEq, fits, true_and]
  · rename_i beyond
    simp only [reduceCtorEq, beyond, false_and]

theorem exists_putInt32 {n : Int} : (∃ bytes, putInt32 n = .ok bytes) ↔ FitsInt32 n := by
  simp only [putInt32_eq_ok_iff, exists_and_left, exists_eq', and_true]

/-- A number of elements or bytes fits four bytes when it is less than 2^31. -/
theorem fitsInt32_natCast {n : Nat} : FitsInt32 n ↔ n ≤ 0x7FFFFFFF := by
  unfold FitsInt32
  omega

theorem putText_eq_ok_iff {t : LooseString} {bytes : List UInt8} :
    putText (some t) = .ok bytes ↔
      ∃ s head, t = .ofString s ∧ putInt32 (Text.Utf8.encodeString s).length = .ok head ∧
        head ++ Text.Utf8.encodeString s = bytes := by
  simp only [putText, bind_eq_ok_iff, mapError_eq_ok_iff, LooseString.string_eq_ok_iff, pure,
    Except.pure, Except.ok.injEq, exists_and_left]

/-- The number of bytes of a text in UTF-8; a text with lone halves has no such form. -/
def utf8Length? (t : LooseString) : Option Nat :=
  t.string?.map fun s => (Text.Utf8.encodeString s).length

theorem utf8Length?_ofString (s : String) :
    utf8Length? (.ofString s) = some (Text.Utf8.encodeString s).length := by
  rw [utf8Length?, LooseString.string?_eq_some_iff.2 rfl]
  rfl

theorem exists_putText {t : LooseString} :
    (∃ bytes, putText (some t) = .ok bytes) ↔ ∃ n, utf8Length? t = some n ∧ n ≤ 0x7FFFFFFF := by
  constructor
  · rintro ⟨bytes, put⟩
    obtain ⟨s, head, rfl, counted, _⟩ := putText_eq_ok_iff.1 put
    exact ⟨_, utf8Length?_ofString s, fitsInt32_natCast.1 (exists_putInt32.1 ⟨head, counted⟩)⟩
  · rintro ⟨n, long, small⟩
    obtain ⟨s, text, rfl⟩ := Option.map_eq_some_iff.1 long
    obtain ⟨head, counted⟩ := exists_putInt32.2 (fitsInt32_natCast.2 small)
    exact ⟨_, putText_eq_ok_iff.2 ⟨s, head, LooseString.string?_eq_some_iff.1 text, counted, rfl⟩⟩

/-! ## Numbers of a given width -/

/-- A number below the limit of its width is read back from its bytes. -/
theorem natOfBytes_littleEndian {width n : Nat} (small : n < 256 ^ width) :
    natOfBytes (littleEndian width n) = n := by
  induction width generalizing n with
  | zero => exact (Nat.lt_one_iff.1 small).symm
  | succ width ih =>
      have upper : n / 256 < 256 ^ width := Nat.div_lt_of_lt_mul (by rwa [Nat.pow_succ'] at small)
      rw [littleEndian, natOfBytes, ih upper, UInt8.toNat_ofNat', Nat.mod_mod]
      exact Nat.mod_add_div n 256

theorem natOfBytes_lt {width : Nat} {bytes : List UInt8} (long : bytes.length = width) :
    natOfBytes bytes < 256 ^ width := by
  subst long
  induction bytes with
  | nil => exact Nat.one_pos
  | cons b rest ih =>
      have low : b.toNat < 256 := b.toNat_lt
      rw [natOfBytes, List.length_cons, Nat.pow_succ]
      omega

/-! ## What is written is well formed -/

theorem isInt32_of_put {n : Int} {bytes : List UInt8} (put : putInt32 n = .ok bytes) :
    IsInt32 n bytes := by
  obtain ⟨fits, rfl⟩ := putInt32_eq_ok_iff.1 put
  have small : (n % 0x100000000).toNat < 256 ^ 4 := by omega
  refine ⟨length_littleEndian .., ?_⟩
  rw [natOfBytes_littleEndian small, signed_emod fits]

/-- Both halves of an identifier are read back, whatever their highest bits. -/
theorem isIdentifier_putIdentifier (i : Identifier) : IsIdentifier i (putIdentifier i) := by
  refine ⟨_, _, length_littleEndian 8 i.upper, length_littleEndian 8 i.lower, rfl, ?_⟩
  rw [natOfBytes_littleEndian i.upper_lt, natOfBytes_littleEndian i.lower_lt,
    Identifier.ofHalves_upper_lower]

/-- Only strings have a stored form. -/
theorem isText_of_put {t : LooseString} {bytes : List UInt8} (put : putText (some t) = .ok bytes) :
    ∃ s, t = .ofString s ∧ IsText s bytes := by
  obtain ⟨s, length, rfl, counted, rfl⟩ := putText_eq_ok_iff.1 put
  exact ⟨s, rfl, length, isInt32_of_put counted, rfl⟩

end Wire

/-! ## Records -/

namespace Record

theorem encodeHosts_cons_eq_ok_iff {host : LooseString} {state : LinkState}
    {rest : List (LooseString × LinkState)} {bytes : List UInt8} :
    encodeHosts ((host, state) :: rest) = .ok bytes ↔
      ∃ text code more, Wire.putText (some host) = .ok text ∧ Wire.putInt32 state.code = .ok code ∧
        encodeHosts rest = .ok more ∧ text ++ code ++ more = bytes := by
  simp only [encodeHosts, bind_eq_ok_iff, pure, Except.pure, Except.ok.injEq]
  constructor
  · rintro ⟨text, named, code, coded, more, others, same⟩
    exact ⟨text, code, more, named, coded, others, same⟩
  · rintro ⟨text, code, more, named, coded, others, same⟩
    exact ⟨text, named, code, coded, more, others, same⟩

theorem encode_eq_ok_iff {r : Record} {bytes : List UInt8} :
    r.encode = .ok bytes ↔
      ∃ name user count hosts, Wire.putText (some (.ofString r.packageName)) = .ok name ∧
        Wire.putInt32 r.user = .ok user ∧ Wire.putInt32 r.hosts.size = .ok count ∧
        encodeHosts r.hosts.entries = .ok hosts ∧
        (if r.linkHandlingAllowed then linkHandlingFlag else 0) ::
          (Wire.putIdentifier r.identifier ++ name ++ user ++ count ++ hosts) = bytes := by
  simp only [encode, bind_eq_ok_iff, pure, Except.pure, Except.ok.injEq]
  constructor
  · rintro ⟨name, named, user, filed, count, counted, hosts, listed, same⟩
    exact ⟨name, user, count, hosts, named, filed, counted, listed, same⟩
  · rintro ⟨name, user, count, hosts, named, filed, counted, listed, same⟩
    exact ⟨name, named, user, filed, count, counted, hosts, listed, same⟩

theorem fits_code (state : LinkState) : Wire.FitsInt32 state.code := by
  cases state <;> decide

/-- Hosts have a stored form when each of them has one. -/
theorem exists_encodeHosts {entries : List (LooseString × LinkState)} :
    (∃ bytes, encodeHosts entries = .ok bytes) ↔
      ∀ entry ∈ entries, ∃ n, Wire.utf8Length? entry.1 = some n ∧ n ≤ 0x7FFFFFFF := by
  induction entries with
  | nil => exact ⟨fun _ entry member => absurd member List.not_mem_nil, fun _ => ⟨[], rfl⟩⟩
  | cons first rest ih =>
      obtain ⟨host, state⟩ := first
      obtain ⟨code, coded⟩ := Wire.exists_putInt32.2 (fits_code state)
      rw [List.forall_mem_cons, ← ih, ← Wire.exists_putText]
      constructor
      · rintro ⟨bytes, put⟩
        obtain ⟨text, _, more, named, _, others, _⟩ := encodeHosts_cons_eq_ok_iff.1 put
        exact ⟨⟨text, named⟩, more, others⟩
      · rintro ⟨⟨text, named⟩, more, others⟩
        exact ⟨_, encodeHosts_cons_eq_ok_iff.2 ⟨text, code, more, named, coded, others, rfl⟩⟩

/-- What a record must be for a stored form: its numbers fit their fields, and its texts have
forms in UTF-8 whose lengths do. -/
structure Storable (r : Record) : Prop where
  user : Wire.FitsInt32 r.user
  name : (Text.Utf8.encodeString r.packageName).length ≤ 0x7FFFFFFF
  count : r.hosts.size ≤ 0x7FFFFFFF
  hosts : ∀ host ∈ r.hosts.keys, ∃ n, Wire.utf8Length? host = some n ∧ n ≤ 0x7FFFFFFF

theorem exists_encode {r : Record} : (∃ bytes, r.encode = .ok bytes) ↔ r.Storable := by
  constructor
  · rintro ⟨bytes, put⟩
    obtain ⟨name, user, count, hosts, named, filed, counted, listed, _⟩ := encode_eq_ok_iff.1 put
    obtain ⟨n, long, small⟩ := Wire.exists_putText.1 ⟨name, named⟩
    rw [Wire.utf8Length?_ofString, Option.some.injEq] at long
    refine ⟨Wire.exists_putInt32.1 ⟨user, filed⟩, long ▸ small,
      Wire.fitsInt32_natCast.1 (Wire.exists_putInt32.1 ⟨count, counted⟩), ?_⟩
    exact List.forall_mem_map.2 (exists_encodeHosts.1 ⟨hosts, listed⟩)
  · intro storable
    obtain ⟨name, named⟩ := Wire.exists_putText.2
      ⟨_, Wire.utf8Length?_ofString r.packageName, storable.name⟩
    obtain ⟨user, filed⟩ := Wire.exists_putInt32.2 storable.user
    obtain ⟨count, counted⟩ := Wire.exists_putInt32.2 (Wire.fitsInt32_natCast.2 storable.count)
    obtain ⟨hosts, listed⟩ := exists_encodeHosts.2
      fun entry member => storable.hosts entry.1 (List.mem_map_of_mem member)
    exact ⟨_, encode_eq_ok_iff.2 ⟨name, user, count, hosts, named, filed, counted, listed, rfl⟩⟩

/-- The stored form of hosts spells them as they are. -/
theorem hostsForm_of_encode {entries : List (LooseString × LinkState)} {bytes : List UInt8}
    (put : encodeHosts entries = .ok bytes) :
    ∃ hosts, HostsForm hosts bytes ∧
      entries = hosts.map fun entry => (LooseString.ofString entry.1, entry.2) := by
  induction entries generalizing bytes with
  | nil =>
      cases put
      exact ⟨[], .nil, rfl⟩
  | cons first rest ih =>
      obtain ⟨host, state⟩ := first
      obtain ⟨text, code, more, named, coded, others, rfl⟩ := encodeHosts_cons_eq_ok_iff.1 put
      obtain ⟨s, rfl, form⟩ := Wire.isText_of_put named
      obtain ⟨hosts, forms, rfl⟩ := ih others
      rw [List.append_assoc]
      exact ⟨(s, state) :: hosts, .cons form (Wire.isInt32_of_put coded) forms, rfl⟩

/-- The stored form of a record in normal form is read back as the record. -/
theorem decode_of_encode {r : Record} {bytes : List UInt8} (normal : r.Normal)
    (put : r.encode = .ok bytes) : decode bytes = .ok r := by
  obtain ⟨name, user, count, back, named, filed, counted, listed, rfl⟩ := encode_eq_ok_iff.1 put
  obtain ⟨s, same, nameForm⟩ := Wire.isText_of_put named
  cases LooseString.ofString_inj same
  obtain ⟨hosts, form, spelled⟩ := hostsForm_of_encode listed
  have entries : normalEntries hosts = r.hosts.entries := by
    rw [spelled]
    refine List.map_congr_left fun entry member => ?_
    have spelling : (LooseString.ofString entry.1, entry.2) ∈ r.hosts.entries := by
      rw [spelled]
      exact List.mem_map_of_mem member
    rw [normal (.ofString entry.1) (List.mem_map_of_mem spelling)]
  have announced : Wire.IsInt32 hosts.length count := by
    have size : r.hosts.size = hosts.length := by
      rw [OrderedMap.size, spelled, List.length_map]
    rw [← size]
    exact Wire.isInt32_of_put counted
  refine decode_eq_ok_iff.2 ⟨⟨r.linkHandlingAllowed, r.identifier, r.packageName, r.user⟩, hosts,
    ⟨_, back, ⟨_, name, user, count, Wire.isIdentifier_putIdentifier r.identifier, nameForm,
      Wire.isInt32_of_put filed, announced, rfl⟩, form, ?_⟩, ?_, ?_⟩
  · simp only [List.append_assoc, List.cons_append]
    rfl
  · rw [normalHosts, entries]
    exact r.hosts.distinct
  · rw [entries, Head.record, OrderedMap.ext (OrderedMap.entries_ofList r.hosts.distinct)]

/-- A record that was built has a stored form exactly when it is storable; the form is read back as
the record, with its hosts in the same order, and is the form of no other record. -/
theorem encode_roundtrip {d : Draft} {r : Record} (built : d.build = .ok r) :
    ((∃ bytes, r.encode = .ok bytes) ↔ r.Storable) ∧
      ∀ bytes, r.encode = .ok bytes →
        decode bytes = .ok r ∧
          ∀ (d' : Draft) (r' : Record), d'.build = .ok r' → r'.encode = .ok bytes → r' = r := by
  refine ⟨exists_encode, ?_⟩
  intro bytes put
  have read := decode_of_encode (normal_of_build built) put
  refine ⟨read, ?_⟩
  intro d' r' built' put'
  have read' := decode_of_encode (normal_of_build built') put'
  rw [read] at read'
  exact (Except.ok.inj read').symm

/-- An identifier with both sign bits, a negative user, and hosts out of alphabetical order. -/
def signedDraft : Draft where
  identifier := some (.ofHalves 0x8000000000000000 0xFFFFFFFFFFFFFFFF)
  packageName := some "p"
  user := some (-1)
  linkHandlingAllowed := some true
  hosts := some (.ofList [(.given (some " B "), .int 2), (.given (some "a"), .int 1)])

def signedRecord : Record where
  identifier := .ofHalves 0x8000000000000000 0xFFFFFFFFFFFFFFFF
  packageName := "p"
  user := -1
  linkHandlingAllowed := true
  hosts := .ofList [(.ofString "b", .verified), (.ofString "a", .selected)]

theorem encode_roundtrip_signed : signedDraft.build = .ok signedRecord ∧
    ∃ bytes, signedRecord.encode = .ok bytes ∧ decode bytes = .ok signedRecord := by
  have built : signedDraft.build = .ok signedRecord := rfl
  have roundtrip := encode_roundtrip built
  obtain ⟨bytes, put⟩ := roundtrip.1.2 {
    user := by decide
    name := by decide
    count := by decide
    hosts := by
      have keys : signedRecord.hosts.keys = [.ofString "b", .ofString "a"] := rfl
      rw [keys, List.forall_mem_cons, List.forall_mem_singleton]
      exact ⟨⟨1, by decide⟩, ⟨1, by decide⟩⟩ }
  exact ⟨built, bytes, put, (roundtrip.2 bytes put).1⟩

end Record

end LinkOwnership
