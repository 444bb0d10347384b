/-
# LinkOwnership.Proofs.Suggestions -- the stored forms of suggestions

The flag byte of a suggestion says whether a list of zones comes before the notes, so no list and an
empty list have different forms (`Suggestion.Form`).  The reader takes exactly these forms
(`Suggestion.parses_reader`), and they are what is written for suggestions in which every text is
given (`Suggestion.form_iff_encode`).

A missing text can be written, but it cannot be read: the reader of a list stops at the first one and
names the list (`Wire.texts_missing`).  So reading and writing are inverse to each other, and nothing
else is read (`Suggestion.read_exactly_what_is_written`).
-/
import LinkOwnership.Proofs.Forms
import LinkOwnership.Wire.Suggestion

namespace LinkOwnership

set_option autoImplicit false

open LinkOwnership.Text (LooseString)

namespace Wire

/-! ## Lists with a missing text -/

theorem requiredText_missing {field : String} {front rest : List UInt8} {offset : Nat}
    (missing : IsInt32 (-1) front) :
    Reader.requiredText field ⟨offset, front ++ rest⟩ = .error (.missingText field) := by
  have formed : ∃ length head body, IsInt32 length head ∧ IsBody length none body ∧
      front = head ++ body :=
    ⟨-1, front, [], missing, Or.inl ⟨rfl, rfl, rfl⟩, (List.append_nil front).symm⟩
  exact parses_text.bind_of_form formed

/-- The first missing text of a row is named by its list. -/
theorem textsOf_missing {field : String} {texts : List (Option LooseString)}
    {row rest : List UInt8} {offset : Nat} (formed : Row IsPut texts row) (missing : none ∈ texts) :
    Reader.textsOf field texts.length ⟨offset, row ++ rest⟩ = .error (.missingText field) := by
  induction formed generalizing offset with
  | nil => cases missing
  | @cons text others front more first behind ih =>
      rw [List.append_assoc, List.length_cons]
      cases text with
      | none => exact Reader.bind_of_error (requiredText_missing (isPut_none_iff.1 first))
      | some t =>
          obtain ⟨s, rfl, form⟩ := isText_of_put first
          have later : none ∈ others := (List.mem_cons.1 missing).resolve_left nofun
          refine ((parses_requiredText field).bind_of_form form).trans ?_
          exact Reader.bind_of_error (ih later)

/-- A list with a missing text is refused; it is never taken for too long a list. -/
theorem texts_missing {field : String} {texts : List (Option LooseString)} {bytes rest : List UInt8}
    {offset : Nat} (counted : Counted IsPut texts bytes) (missing : none ∈ texts) :
    Reader.texts field ⟨offset, bytes ++ rest⟩ = .error (.missingText field) := by
  obtain ⟨count, row, announced, formed, rfl⟩ := counted
  have enough : 4 * texts.length ≤ (row ++ rest).length := by
    have here := formed.enough IsPut.four_le
    rw [List.length_append]
    omega
  have taken : Reader.count field ⟨offset, count ++ row ++ rest⟩ =
      .ok (texts.length, ⟨offset + count.length, row ++ rest⟩) :=
    count_eq_ok_iff.2 ⟨count, announced, List.append_assoc .., rfl, enough⟩
  rw [Reader.texts, Reader.bind_apply, taken]
  exact textsOf_missing formed missing

/-! ## Lists of strings -/

/-- The length of a list fits its field, and so do the lengths of its texts. -/
structure Fits (strings : List (Option String)) : Prop where
  count : strings.length ≤ 0x7FFFFFFF
  texts : ∀ text ∈ strings, ∀ s ∈ text, (Text.Utf8.encodeString s).length ≤ 0x7FFFFFFF

theorem fits_nil : Fits [] := ⟨Nat.zero_le _, List.forall_mem_nil _⟩

theorem putStrings_given_iff {names : List String} {bytes : List UInt8} :
    putStrings (names.map some) = .ok bytes ↔ Counted IsText names bytes := by
  rw [putStrings, List.map_map]
  exact putTexts_names_iff

theorem strings_missing {field : String} {strings : List (Option String)} {bytes : List UInt8}
    {offset : Nat} (put : putStrings strings = .ok bytes) (missing : none ∈ strings) :
    Reader.texts field ⟨offset, bytes⟩ = .error (.missingText field) := by
  have behind : Reader.texts field ⟨offset, bytes ++ []⟩ = .error (.missingText field) :=
    texts_missing (putTexts_eq_ok_iff.1 put) (List.mem_map_of_mem missing)
  rwa [List.append_nil] at behind

theorem exists_putStrings {strings : List (Option String)} :
    (∃ bytes, putStrings strings = .ok bytes) ↔ Fits strings := by
  rw [putStrings, exists_putTexts, List.length_map]
  constructor
  · rintro ⟨count, texts⟩
    refine ⟨count, fun text member s given => ?_⟩
    obtain rfl : text = some s := given
    obtain ⟨n, long, small⟩ := texts (.ofString s) (List.mem_map_of_mem member)
    rw [utf8Length?_ofString, Option.some.injEq] at long
    rwa [long]
  · rintro ⟨count, texts⟩
    refine ⟨count, fun t member => ?_⟩
    obtain ⟨text, listed, same⟩ := List.mem_map.1 member
    obtain ⟨s, rfl, rfl⟩ := Option.map_eq_some_iff.1 same
    exact ⟨_, utf8Length?_ofString s, texts (some s) listed s rfl⟩

end Wire

theorem exists_map_some {α : Type} {items : List (Option α)} (given : none ∉ items) :
    ∃ all : List α, items = all.map some := by
  induction items with
  | nil => exact ⟨[], rfl⟩
  | cons item rest ih =>
      rw [List.mem_cons, not_or] at given
      obtain ⟨first, rfl⟩ := Option.ne_none_iff_exists'.1 (Ne.symm given.1)
      obtain ⟨all, rfl⟩ := ih given.2
      exact ⟨first :: all, rfl⟩

namespace Suggestion

/-! ## Forms of suggestions -/

/-- A flag byte, the zones if there is a list of them, and the notes. -/
inductive Form : Suggestion → List UInt8 → Prop
  | withdrawn {notes : List String} {back : List UInt8}
      (noted : Wire.Counted Wire.IsText notes back) : Form ⟨none, notes.map some⟩ (0x00 :: back)
  | listed {zones notes : List String} {front back : List UInt8}
      (zoned : Wire.Counted Wire.IsText zones front) (noted : Wire.Counted Wire.IsText notes back) :
      Form ⟨some (zones.map some), notes.map some⟩ (0x01 :: (front ++ back))

theorem parses_reader : Wire.Parses reader Form := by
  refine ((Wire.parses_flags zonesFlag).bind
    (fun bits s bytes => Form s ((if bits = 0 then 0x00 else 0x01) :: bytes))
    fun bits => ?_).congr fun s bytes => ?_
  · by_cases unset : bits = 0
    · simp only [if_pos unset]
      refine ((Wire.parses_texts "debug_info").bind _ fun notes => .pure _).congr fun s bytes => ?_
      constructor
      · rintro ⟨notes, back, _, noted, ⟨rfl, rfl⟩, rfl⟩
        rw [List.append_nil]
        exact .withdrawn noted
      · intro form
        cases form with
        | withdrawn noted => exact ⟨_, _, [], noted, ⟨rfl, rfl⟩, (List.append_nil _).symm⟩
    · simp only [if_neg unset]
      refine ((Wire.parses_texts "zone_ids").bind _ fun zones =>
        (Wire.parses_texts "debug_info").bind _ fun notes => .pure _).congr fun s bytes => ?_
      constructor
      · rintro ⟨zones, front, _, zoned, ⟨notes, back, _, noted, ⟨rfl, rfl⟩, rfl⟩, rfl⟩
        rw [List.append_nil]
        exact .listed zoned noted
      · generalize same : (0x01 : UInt8) :: bytes = all
        intro form
        cases form with
        | withdrawn noted => cases same
        | listed zoned noted =>
            cases same
            exact ⟨_, _, _, zoned, ⟨_, _, [], noted, ⟨rfl, rfl⟩, (List.append_nil _).symm⟩, rfl⟩
  · constructor
    · rintro ⟨bits, _, back, ⟨rfl, known⟩, form, rfl⟩
      rcases Wire.flag_cases ⟨0, rfl⟩ known with rfl | rfl <;> exact form
    · intro form
      cases form with
      | withdrawn noted => exact ⟨0x00, [0x00], _, ⟨rfl, rfl⟩, .withdrawn noted, rfl⟩
      | listed zoned noted => exact ⟨0x01, [0x01], _, ⟨rfl, rfl⟩, .listed zoned noted, rfl⟩

/-! ## What is written -/

structure Complete (s : Suggestion) : Prop where
  zones : none ∉ s.zoneIds.getD []
  notes : none ∉ s.debugInfo

/-- The lengths of the lists of a suggestion and of their texts fit their fields. -/
structure Storable (s : Suggestion) : Prop where
  zones : Wire.Fits (s.zoneIds.getD [])
  notes : Wire.Fits s.debugInfo

theorem encode_withdrawn_iff {notes : List (Option String)} {bytes : List UInt8} :
    encode ⟨none, notes⟩ = .ok bytes ↔
      ∃ back, Wire.putStrings notes = .ok back ∧ bytes = 0x00 :: back := by
  simp only [encode, bind_eq_ok_iff, pure, Except.pure, Except.ok.injEq, eq_comm (a := bytes)]

theorem encode_listed_iff {zones notes : List (Option String)} {bytes : List UInt8} :
    encode ⟨some zones, notes⟩ = .ok bytes ↔
      ∃ front back, Wire.putStrings zones = .ok front ∧ Wire.putStrings notes = .ok back ∧
        bytes = 0x01 :: (front ++ back) := by
  simp only [encode, bind_eq_ok_iff, pure, Except.pure, Except.ok.injEq, eq_comm (a := bytes),
    zonesFlag, exists_and_left]

/-- What is read is what is written for a suggestion in which every text is given. -/
theorem form_iff_encode {s : Suggestion} {bytes : List UInt8} :
    Form s bytes ↔ s.Complete ∧ s.encode = .ok bytes := by
  have given (names : List String) : none ∉ names.map some := by
    simp only [List.mem_map, reduceCtorEq, and_false, exists_false, not_false_eq_true]
  constructor
  · intro form
    cases form with
    | @withdrawn notes back noted =>
        refine ⟨⟨List.not_mem_nil, given notes⟩, ?_⟩
        exact encode_withdrawn_iff.2 ⟨back, Wire.putStrings_given_iff.2 noted, rfl⟩
    | @listed zones notes front back zoned noted =>
        refine ⟨⟨given zones, given notes⟩, ?_⟩
        exact encode_listed_iff.2 ⟨front, back, Wire.putStrings_given_iff.2 zoned,
          Wire.putStrings_given_iff.2 noted, rfl⟩
  · rintro ⟨⟨zoned, noted⟩, put⟩
    obtain ⟨zoneIds, debugInfo⟩ := s
    obtain ⟨notes, rfl⟩ := exists_map_some noted
    cases zoneIds with
    | none =>
        obtain ⟨back, noted, rfl⟩ := encode_withdrawn_iff.1 put
        exact .withdrawn (Wire.putStrings_given_iff.1 noted)
    | some zones =>
        obtain ⟨zones, rfl⟩ := exists_map_some zoned
        obtain ⟨front, back, zoned, noted, rfl⟩ := encode_listed_iff.1 put
        exact .listed (Wire.putStrings_given_iff.1 zoned) (Wire.putStrings_given_iff.1 noted)

theorem exists_encode {s : Suggestion} : (∃ bytes, s.encode = .ok bytes) ↔ s.Storable := by
  obtain ⟨zoneIds, debugInfo⟩ := s
  cases zoneIds with
  | none =>
      constructor
      · rintro ⟨_, put⟩
        obtain ⟨back, noted, rfl⟩ := encode_withdrawn_iff.1 put
        exact ⟨Wire.fits_nil, Wire.exists_putStrings.1 ⟨back, noted⟩⟩
      · rintro ⟨_, notes⟩
        obtain ⟨back, noted⟩ := Wire.exists_putStrings.2 notes
        exact ⟨_, encode_withdrawn_iff.2 ⟨back, noted, rfl⟩⟩
  | some zones =>
      constructor
      · rintro ⟨_, put⟩
        obtain ⟨front, back, zoned, noted, rfl⟩ := encode_listed_iff.1 put
        exact ⟨Wire.exists_putStrings.1 ⟨front, zoned⟩, Wire.exists_putStrings.1 ⟨back, noted⟩⟩
      · rintro ⟨zones, notes⟩
        obtain ⟨front, zoned⟩ := Wire.exists_putStrings.2 zones
        obtain ⟨back, noted⟩ := Wire.exists_putStrings.2 notes
        exact ⟨_, encode_listed_iff.2 ⟨front, back, zoned, noted, rfl⟩⟩

theorem reader_withdrawn (back : List UInt8) :
    reader ⟨0, 0x00 :: back⟩ = (Wire.Reader.texts "debug_info" >>= fun notes =>
      pure ⟨none, notes.map some⟩ : Wire.Reader Suggestion) ⟨1, back⟩ := by
  have flag : [0x00] = [(0x00 : UInt8)] ∧ 0x00 &&& ~~~zonesFlag = 0 := by decide
  exact (Wire.parses_flags zonesFlag).bind_of_form flag

theorem reader_listed (back : List UInt8) :
    reader ⟨0, 0x01 :: back⟩ = (Wire.Reader.texts "zone_ids" >>= fun zones =>
      Wire.Reader.texts "debug_info" >>= fun notes =>
      pure ⟨some (zones.map some), notes.map some⟩ : Wire.Reader Suggestion) ⟨1, back⟩ := by
  have flag : [0x01] = [(0x01 : UInt8)] ∧ 0x01 &&& ~~~zonesFlag = 0 := by decide
  exact (Wire.parses_flags zonesFlag).bind_of_form flag

/-- The list whose text is missing is named, the zones before the notes. -/
theorem decode_incomplete {s : Suggestion} {bytes : List UInt8} (put : s.encode = .ok bytes)
    (incomplete : ¬ s.Complete) :
    decode bytes = .error (.missingText
      (if none ∈ s.zoneIds.getD [] then "zone_ids" else "debug_info")) := by
  obtain ⟨zoneIds, notes⟩ := s
  have missing (given : none ∉ zoneIds.getD []) : none ∈ notes := by
    by_cases noted : none ∈ notes
    · exact noted
    · exact absurd ⟨given, noted⟩ incomplete
  refine Wire.Reader.run_of_error ?_
  cases zoneIds with
  | none =>
      obtain ⟨back, noted, rfl⟩ := encode_withdrawn_iff.1 put
      rw [reader_withdrawn, Option.getD_none, if_neg List.not_mem_nil]
      exact Wire.Reader.bind_of_error (Wire.strings_missing noted (missing List.not_mem_nil))
  | some zones =>
      obtain ⟨front, back, zoned, noted, rfl⟩ := encode_listed_iff.1 put
      rw [reader_listed, Option.getD_some]
      by_cases lost : none ∈ zones
      · rw [if_pos lost]
        exact Wire.Reader.bind_of_error (Wire.texts_missing (Wire.putTexts_eq_ok_iff.1 zoned)
          (List.mem_map_of_mem lost))
      · -- All zones are given, so they are read, and a note is missing behind them.
        obtain ⟨names, rfl⟩ := exists_map_some lost
        rw [if_neg lost,
          (Wire.parses_texts "zone_ids").bind_of_form (Wire.putStrings_given_iff.1 zoned)]
        exact Wire.Reader.bind_of_error (Wire.strings_missing noted (missing lost))

/-! ## Reading and writing -/

theorem decode_eq_ok_iff {s : Suggestion} {bytes : List UInt8} :
    decode bytes = .ok s ↔ s.Complete ∧ s.encode = .ok bytes := by
  rw [← form_iff_encode]
  exact parses_reader.run_eq_ok_iff

/-- A suggestion is written when the lengths of its lists and of their texts fit their fields.  If all
of its texts are given, what is written is read as this suggestion, and what is read as a suggestion
is what is written for it; no other bytes are read.  If a text is missing, what is written is
refused, and the fault names the first list that misses one. -/
theorem read_exactly_what_is_written :
    (∀ s : Suggestion, (∃ bytes, s.encode = .ok bytes) ↔ s.Storable) ∧
    (∀ (s : Suggestion) (bytes : List UInt8),
      s.Complete → s.encode = .ok bytes → decode bytes = .ok s) ∧
    (∀ (bytes : List UInt8) (s : Suggestion),
      decode bytes = .ok s → s.Complete ∧ s.encode = .ok bytes) ∧
    (∀ bytes : List UInt8, (∀ s : Suggestion, s.Complete → s.encode ≠ .ok bytes) →
      ∃ fault, decode bytes = .error fault ∧ fault.isUnknownCode = false) ∧
    ∀ (s : Suggestion) (bytes : List UInt8), ¬ s.Complete → s.encode = .ok bytes →
      decode bytes = .error (.missingText
        (if none ∈ s.zoneIds.getD [] then "zone_ids" else "debug_info")) := by
  refine ⟨fun s => exists_encode, fun s bytes complete put => decode_eq_ok_iff.2 ⟨complete, put⟩,
    fun bytes s => decode_eq_ok_iff.1, fun bytes other => ?_,
    fun s bytes incomplete put => decode_incomplete put incomplete⟩
  refine parses_reader.run_eq_error fun s form => ?_
  obtain ⟨complete, put⟩ := form_iff_encode.1 form
  exact other s complete put

/-- An empty list of zones is read as it was, and is not taken for no list; a list with a missing
zone is refused. -/
theorem read_exactly_what_is_written_empty :
    (∃ bytes, encode ⟨some [], [some "at sea"]⟩ = .ok bytes ∧
      decode bytes = .ok ⟨some [], [some "at sea"]⟩) ∧
    ∃ bytes, encode ⟨some [some "Pacific/Apia", none], []⟩ = .ok bytes ∧
      decode bytes = .error (.missingText "zone_ids") := by
  obtain ⟨written, read, _, _, refused⟩ := read_exactly_what_is_written
  obtain ⟨bytes, put⟩ := (written ⟨some [], [some "at sea"]⟩).2
    ⟨Wire.fits_nil, by decide, by decide⟩
  obtain ⟨bytes', put'⟩ := (written ⟨some [some "Pacific/Apia", none], []⟩).2
    ⟨⟨by decide, by decide⟩, Wire.fits_nil⟩
  exact ⟨⟨bytes, put, read _ bytes ⟨by decide, by decide⟩ put⟩,
    bytes', put', refused _ bytes' (fun complete => complete.zones (by decide)) put'⟩

end Suggestion

end LinkOwnership
