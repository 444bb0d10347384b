/-
# LinkOwnership.Proofs.NamedPackages -- the stored forms of verification requests

The names of a request are a set, and the set is written as the list of its members in order
(`VerificationRequest.ordered_names`).  Such a list stands for one set only, so requests that name the
same packages have one form, and requests that do not have different ones.

The reader takes the names in any order and any number of times (`VerificationRequest.Lists`).  What
it has read is always written again, but in the same bytes only when the names were in order
(`VerificationRequest.encode_listed_iff`).
-/
import LinkOwnership.Proofs.Forms
import LinkOwnership.Wire.Request

namespace LinkOwnership

set_option autoImplicit false

open LinkOwnership.Text (LooseString Point)

namespace Text

/-! ## The order of texts -/

/-- Points are in order as the characters that they are. -/
theorem compare_map_char_eq_lt_iff {cs ds : List Char} :
    compare (cs.map Point.char) (ds.map Point.char) = .lt ↔ cs < ds := by
  rw [List.compare_eq_compareLex]
  induction cs generalizing ds with
  | nil => cases ds <;> simp [List.compareLex]
  | cons c cs ih =>
      cases ds with
      | nil => simp [List.compareLex]
      | cons d ds =>
          have first : compare (Point.char c) (Point.char d) = compare c.toNat d.toNat := rfl
          rw [List.map_cons, List.map_cons, List.compareLex_cons_cons, List.cons_lt_cons_iff,
            Ordering.then_eq_lt, ih, first, Nat.compare_eq_lt, Nat.compare_eq_eq, Char.toNat_inj]
          rfl

/-- Strings are in order as their texts are. -/
theorem LooseString.compare_ofString_eq_lt_iff {s t : String} :
    compare (ofString s) (ofString t) = .lt ↔ s < t := by
  rw [String.lt_iff]
  exact compare_map_char_eq_lt_iff

end Text

namespace Wire

theorem exists_strings_of_row {texts : List (Option LooseString)} {row : List UInt8}
    (formed : Row IsPut texts row) (given : none ∉ texts) :
    ∃ names : List String, texts = names.map fun name => some (.ofString name) := by
  induction formed with
  | nil => exact ⟨[], rfl⟩
  | @cons text _ _ _ first _ ih =>
      rw [List.mem_cons, not_or] at given
      obtain ⟨t, rfl⟩ := Option.ne_none_iff_exists'.1 (Ne.symm given.1)
      obtain ⟨name, rfl, _⟩ := isText_of_put first
      obtain ⟨names, rfl⟩ := ih given.2
      exact ⟨name :: names, rfl⟩

/-- Texts that were written are strings, unless they are missing. -/
theorem exists_strings_of_put {texts : List (Option LooseString)} {bytes : List UInt8}
    (put : putTexts texts = .ok bytes) (given : none ∉ texts) :
    ∃ names : List String, texts = names.map fun name => some (.ofString name) := by
  obtain ⟨_, _, _, formed, _⟩ := putTexts_eq_ok_iff.1 put
  exact exists_strings_of_row formed given

end Wire

namespace VerificationRequest

/-! ## The set of the names -/

theorem mem_names_ofList {names : List (Option LooseString)} {name : Option LooseString} :
    name ∈ (ofList names).names ↔ name ∈ names := by
  rw [VerificationRequest.names, Std.ExtTreeSet.mem_toList, ofList, Std.ExtTreeSet.mem_ofList,
    List.contains_iff_mem]

theorem ordered_names (r : VerificationRequest) :
    r.names.Pairwise fun first second => compare first second = .lt :=
  Std.ExtTreeSet.ordered_toList

/-- A list is that of the names in order when it is in order. -/
theorem names_ofList_eq_iff {names : List (Option LooseString)} :
    (ofList names).names = names ↔
      names.Pairwise fun first second => compare first second = .lt := by
  constructor
  · intro same
    rw [← same]
    exact ordered_names _
  · intro ordered
    exact eq_of_ordered (ordered_names _) ordered fun _ => mem_names_ofList

/-- Requests are the same when they name the same packages. -/
theorem ext_names {r r' : VerificationRequest} (same : ∀ name, name ∈ r.names ↔ name ∈ r'.names) :
    r = r' := by
  refine congrArg mk (Std.ExtTreeSet.ext_mem fun name => ?_)
  rw [← Std.ExtTreeSet.mem_toList, ← Std.ExtTreeSet.mem_toList]
  exact same name

theorem ofList_names (r : VerificationRequest) : ofList r.names = r :=
  ext_names fun _ => mem_names_ofList

/-- A request for packages each of which is named. -/
def naming (names : List LooseString) : VerificationRequest := ofList (names.map some)

theorem mem_names_naming {names : List LooseString} {name : LooseString} :
    some name ∈ (naming names).names ↔ name ∈ names := by
  rw [naming, mem_names_ofList]
  simp only [List.mem_map, Option.some.injEq, exists_eq_right]

theorem none_not_mem_names_naming (names : List LooseString) : none ∉ (naming names).names := by
  rw [naming, mem_names_ofList]
  simp only [List.mem_map, reduceCtorEq, and_false, exists_false, not_false_eq_true]

theorem naming_eq_iff {names names' : List LooseString} :
    naming names = naming names' ↔ ∀ name, name ∈ names ↔ name ∈ names' := by
  constructor
  · intro same name
    rw [← mem_names_naming, same, mem_names_naming]
  · intro same
    refine ext_names fun name => ?_
    simp only [naming, mem_names_ofList, List.mem_map, same]

/-! ## What is written -/

theorem sorted_of_named {r : VerificationRequest} (named : none ∉ r.names) :
    r.sorted = .ok r.names := by
  unfold sorted
  split
  · rename_i names
    rw [names] at named
    exact absurd List.mem_cons_self named
  · rfl

theorem encode_eq_ok_iff {r : VerificationRequest} {bytes : List UInt8} (named : none ∉ r.names) :
    r.encode = .ok bytes ↔ ∃ list, Wire.putTexts r.names = .ok list ∧ bytes = 0x00 :: list := by
  simp only [encode, sorted_of_named named, bind_eq_ok_iff, mapError_eq_ok_iff, pure, Except.pure,
    Except.ok.injEq, exists_eq_left', eq_comm (a := bytes)]

/-- A request for packages that are named has a stored form when the number of its names fits its
field and so do their lengths. -/
theorem exists_encode {r : VerificationRequest} (named : none ∉ r.names) :
    (∃ bytes, r.encode = .ok bytes) ↔ r.packageNames.size ≤ 0x7FFFFFFF ∧
      ∀ name, some name ∈ r.names → ∃ n, Wire.utf8Length? name = some n ∧ n ≤ 0x7FFFFFFF := by
  have size : r.names.length = r.packageNames.size := Std.ExtTreeSet.length_toList
  rw [← size, ← Wire.exists_putTexts]
  constructor
  · rintro ⟨_, put⟩
    obtain ⟨list, written, _⟩ := (encode_eq_ok_iff named).1 put
    exact ⟨list, written⟩
  · rintro ⟨list, written⟩
    exact ⟨_, (encode_eq_ok_iff named).2 ⟨list, written, rfl⟩⟩

/-- A flag byte without flags, and a list of names in any order. -/
def Lists (names : List String) (bytes : List UInt8) : Prop :=
  ∃ list, Wire.Counted Wire.IsText names list ∧ bytes = 0x00 :: list

theorem Lists.unique {names names' : List String} {bytes : List UInt8} (left : Lists names bytes)
    (right : Lists names' bytes) : names' = names := by
  obtain ⟨list, form, rfl⟩ := left
  obtain ⟨list', form', same⟩ := right
  cases same
  exact Wire.PrefixFree.unique Wire.prefixFree_text.counted form' form

/-- What is written lists the names in order. -/
theorem encode_iff_lists {r : VerificationRequest} {bytes : List UInt8} (named : none ∉ r.names) :
    r.encode = .ok bytes ↔
      ∃ names, Lists names bytes ∧ r.names = names.map fun name => some (.ofString name) := by
  rw [encode_eq_ok_iff named]
  constructor
  · rintro ⟨list, put, rfl⟩
    obtain ⟨names, same⟩ := Wire.exists_strings_of_put put named
    rw [same, Wire.putTexts_names_iff] at put
    exact ⟨names, ⟨list, put, rfl⟩, same⟩
  · rintro ⟨names, ⟨list, form, rfl⟩, same⟩
    rw [same]
    exact ⟨list, Wire.putTexts_names_iff.2 form, rfl⟩

/-! ## What is read -/

theorem ofList_map_ofString (names : List String) :
    ofList (names.map fun name => some (.ofString name)) = naming (names.map .ofString) := by
  rw [naming, List.map_map]
  rfl

theorem parses_reader : Wire.Parses reader fun r bytes =>
    ∃ names, Lists names bytes ∧ r = naming (names.map .ofString) := by
  refine ((Wire.parses_flags 0).bind _ fun _ =>
    (Wire.parses_texts "package_names").bind _ fun names => .pure _).congr fun r bytes => ?_
  simp only [ofList_map_ofString]
  constructor
  · rintro ⟨bits, _, _, ⟨rfl, none⟩, ⟨names, list, _, form, ⟨rfl, rfl⟩, rfl⟩, rfl⟩
    obtain rfl : bits = 0x00 := by rwa [UInt8.not_zero, UInt8.and_neg_one] at none
    rw [List.append_nil]
    exact ⟨names, ⟨list, form, rfl⟩, rfl⟩
  · rintro ⟨names, ⟨list, form, rfl⟩, rfl⟩
    exact ⟨0x00, [0x00], list, ⟨rfl, rfl⟩,
      ⟨names, list, [], form, ⟨rfl, rfl⟩, (List.append_nil _).symm⟩, rfl⟩

theorem decode_eq_ok_iff {bytes : List UInt8} {r : VerificationRequest} :
    decode bytes = .ok r ↔ ∃ names, Lists names bytes ∧ r = naming (names.map .ofString) :=
  parses_reader.run_eq_ok_iff

theorem decode_of_encode {r : VerificationRequest} {bytes : List UInt8} (named : none ∉ r.names)
    (put : r.encode = .ok bytes) : decode bytes = .ok r := by
  obtain ⟨names, form, same⟩ := (encode_iff_lists named).1 put
  refine decode_eq_ok_iff.2 ⟨names, form, ?_⟩
  rw [← ofList_map_ofString, ← same, ofList_names]

/-- Names that were read are written in the same bytes when they were in order. -/
theorem encode_listed_iff {names : List String} {bytes : List UInt8} (form : Lists names bytes) :
    (naming (names.map .ofString)).encode = .ok bytes ↔ names.Pairwise (· < ·) := by
  have ordered : (naming (names.map .ofString)).names = (names.map fun name => some (.ofString name)) ↔
      names.Pairwise (· < ·) := by
    rw [← ofList_map_ofString, names_ofList_eq_iff, List.pairwise_map]
    simp only [← LooseString.compare_ofString_eq_lt_iff]
    rfl
  rw [encode_iff_lists (none_not_mem_names_naming _), ← ordered]
  constructor
  · rintro ⟨names', form', same⟩
    rwa [form.unique form'] at same
  · intro same
    exact ⟨names, form, same⟩

/-- Names that were read can be written: in order there are no more of them. -/
theorem exists_encode_listed {names : List String} {bytes : List UInt8} (form : Lists names bytes) :
    ∃ again, (naming (names.map .ofString)).encode = .ok again := by
  obtain ⟨list, counted, rfl⟩ := form
  obtain ⟨count, short⟩ := Wire.exists_putTexts.1 ⟨list, Wire.putTexts_names_iff.2 counted⟩
  rw [exists_encode (none_not_mem_names_naming _), ← ofList_map_ofString]
  exact ⟨Nat.le_trans Std.ExtTreeSet.size_ofList_le count,
    fun name member => short name (mem_names_ofList.1 member)⟩

/-- A request for packages that are named, whatever the order and however often, is written when the
number of the different names and their lengths fit their fields.  What is written is read as this
request, and is what is written for a list of names exactly when the list names the same packages.
What is read is a list of names that the bytes determine; the request for them can be written, what
is written is read as this request again, and it is in the same bytes exactly when the names that
were read ascend. -/
theorem canonical_list :
    (∀ names : List LooseString, (∃ bytes, (naming names).encode = .ok bytes) ↔
      (naming names).packageNames.size ≤ 0x7FFFFFFF ∧
        ∀ name ∈ names, ∃ n, Wire.utf8Length? name = some n ∧ n ≤ 0x7FFFFFFF) ∧
    (∀ (names : List LooseString) (bytes : List UInt8), (naming names).encode = .ok bytes →
      decode bytes = .ok (naming names) ∧
        ∀ names' : List LooseString,
          (naming names').encode = .ok bytes ↔ ∀ name, name ∈ names' ↔ name ∈ names) ∧
    ∀ (bytes : List UInt8) (r : VerificationRequest), decode bytes = .ok r →
      ∃ names : List String, Lists names bytes ∧ (∀ names', Lists names' bytes → names' = names) ∧
        r = naming (names.map .ofString) ∧
        (∃ again, r.encode = .ok again ∧ decode again = .ok r) ∧
        (r.encode = .ok bytes ↔ names.Pairwise (· < ·)) := by
  refine ⟨fun names => ?_, fun names bytes put => ?_, fun bytes r read => ?_⟩
  · rw [exists_encode (none_not_mem_names_naming names)]
    simp only [mem_names_naming]
  · have reread := decode_of_encode (none_not_mem_names_naming names) put
    refine ⟨reread, fun names' => ?_⟩
    rw [← naming_eq_iff]
    constructor
    · -- The form is read as one request, whichever of the two it was written for.
      intro put'
      have reread' := decode_of_encode (none_not_mem_names_naming names') put'
      rw [reread, Except.ok.injEq] at reread'
      exact reread'.symm
    · intro same
      rw [same, put]
  · obtain ⟨names, form, rfl⟩ := decode_eq_ok_iff.1 read
    obtain ⟨again, put⟩ := exists_encode_listed form
    exact ⟨names, form, fun names' => form.unique, rfl,
      ⟨again, put, decode_of_encode (none_not_mem_names_naming _) put⟩, encode_listed_iff form⟩

/-- Two names in descending order, the first of them twice. -/
def descending : List UInt8 :=
  [0x00, 3, 0, 0, 0, 1, 0, 0, 0, 0x71, 1, 0, 0, 0, 0x71, 1, 0, 0, 0, 0x70]

theorem canonical_list_descending :
    (∃ bytes, (naming ["q", "p"]).encode = .ok bytes ∧ (naming ["p", "q", "q"]).encode = .ok bytes) ∧
    decode descending = .ok (naming ["q", "p"]) ∧
      ∃ again, (naming ["q", "p"]).encode = .ok again ∧ decode again = .ok (naming ["q", "p"]) ∧
        again ≠ descending := by
  obtain ⟨writable, written, reads⟩ := canonical_list
  obtain ⟨bytes, put⟩ := (writable ["q", "p"]).2 (by
    refine ⟨by decide +kernel, ?_⟩
    rw [List.forall_mem_cons, List.forall_mem_singleton]
    exact ⟨⟨1, by decide⟩, ⟨1, by decide⟩⟩)
  have same : (naming ["p", "q", "q"]).encode = .ok bytes := by
    refine ((written _ bytes put).2 _).2 fun name => ?_
    simp only [List.mem_cons, List.not_mem_nil, or_false, or_self]
    exact or_comm
  have read : decode descending = .ok (naming ["q", "p"]) :=
    toOption_eq_some_iff.1 (by decide +kernel)
  obtain ⟨_, _, _, _, ⟨again, put', reread⟩, _⟩ := reads descending _ read
  refine ⟨⟨bytes, put, same⟩, read, again, put', reread, ?_⟩
  rintro rfl
  have other : (naming ["q", "p"]).encode.toOption ≠ some descending := by decide +kernel
  exact other (toOption_eq_some_iff.2 put')

end VerificationRequest

end LinkOwnership
