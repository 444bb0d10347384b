/-
# LinkOwnership.Proofs.Canonical -- what is written again after a record was read

Bytes spell a record in one way only (`Record.Spells.unique`), and the head of a record is written
as it was read (`Record.encode_record_iff`).  So a record that was read is written with the same
head, and with its hosts in normal form, in their order and with their codes.  These bytes are the
ones that were read exactly when they spell every host in normal form (`Record.canonical_form`).
-/
import LinkOwnership.Proofs.Forms

namespace LinkOwnership

set_option autoImplicit false

open LinkOwnership.Text (LooseString)

theorem LinkState.code_inj {s t : LinkState} (same : s.code = t.code) : s = t := by
  have read := ofCode?_code s
  rw [same, ofCode?_code] at read
  exact (Option.some.inj read).symm

namespace Record

/-! ## Spellings of hosts -/

def spelledEntries (spelled : List (String × LinkState)) : List (LooseString × LinkState) :=
  spelled.map fun entry => (.ofString entry.1, entry.2)

theorem spelledEntries_inj {hosts hosts' : List (String × LinkState)}
    (same : spelledEntries hosts = spelledEntries hosts') : hosts = hosts' := by
  refine (List.map_inj_right ?_).1 same
  rintro ⟨host, state⟩ ⟨host', state'⟩ equal
  cases LooseString.ofString_inj (congrArg Prod.fst equal)
  cases congrArg Prod.snd equal
  rfl

/-- Normalizing changes no host when each is spelled in normal form. -/
theorem normalEntries_eq_iff {hosts : List (String × LinkState)} :
    normalEntries hosts = spelledEntries hosts ↔
      ∀ entry ∈ hosts, Host.IsNormal (.ofString entry.1) := by
  simp only [normalEntries, spelledEntries, List.map_inj_left, Prod.mk.injEq, and_true,
    Host.IsNormal]

/-- The normal form of a host that is spelled can be spelled. -/
theorem exists_spelledEntries (hosts : List (String × LinkState)) :
    ∃ normal, spelledEntries normal = normalEntries hosts := by
  induction hosts with
  | nil => exact ⟨[], rfl⟩
  | cons entry rest ih =>
      obtain ⟨normal, others⟩ := ih
      have whole := Host.whole_normalize (Text.whole_ofString entry.1)
      obtain ⟨s, first⟩ := Text.exists_ofString_iff.2 whole
      refine ⟨(s, entry.2) :: normal, ?_⟩
      rw [spelledEntries, List.map_cons, ← spelledEntries, others, ← first]
      rfl

/-- Hosts have one form, the one that is written for them as they are spelled. -/
theorem hostsForm_iff_encode {hosts : List (String × LinkState)} {bytes : List UInt8} :
    HostsForm hosts bytes ↔ encodeHosts (spelledEntries hosts) = .ok bytes := by
  constructor
  · intro form
    induction form with
    | nil => rfl
    | cons named coded others ih =>
        refine encodeHosts_cons_eq_ok_iff.2 ⟨_, _, _, Wire.isText_iff_put.1 named,
          Wire.isInt32_iff_put.1 coded, ih, ?_⟩
        rw [List.append_assoc]
  · intro put
    obtain ⟨hosts', form, same⟩ := hostsForm_of_encode put
    rwa [spelledEntries_inj same]

/-! ## Bytes spell one record -/

theorem flag_inj {a b : Bool}
    (same : (if a then 0x08 else 0x00 : UInt8) = if b then 0x08 else 0x00) : a = b := by
  revert a b
  decide

theorem Head.Form.ends {h h' : Head} {count count' : Nat} {front front' rest rest' : List UInt8}
    (left : h.Form count front) (right : h'.Form count' front')
    (same : front ++ rest = front' ++ rest') :
    h = h' ∧ count = count' ∧ front = front' ∧ rest = rest' := by
  obtain ⟨identifier, name, user, announced, identified, named, filed, counted, rfl⟩ := left
  obtain ⟨identifier', name', user', announced', identified', named', filed', counted', rfl⟩ := right
  obtain ⟨allowed, i, packageName, u⟩ := h
  obtain ⟨allowed', i', packageName', u'⟩ := h'
  simp only [List.cons_append, List.append_assoc, List.cons.injEq] at same
  obtain ⟨flag, afterFlag⟩ := same
  cases flag_inj flag
  obtain ⟨rfl, rfl, afterIdentifier⟩ :=
    Wire.parses_identifier.prefixFree identified identified' afterFlag
  obtain ⟨rfl, rfl, afterName⟩ := Wire.prefixFree_text named named' afterIdentifier
  obtain ⟨rfl, rfl, afterUser⟩ := Wire.prefixFree_int32 filed filed' afterName
  obtain ⟨number, rfl, behind⟩ := Wire.prefixFree_int32 counted counted' afterUser
  exact ⟨rfl, Int.ofNat.inj number, rfl, behind⟩

/-- Hosts of the same number have one form each. -/
theorem HostsForm.unique {hosts hosts' : List (String × LinkState)} {bytes bytes' : List UInt8}
    (left : HostsForm hosts bytes) (right : HostsForm hosts' bytes')
    (long : hosts.length = hosts'.length) (same : bytes = bytes') : hosts = hosts' := by
  induction left generalizing hosts' bytes' with
  | nil => exact (List.length_eq_zero_iff.1 long.symm).symm
  | cons named coded others ih =>
      cases right with
      | nil => cases long
      | cons named' coded' others' =>
          obtain ⟨rfl, _, behind⟩ := Wire.prefixFree_text named named' same
          obtain ⟨code, _, behind⟩ := Wire.prefixFree_int32 coded coded' behind
          rw [ih others' (Nat.succ.inj long) behind, LinkState.code_inj code]

/-- What bytes spell, they spell in one way. -/
theorem Spells.unique {h h' : Head} {hosts hosts' : List (String × LinkState)} {bytes : List UInt8}
    (left : Spells h hosts bytes) (right : Spells h' hosts' bytes) : h = h' ∧ hosts = hosts' := by
  obtain ⟨front, back, headed, form, rfl⟩ := left
  obtain ⟨front', back', headed', form', same⟩ := right
  obtain ⟨rfl, long, rfl, behind⟩ := headed.ends headed' same
  exact ⟨rfl, form.unique form' long behind⟩

/-! ## Writing what was read -/

/-- The record of a head is written with the bytes of the head. -/
theorem encode_record_iff {h : Head} {m : HostMap} {front bytes : List UInt8}
    (headed : h.Form m.size front) :
    (h.record m).encode = .ok bytes ↔
      ∃ back, encodeHosts m.entries = .ok back ∧ front ++ back = bytes := by
  obtain ⟨identifier, name, user, announced, identified, named, filed, counted, rfl⟩ := headed
  rw [Wire.isText_iff_put] at named
  rw [Wire.isInt32_iff_put] at filed counted
  rw [Wire.isIdentifier_iff_put] at identified
  rw [encode_eq_ok_iff]
  simp only [Head.record, named, filed, counted, identified, Except.ok.injEq, exists_and_left,
    exists_eq_left', List.append_assoc, List.cons_append]
  rfl

/-- Hosts that were read are written in the same bytes when each was spelled in normal form. -/
theorem encode_normalEntries_iff {hosts : List (String × LinkState)} {back : List UInt8}
    (form : HostsForm hosts back) :
    encodeHosts (normalEntries hosts) = .ok back ↔
      ∀ entry ∈ hosts, Host.IsNormal (.ofString entry.1) := by
  rw [← normalEntries_eq_iff]
  constructor
  · intro put
    obtain ⟨normal, same⟩ := exists_spelledEntries hosts
    have long : normal.length = hosts.length := by
      simpa only [spelledEntries, normalEntries, List.length_map] using congrArg List.length same
    -- The normal forms are as many as the spellings, so one form for both makes them the same.
    rw [← same] at put
    rw [← same, (hostsForm_iff_encode.2 put).unique form long rfl]
  · intro same
    rw [same]
    exact hostsForm_iff_encode.1 form

/-- A record that was read has a stored form unless a host is too long: a normal form may be longer
than the spelling. -/
theorem exists_encode_of_read {h : Head} {m : HostMap} {hosts : List (String × LinkState)}
    {front : List UInt8} (headed : h.Form m.size front) (entries : m.entries = normalEntries hosts) :
    (∃ bytes, (h.record m).encode = .ok bytes) ↔
      ∀ host ∈ m.keys, ∀ n, Wire.utf8Length? host = some n → n ≤ 0x7FFFFFFF := by
  rw [exists_encode]
  constructor
  · intro storable host member n long
    obtain ⟨n', long', small⟩ := storable.hosts host member
    rw [long', Option.some.injEq] at long
    rwa [← long]
  · intro short
    obtain ⟨_, _, _, _, _, ⟨_, long, _⟩, filed, counted, _⟩ := headed
    have fits {n : Int} {bytes : List UInt8} (form : Wire.IsInt32 n bytes) : Wire.FitsInt32 n :=
      Wire.exists_putInt32.1 ⟨bytes, Wire.isInt32_iff_put.1 form⟩
    refine ⟨fits filed, Wire.fitsInt32_natCast.1 (fits long), Wire.fitsInt32_natCast.1 (fits counted),
      fun host member => ?_⟩
    obtain ⟨normal, same⟩ := exists_spelledEntries hosts
    have spelled := member
    rw [Head.record, OrderedMap.keys, entries, ← same, spelledEntries, List.map_map] at spelled
    obtain ⟨entry, _, rfl⟩ := List.mem_map.1 spelled
    have length := Wire.utf8Length?_ofString entry.1
    exact ⟨_, length, short _ member _ length⟩

/-- A record that was read can be written again unless the normal form of a host is too long, and
what is written is read as the same record and written again as it is.  It is written with the same
head, and with the same hosts in normal form, in their order and with their states; the bytes
are those that were read exactly when these, which spell one head and one list of hosts only, spell
each host in normal form. -/
theorem canonical_form {bytes : List UInt8} {r : Record} (read : decode bytes = .ok r) :
    ((∃ again, r.encode = .ok again) ↔
      ∀ host ∈ r.hosts.keys, ∀ n, Wire.utf8Length? host = some n → n ≤ 0x7FFFFFFF) ∧
    (∀ again, r.encode = .ok again →
      decode again = .ok r ∧ ∀ r', decode again = .ok r' → r'.encode = .ok again) ∧
    ∃ (h : Head) (hosts : List (String × LinkState)) (front back : List UInt8),
      (h.Form hosts.length front ∧ HostsForm hosts back ∧ bytes = front ++ back) ∧
      (∀ h' hosts', Spells h' hosts' bytes → h' = h ∧ hosts' = hosts) ∧
      (r.encode = .ok bytes ↔ ∀ entry ∈ hosts, Host.IsNormal (.ofString entry.1)) ∧
      ∀ again, r.encode = .ok again → ∃ normal back', HostsForm normal back' ∧
        again = front ++ back' ∧ spelledEntries normal = normalEntries hosts := by
  have normal := normal_of_decode read
  obtain ⟨h, hosts, ⟨front, back, headed, form, rfl⟩, distinct, rfl⟩ := decode_eq_ok_iff.1 read
  have entries := OrderedMap.entries_ofList distinct
  have size : (OrderedMap.ofList (normalEntries hosts)).size = hosts.length := by
    rw [OrderedMap.size, entries, normalEntries, List.length_map]
  have sized := headed
  rw [← size] at sized
  have writes {again : List UInt8} :
      (h.record (.ofList (normalEntries hosts))).encode = .ok again ↔
        ∃ back', encodeHosts (normalEntries hosts) = .ok back' ∧ front ++ back' = again := by
    rw [encode_record_iff sized, entries]
  refine ⟨exists_encode_of_read sized entries, ?_, h, hosts, front, back, ⟨headed, form, rfl⟩,
    ?_, ?_, ?_⟩
  · intro again put
    have reread := decode_of_encode normal put
    refine ⟨reread, fun r' read' => ?_⟩
    rw [reread, Except.ok.injEq] at read'
    rw [← read', put]
  · intro h' hosts' spelled
    exact spelled.unique ⟨front, back, headed, form, rfl⟩
  · simp only [writes, List.append_right_inj, exists_eq_right, encode_normalEntries_iff form]
  · intro again put
    obtain ⟨back', put', rfl⟩ := writes.1 put
    obtain ⟨normal, same⟩ := exists_spelledEntries hosts
    rw [← same] at put'
    exact ⟨normal, back', hostsForm_iff_encode.2 put', rfl, same⟩

/-- A form of the signed record in which the first host is not spelled in normal form. -/
def respelled : List UInt8 :=
  [0x08, 0, 0, 0, 0, 0, 0, 0, 0x80, 0xFF, 0xFF, 0xFF, 0xFF, 0xFF, 0xFF, 0xFF, 0xFF,
    1, 0, 0, 0, 0x70, 0xFF, 0xFF, 0xFF, 0xFF, 2, 0, 0, 0,
    3, 0, 0, 0, 0x20, 0x42, 0x20, 2, 0, 0, 0, 1, 0, 0, 0, 0x61, 1, 0, 0, 0]

theorem canonical_form_respelled : decode respelled = .ok signedRecord ∧
    ∃ again, signedRecord.encode = .ok again ∧ decode again = .ok signedRecord ∧
      again ≠ respelled := by
  have read : decode respelled = .ok signedRecord := toOption_eq_some_iff.1 (by decide +kernel)
  obtain ⟨writable, reread, _⟩ := canonical_form read
  obtain ⟨again, put⟩ := writable.2 (by
    have keys : signedRecord.hosts.keys = [.ofString "b", .ofString "a"] := rfl
    rw [keys, List.forall_mem_cons, List.forall_mem_singleton]
    exact ⟨by decide, by decide⟩)
  refine ⟨read, again, put, (reread again put).1, ?_⟩
  rintro rfl
  have other : signedRecord.encode.toOption ≠ some respelled := by decide
  exact other (toOption_eq_some_iff.2 put)

end Record

end LinkOwnership
