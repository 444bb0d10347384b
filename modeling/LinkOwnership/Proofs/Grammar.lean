/-
# LinkOwnership.Proofs.Grammar -- the bytes that are read as a record

The stored form of a record is a small grammar over bytes, stated here without the reader: a head
that announces a number of hosts, and that many of them, each with its code.

Bytes are read as a record exactly when they spell it with different hosts, and the fault of all
others is an unknown code exactly when they are well formed up to a code that stands for no state
(`Record.decode_grammar`).  The hosts of the record that is read are in normal form
(`Record.normal_of_decode`).
-/
import LinkOwnership.Proofs.Reader
import LinkOwnership.Wire.Record

namespace LinkOwnership

set_option autoImplicit false

open LinkOwnership.Text (LooseString)

namespace Record

open Wire (Cursor Fault)

/-! ## The form of a record -/

/-- What stands in a stored record before its hosts. -/
structure Head where
  linkHandlingAllowed : Bool
  identifier : Identifier
  packageName : String
  user : Int

/-- A flag byte, the identifier, the package name, the user, and the number of hosts that follow. -/
def Head.Form (h : Head) (count : Nat) (bytes : List UInt8) : Prop :=
  ∃ identifier name user announced, Wire.IsIdentifier h.identifier identifier ∧
    Wire.IsText h.packageName name ∧ Wire.IsInt32 h.user user ∧ Wire.IsInt32 count announced ∧
    bytes = (if h.linkHandlingAllowed then 0x08 else 0x00) ::
      (identifier ++ (name ++ (user ++ announced)))

/-- Hosts and their codes, one after the other. -/
inductive HostsForm : List (String × LinkState) → List UInt8 → Prop
  | nil : HostsForm [] []
  | cons {host : String} {state : LinkState} {rest : List (String × LinkState)}
      {text code more : List UInt8} (named : Wire.IsText host text)
      (coded : Wire.IsInt32 state.code code) (others : HostsForm rest more) :
      HostsForm ((host, state) :: rest) (text ++ (code ++ more))

/-- The hosts with their states, each host in normal form. -/
def normalEntries (spelled : List (String × LinkState)) : List (LooseString × LinkState) :=
  spelled.map fun entry => (Host.normalize (.ofString entry.1), entry.2)

def normalHosts (spelled : List (String × LinkState)) : List LooseString :=
  (normalEntries spelled).map Prod.fst

def Head.record (h : Head) (hosts : HostMap) : Record where
  identifier := h.identifier
  packageName := h.packageName
  user := h.user
  linkHandlingAllowed := h.linkHandlingAllowed
  hosts := hosts

/-! ## The head -/

theorem length_head (flag : UInt8) (identifier name user announced : List UInt8) :
    0 + [flag].length + identifier.length + name.length + user.length + announced.length =
      (flag :: (identifier ++ (name ++ (user ++ announced)))).length := by
  simp only [List.length_append, List.length_cons, List.length_nil]
  omega

/-- What is heard of the reader of a record comes from its hosts, after the head. -/
theorem reader_eq_iff {bytes : List UInt8} {outcome : Except Fault (Record × Cursor)}
    (heard : Wire.Reader.Heard outcome) :
    reader ⟨0, bytes⟩ = outcome ↔
      ∃ (h : Head) (count : Nat) (front rest : List UInt8), h.Form count front ∧
        bytes = front ++ rest ∧ 4 * count ≤ rest.length ∧
        (decodeHosts count .empty >>= fun hosts => pure (h.record hosts)) ⟨front.length, rest⟩ =
          outcome := by
  unfold reader
  simp only [(Wire.parses_flags _).bind_eq_iff heard, Wire.parses_identifier.bind_eq_iff heard,
    (Wire.parses_requiredText _).bind_eq_iff heard, Wire.parses_int32.bind_eq_iff heard,
    Wire.count_bind_eq_iff heard]
  constructor
  · rintro ⟨bits, _, _, ⟨rfl, known⟩, rfl, i, identifier, _, identified, rfl, packageName, name, _,
      named, rfl, u, user, _, filed, rfl, count, announced, rest, counted, rfl, enough, behind⟩
    rw [length_head] at behind
    refine ⟨⟨bits ≠ 0, i, packageName, u⟩, count, _, rest, ⟨identifier, name, user, announced,
      identified, named, filed, counted, ?_⟩, ?_, enough, behind⟩
    · rcases Wire.flag_cases ⟨3, rfl⟩ known with rfl | rfl <;> rfl
    · simp only [List.append_assoc, List.cons_append, List.nil_append]
  · rintro ⟨h, count, _, rest, ⟨identifier, name, user, announced, identified, named, filed, counted,
      rfl⟩, rfl, enough, behind⟩
    have known :
        (if h.linkHandlingAllowed then 0x08 else 0x00) &&& ~~~linkHandlingFlag = 0 := by
      cases h.linkHandlingAllowed <;> decide
    have flag : decide ((if h.linkHandlingAllowed then 0x08 else 0x00 : UInt8) ≠ 0) =
        h.linkHandlingAllowed := by
      cases h.linkHandlingAllowed <;> decide
    refine ⟨_, [_], _, ⟨rfl, known⟩, ?_, _, identifier, _, identified, rfl, _, name, _, named, rfl,
      _, user, _, filed, rfl, count, announced, rest, counted, rfl, enough, ?_⟩
    · simp only [List.append_assoc, List.cons_append, List.nil_append]
    · rw [length_head]
      simp only [flag]
      exact behind

/-! ## Hosts -/

theorem HostsForm.enough {hosts : List (String × LinkState)} {bytes : List UInt8}
    (form : HostsForm hosts bytes) : 4 * hosts.length ≤ bytes.length := by
  induction form with
  | nil => exact Nat.zero_le _
  | cons named coded others ih =>
      have here := named.four_le
      simp only [List.length_append, List.length_cons]
      omega

theorem contains_iff {m : HostMap} {host : LooseString} : m.contains host = true ↔ host ∈ m.keys := by
  rw [OrderedMap.contains, Option.isSome_iff_exists, OrderedMap.mem_keys_iff]

/-- What is heard of one host comes from the hosts behind it, or is the fault of its code. -/
theorem decodeHosts_succ_eq_iff {n offset : Nat} {m : HostMap} {bytes : List UInt8}
    {outcome : Except Fault (HostMap × Cursor)} (heard : Wire.Reader.Heard outcome) :
    decodeHosts (n + 1) m ⟨offset, bytes⟩ = outcome ↔
      ∃ host text code word rest, Wire.IsText host text ∧ Host.normalize (.ofString host) ∉ m.keys ∧
        Wire.IsInt32 code word ∧ bytes = text ++ (word ++ rest) ∧
        ((∃ state : LinkState, code = state.code ∧
            decodeHosts n (m.insert (Host.normalize (.ofString host)) state)
              ⟨offset + text.length + word.length, rest⟩ = outcome) ∨
          ((∀ state : LinkState, code ≠ state.code) ∧ outcome = .error (.unknownCode code))) := by
  rw [decodeHosts, (Wire.parses_requiredText "host").bind_eq_iff heard]
  constructor
  · rintro ⟨host, text, rest, named, rfl, behind⟩
    split at behind
    · subst behind
      cases heard _ rfl
    · rename_i new
      rw [Wire.parses_int32.bind_eq_iff heard] at behind
      obtain ⟨code, word, rest, coded, rfl, behind⟩ := behind
      refine ⟨host, text, code, word, rest, named, mt contains_iff.2 new, coded, rfl, ?_⟩
      cases known : LinkState.ofCode? code with
      | some state =>
          rw [known] at behind
          exact Or.inl ⟨state, (LinkState.ofCode?_eq_some_iff code state).1 known, behind⟩
      | none =>
          rw [known] at behind
          exact Or.inr ⟨(LinkState.ofCode?_eq_none_iff code).1 known, behind.symm⟩
  · rintro ⟨host, text, code, word, rest, named, new, coded, rfl, behind⟩
    refine ⟨host, text, _, named, rfl, ?_⟩
    rw [if_neg (mt contains_iff.1 new), Wire.parses_int32.bind_eq_iff heard]
    refine ⟨code, word, rest, coded, rfl, ?_⟩
    obtain ⟨state, rfl, behind⟩ | ⟨unknown, rfl⟩ := behind
    · rw [LinkState.ofCode?_code]
      exact behind
    · rw [(LinkState.ofCode?_eq_none_iff code).2 unknown]
      rfl

/-- Hosts are read when their entries are well formed and no two of them are the same. -/
theorem decodeHosts_eq_ok_iff {n offset : Nat} {m m' : HostMap} {bytes : List UInt8}
    {cursor : Cursor} :
    decodeHosts n m ⟨offset, bytes⟩ = .ok (m', cursor) ↔
      ∃ hosts front, hosts.length = n ∧ HostsForm hosts front ∧ bytes = front ++ cursor.rest ∧
        cursor.offset = offset + front.length ∧ (m.keys ++ normalHosts hosts).Nodup ∧
        m' = (normalEntries hosts).foldl (fun m entry => m.insert entry.1 entry.2) m := by
  induction n generalizing offset m bytes with
  | zero =>
      unfold decodeHosts
      rw [Wire.Reader.pure_eq_ok_iff]
      constructor
      · rintro ⟨rfl, rfl⟩
        refine ⟨[], [], rfl, .nil, rfl, rfl, ?_, rfl⟩
        rw [normalHosts, normalEntries, List.map_nil, List.map_nil, List.append_nil]
        exact m.distinct
      · rintro ⟨hosts, _, none, form, rfl, moved, _, rfl⟩
        obtain rfl := List.length_eq_zero_iff.1 none
        cases form
        exact ⟨rfl, by rw [List.length_nil, Nat.add_zero] at moved; rw [← moved, List.nil_append]⟩
  | succ n ih =>
      rw [decodeHosts_succ_eq_iff (Wire.Reader.heard_ok _)]
      constructor
      · rintro ⟨host, text, code, word, rest, named, new, coded, rfl, behind⟩
        obtain ⟨state, rfl, behind⟩ | ⟨_, failed⟩ := behind
        · obtain ⟨hosts, front, rfl, form, rfl, moved, distinct, rfl⟩ := ih.1 behind
          refine ⟨(host, state) :: hosts, _, rfl, .cons named coded form, ?_, ?_, ?_, rfl⟩
          · simp only [List.append_assoc]
          · rw [moved]
            simp only [List.length_append, Nat.add_assoc]
          · rwa [OrderedMap.keys_insert_of_not_mem state new, List.append_assoc,
              List.singleton_append] at distinct
        · cases failed
      · rintro ⟨hosts, _, long, form, rfl, moved, distinct, rfl⟩
        cases form with
        | nil => cases long
        | @cons host state rest text code more named coded others =>
            have new := not_mem_of_nodup_append_cons distinct
            refine ⟨host, text, state.code, code, more ++ cursor.rest, named, new, coded, ?_,
              Or.inl ⟨state, rfl, ih.2 ⟨rest, more, Nat.succ.inj long, others, rfl, ?_, ?_, rfl⟩⟩⟩
            · simp only [List.append_assoc]
            · rw [moved]
              simp only [List.length_append, Nat.add_assoc]
            · rw [OrderedMap.keys_insert_of_not_mem state new, List.append_assoc,
                List.singleton_append]
              exact distinct


/-- The fault of hosts is an unknown code when they are well formed and different up to this code. -/
theorem decodeHosts_eq_unknownCode_iff {n offset : Nat} {m : HostMap} {bytes : List UInt8}
    {code : Int} :
    decodeHosts n m ⟨offset, bytes⟩ = .error (.unknownCode code) ↔
      ∃ hosts host front text word rest, hosts.length < n ∧ HostsForm hosts front ∧
        Wire.IsText host text ∧ Wire.IsInt32 code word ∧
        bytes = front ++ (text ++ (word ++ rest)) ∧
        (m.keys ++ (normalHosts hosts ++ [Host.normalize (.ofString host)])).Nodup ∧
        ∀ state : LinkState, code ≠ state.code := by
  induction n generalizing offset m bytes with
  | zero =>
      constructor
      · intro failed
        cases failed
      · rintro ⟨hosts, _, _, _, _, _, fewer, _⟩
        exact absurd fewer (Nat.not_lt_zero _)
  | succ n ih =>
      rw [decodeHosts_succ_eq_iff (Wire.Reader.heard_unknownCode code)]
      constructor
      · rintro ⟨host, text, code', word, rest, named, new, coded, rfl, behind⟩
        obtain ⟨state, rfl, behind⟩ | ⟨unknown, same⟩ := behind
        · obtain ⟨hosts, last, front, lastText, lastWord, rest, fewer, form, lastNamed, lastCoded, rfl,
            distinct, unknown⟩ := ih.1 behind
          refine ⟨(host, state) :: hosts, last, _, lastText, lastWord, rest, Nat.succ_lt_succ fewer,
            .cons named coded form, lastNamed, lastCoded, ?_, ?_, unknown⟩
          · simp only [List.append_assoc]
          · rwa [OrderedMap.keys_insert_of_not_mem state new, List.append_assoc,
              List.singleton_append] at distinct
        · cases same
          refine ⟨[], host, [], text, word, rest, Nat.succ_pos n, .nil, named, coded, rfl, ?_, unknown⟩
          have grown := (m.insert (Host.normalize (.ofString host)) .unclaimed).distinct
          rwa [← OrderedMap.keys, OrderedMap.keys_insert_of_not_mem _ new] at grown
      · rintro ⟨hosts, last, _, lastText, lastWord, rest, fewer, form, lastNamed, lastCoded, rfl,
          distinct, unknown⟩
        cases form with
        | nil =>
            exact ⟨last, lastText, code, lastWord, rest, lastNamed,
              not_mem_of_nodup_append_cons distinct, lastCoded, rfl, Or.inr ⟨unknown, rfl⟩⟩
        | @cons host state hosts text code' more named coded others =>
            have new := not_mem_of_nodup_append_cons distinct
            refine ⟨host, text, state.code, code', _, named, new, coded, ?_,
              Or.inl ⟨state, rfl, ih.2 ⟨hosts, last, more, lastText, lastWord, rest,
                Nat.lt_of_succ_lt_succ fewer, others, lastNamed, lastCoded, rfl, ?_, unknown⟩⟩⟩
            · simp only [List.append_assoc]
            · rw [OrderedMap.keys_insert_of_not_mem state new, List.append_assoc,
                List.singleton_append]
              exact distinct

/-! ## What is read as a record -/

/-- The bytes are a head, and as many hosts as it announces, with nothing behind them. -/
def Spells (h : Head) (hosts : List (String × LinkState)) (bytes : List UInt8) : Prop :=
  ∃ front back, h.Form hosts.length front ∧ HostsForm hosts back ∧ bytes = front ++ back

/-- The bytes are well formed up to the code of one of the hosts that the head announces, there are
enough of them for the announced number, the hosts up to this one are different, and the code
stands for no state. -/
def StopsAtCode (code : Int) (bytes : List UInt8) : Prop :=
  ∃ (h : Head) (count : Nat) (hosts : List (String × LinkState)) (host : String)
    (front back text word rest : List UInt8),
    h.Form count front ∧ hosts.length < count ∧ HostsForm hosts back ∧ Wire.IsText host text ∧
      Wire.IsInt32 code word ∧ bytes = front ++ (back ++ (text ++ (word ++ rest))) ∧
      4 * count ≤ (back ++ (text ++ (word ++ rest))).length ∧
      (normalHosts hosts ++ [Host.normalize (.ofString host)]).Nodup ∧
      ∀ state : LinkState, code ≠ state.code

/-- What is read as a record, and as which one. -/
theorem decode_eq_ok_iff {bytes : List UInt8} {r : Record} :
    decode bytes = .ok r ↔
      ∃ h hosts, Spells h hosts bytes ∧ (normalHosts hosts).Nodup ∧
        r = h.record (.ofList (normalEntries hosts)) := by
  rw [decode, Wire.Reader.run_eq_ok_iff]
  simp only [reader_eq_iff (Wire.Reader.heard_ok _)]
  constructor
  · rintro ⟨offset, h, count, front, rest, headed, rfl, _, behind⟩
    rw [Wire.Reader.bind_apply, bind_eq_ok_iff] at behind
    obtain ⟨⟨m, cursor⟩, listed, last⟩ := behind
    obtain ⟨rfl, rfl⟩ := Wire.Reader.pure_eq_ok_iff.1 last
    obtain ⟨hosts, back, rfl, form, rfl, _, distinct, rfl⟩ := decodeHosts_eq_ok_iff.1 listed
    refine ⟨h, hosts, ⟨front, back, headed, form, ?_⟩, distinct, rfl⟩
    rw [List.append_nil]
  · rintro ⟨h, hosts, ⟨front, back, headed, form, rfl⟩, distinct, rfl⟩
    refine ⟨front.length + back.length, h, hosts.length, front, back, headed, rfl, form.enough, ?_⟩
    rw [Wire.Reader.bind_apply, bind_eq_ok_iff]
    refine ⟨⟨_, ⟨front.length + back.length, []⟩⟩, decodeHosts_eq_ok_iff.2 ⟨hosts, back, rfl, form,
      (List.append_nil _).symm, rfl, distinct, rfl⟩, rfl⟩

theorem decode_eq_unknownCode_iff {bytes : List UInt8} {code : Int} :
    decode bytes = .error (.unknownCode code) ↔ StopsAtCode code bytes := by
  rw [decode, Wire.Reader.run_eq_unknownCode_iff, reader_eq_iff (Wire.Reader.heard_unknownCode code)]
  constructor
  · rintro ⟨h, count, front, rest, headed, rfl, enough, behind⟩
    rw [Wire.Reader.bind_pure_eq_error_iff] at behind
    obtain ⟨hosts, host, back, text, word, rest, fewer, form, named, coded, rfl, distinct, unknown⟩ :=
      decodeHosts_eq_unknownCode_iff.1 behind
    exact ⟨h, count, hosts, host, front, back, text, word, rest, headed, fewer, form, named, coded,
      rfl, enough, distinct, unknown⟩
  · rintro ⟨h, count, hosts, host, front, back, text, word, rest, headed, fewer, form, named, coded,
      rfl, enough, distinct, unknown⟩
    refine ⟨h, count, front, _, headed, rfl, enough, Wire.Reader.bind_pure_eq_error_iff.2 ?_⟩
    exact decodeHosts_eq_unknownCode_iff.2
      ⟨hosts, host, back, text, word, rest, fewer, form, named, coded, rfl, distinct, unknown⟩

/-- The hosts of a record that was read are in normal form, so making a record of them again does
nothing. -/
theorem normal_of_decode {bytes : List UInt8} {r : Record} (read : decode bytes = .ok r) :
    r.Normal := by
  obtain ⟨h, hosts, _, distinct, rfl⟩ := decode_eq_ok_iff.1 read
  intro host member
  have listed : (OrderedMap.ofList (normalEntries hosts)).keys = normalHosts hosts :=
    congrArg (List.map Prod.fst) (OrderedMap.entries_ofList distinct)
  rw [Head.record, listed] at member
  obtain ⟨_, normalized, rfl⟩ := List.mem_map.1 member
  obtain ⟨entry, _, rfl⟩ := List.mem_map.1 normalized
  exact Host.isNormal_normalize _

/-- Bytes are read as a record exactly when they spell it with different hosts: the count that is
held against what is left refuses none of them.  The parts of such a record make it up again.  All
other bytes are at fault, and the fault is an unknown code exactly when they are well formed up to a
code that stands for no state. -/
theorem decode_grammar (bytes : List UInt8) :
    (∀ r, decode bytes = .ok r ↔
      ∃ h hosts, Spells h hosts bytes ∧ (normalHosts hosts).Nodup ∧
        r = h.record (.ofList (normalEntries hosts))) ∧
    (∀ r, decode bytes = .ok r → r.toDraft.build = .ok r) ∧
    ((¬ ∃ h hosts, Spells h hosts bytes ∧ (normalHosts hosts).Nodup) →
      ∃ fault, decode bytes = .error fault) ∧
    ∀ code, decode bytes = .error (.unknownCode code) ↔ StopsAtCode code bytes := by
  refine ⟨fun r => decode_eq_ok_iff, fun r read => build_toDraft (normal_of_decode read),
    fun ill => ?_, fun code => decode_eq_unknownCode_iff⟩
  cases read : decode bytes with
  | error fault => exact ⟨fault, rfl⟩
  | ok r =>
      obtain ⟨h, hosts, spelled, distinct, _⟩ := decode_eq_ok_iff.1 read
      exact absurd ⟨h, hosts, spelled, distinct⟩ ill

/-- A head with a user below zero and an identifier with bits in both halves. -/
def belowZero : Head := ⟨true, .ofHalves 0x80 0xFF, "p", -2⟩

/-- The bytes of this head and of one host, part by part; the host is not in normal form. -/
theorem decode_grammar_belowZero :
    let identifier : List UInt8 := [0x80, 0, 0, 0, 0, 0, 0, 0] ++ [0xFF, 0, 0, 0, 0, 0, 0, 0]
    let front : List UInt8 := 0x08 :: (identifier ++
      ([1, 0, 0, 0, 0x70] ++ ([0xFE, 0xFF, 0xFF, 0xFF] ++ [1, 0, 0, 0])))
    let back : List UInt8 := [1, 0, 0, 0, 0x41] ++ ([2, 0, 0, 0] ++ [])
    Spells belowZero [("A", .verified)] (front ++ back) ∧
      decode (front ++ back) = .ok (belowZero.record (.ofList [("a", .verified)])) := by
  intro identifier front back
  have head : belowZero.Form 1 front := by
    have identified : Wire.IsIdentifier belowZero.identifier identifier :=
      ⟨_, _, rfl, rfl, rfl, rfl⟩
    have named : Wire.IsText "p" [1, 0, 0, 0, 0x70] := ⟨[1, 0, 0, 0], ⟨rfl, rfl⟩, by decide +kernel⟩
    have user : Wire.IsInt32 (-2) [0xFE, 0xFF, 0xFF, 0xFF] := ⟨rfl, by decide⟩
    exact ⟨_, _, _, _, identified, named, user, ⟨rfl, rfl⟩, rfl⟩
  have hosts : HostsForm [("A", .verified)] back := by
    have named : Wire.IsText "A" [1, 0, 0, 0, 0x41] := ⟨[1, 0, 0, 0], ⟨rfl, rfl⟩, by decide +kernel⟩
    exact .cons named ⟨rfl, rfl⟩ .nil
  have spelled : Spells belowZero [("A", .verified)] (front ++ back) := ⟨_, _, head, hosts, rfl⟩
  have distinct : (normalHosts [("A", .verified)]).Nodup := List.pairwise_singleton ..
  have normal : normalEntries [("A", .verified)] = [(.ofString "a", .verified)] := by
    decide +kernel
  refine ⟨spelled, ((decode_grammar _).1 _).2 ⟨_, _, spelled, distinct, ?_⟩⟩
  rw [normal]

end Record

end LinkOwnership
