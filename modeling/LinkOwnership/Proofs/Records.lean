/-
# LinkOwnership.Proofs.Records -- what the parts of a record make up

A record that was built from a draft has its hosts in normal form (`Record.normal_of_build`), and
the parts of such a record make up the record again, with its hosts in the same order
(`Record.build_toDraft`): hosts are normalized once and for all (`Record.normalized_once`).  In a
first record every host is unclaimed (`Draft.unclaimed_of_fresh`).

An ordered map that is filled from entries with distinct keys has exactly these entries
(`OrderedMap.entries_ofList`), and it finds exactly what it lists (`OrderedMap.mem_entries_iff`).
-/
import LinkOwnership.Proofs.Normalization
import LinkOwnership.Record
import Std.Data.ExtTreeMap

namespace LinkOwnership

set_option autoImplicit false

open LinkOwnership.Text (LooseString)

theorem bind_eq_ok_iff {ε α β : Type} {a? : Except ε α} {next : α → Except ε β} {b : β} :
    a? >>= next = .ok b ↔ ∃ a, a? = .ok a ∧ next a = .ok b := by
  cases a? with
  | error why => simp only [bind, Except.bind, reduceCtorEq, false_and, exists_false]
  | ok a => simp only [bind, Except.bind, Except.ok.injEq, exists_eq_left']

theorem mapError_eq_ok_iff {ε ε' α : Type} {f : ε → ε'} {a? : Except ε α} {a : α} :
    a?.mapError f = .ok a ↔ a? = .ok a := by
  cases a? with
  | error why => exact ⟨nofun, nofun⟩
  | ok found => exact ⟨congrArg _ ∘ Except.ok.inj, congrArg _ ∘ Except.ok.inj⟩

theorem map_eq_error_iff {ε α β : Type} {a? : Except ε α} {f : α → β} {why : ε} :
    a?.map f = .error why ↔ a? = .error why := by
  cases a? with
  | error _ => simp only [Except.map, Except.error.injEq]
  | ok _ => simp only [Except.map, reduceCtorEq]

theorem toOption_eq_some_iff {ε α : Type} {a? : Except ε α} {a : α} :
    a?.toOption = some a ↔ a? = .ok a := by
  cases a? with
  | error why => simp only [Except.toOption, reduceCtorEq]
  | ok found => simp only [Except.toOption, Option.some.injEq, Except.ok.injEq]

/-- What each step of a fold that succeeds keeps, the fold keeps. -/
theorem foldlM_keeps {ε α β : Type} {step : β → α → Except ε β} (keeps : β → Prop)
    {items : List α}
    (one : ∀ item ∈ items, ∀ b b', step b item = .ok b' → keeps b → keeps b') {b b' : β}
    (all : items.foldlM step b = .ok b') (before : keeps b) : keeps b' := by
  induction items generalizing b with
  | nil => cases all; exact before
  | cons item rest ih =>
      rw [List.foldlM_cons, bind_eq_ok_iff] at all
      obtain ⟨middle, first, others⟩ := all
      exact ih (fun i hi => one i (List.mem_cons_of_mem _ hi)) others
        (one item (List.mem_cons_self ..) b middle first before)

/-- A fold succeeds when each of its steps does. -/
theorem exists_foldlM_eq_ok {ε α β : Type} {step : β → α → Except ε β} {items : List α}
    (one : ∀ item ∈ items, ∀ b, ∃ b', step b item = .ok b') (b : β) :
    ∃ b', items.foldlM step b = .ok b' := by
  induction items generalizing b with
  | nil => exact ⟨b, rfl⟩
  | cons item rest ih =>
      obtain ⟨middle, first⟩ := one item (List.mem_cons_self ..) b
      obtain ⟨b', others⟩ := ih (fun i hi => one i (List.mem_cons_of_mem _ hi)) middle
      exact ⟨b', by rw [List.foldlM_cons, first]; exact others⟩

/-- What succeeds for each item succeeds for all, and each result is that of an item. -/
theorem exists_mapM_eq_pure {m : Type → Type} [Monad m] [LawfulMonad m] {α β : Type} {f : α → m β}
    {items : List α} (each : ∀ item ∈ items, ∃ b, f item = pure b) :
    ∃ bs, items.mapM f = pure bs ∧ ∀ b ∈ bs, ∃ item ∈ items, f item = pure b := by
  induction items with
  | nil => exact ⟨[], List.mapM_nil, List.forall_mem_nil _⟩
  | cons item rest ih =>
      obtain ⟨⟨b, first⟩, others⟩ := List.forall_mem_cons.1 each
      obtain ⟨bs, all, sources⟩ := ih others
      refine ⟨b :: bs, by rw [List.mapM_cons, first, all, pure_bind, pure_bind], ?_⟩
      refine List.forall_mem_cons.2 ⟨⟨item, List.mem_cons_self .., first⟩, fun b' member => ?_⟩
      obtain ⟨source, listed, made⟩ := sources b' member
      exact ⟨source, List.mem_cons_of_mem _ listed, made⟩

theorem required_eq_ok_iff {α : Type} {field : Field} {given : Option α} {a : α} :
    required field given = .ok a ↔ given = some a := by
  cases given with
  | none => simp only [required, reduceCtorEq]
  | some b => simp only [required, Except.ok.injEq, Option.some.injEq]

theorem not_mem_of_nodup_append_cons {α : Type} {xs ys : List α} {x : α}
    (distinct : (xs ++ x :: ys).Nodup) : x ∉ xs := by
  rw [List.nodup_append] at distinct
  exact fun member => distinct.2.2 x member x (List.mem_cons_self ..) rfl

/-! ## Lists and maps in order -/

section

variable {κ υ : Type} [Ord κ] [Std.TransOrd κ] [Std.LawfulEqOrd κ]

/-- Lists in order with the same members are the same. -/
theorem eq_of_ordered {xs ys : List κ}
    (left : xs.Pairwise fun first second => compare first second = .lt)
    (right : ys.Pairwise fun first second => compare first second = .lt)
    (same : ∀ x, x ∈ xs ↔ x ∈ ys) : xs = ys := by
  have once {zs : List κ}
      (ordered : zs.Pairwise fun first second => compare first second = .lt) : zs.Nodup := by
    refine ordered.imp fun less equal => ?_
    rw [equal, Std.ReflOrd.compare_self] at less
    cases less
  refine ((List.perm_ext_iff_of_nodup (once left) (once right)).2 same).eq_of_pairwise ?_ left right
  intro a b _ _ less greater
  rw [Std.OrientedOrd.eq_swap, greater] at less
  cases less

variable [DecidableEq κ]

theorem getElem?_insert_if (m : Std.ExtTreeMap κ υ) (key : κ) (value : υ) (k : κ) :
    (m.insert key value)[k]? = if k = key then some value else m[k]? := by
  rw [Std.ExtTreeMap.getElem?_insert]
  simp only [Std.compare_eq_iff_eq, eq_comm (b := k)]

theorem getElem?_erase_if (m : Std.ExtTreeMap κ υ) (key k : κ) :
    (m.erase key)[k]? = if k = key then none else m[k]? := by
  rw [Std.ExtTreeMap.getElem?_erase]
  simp only [Std.compare_eq_iff_eq, eq_comm (b := k)]

end

/-! ## Ordered maps -/

namespace OrderedMap

variable {κ υ : Type} [DecidableEq κ]

theorem lookup_eq_some_iff_mem {entries : List (κ × υ)} (distinct : (entries.map Prod.fst).Nodup)
    (k : κ) (v : υ) : entries.lookup k = some v ↔ (k, v) ∈ entries := by
  induction entries with
  | nil => simp
  | cons entry rest ih =>
      obtain ⟨key, value⟩ := entry
      obtain ⟨absent, distinct⟩ := List.nodup_cons.1 distinct
      by_cases here : k = key
      · subst here
        have apart : (k, v) ∉ rest := fun member => absent (List.mem_map.2 ⟨(k, v), member, rfl⟩)
        simp [apart, eq_comm]
      · have miss : (k == key) = false := by simpa using here
        rw [List.lookup_cons, miss, ih distinct]
        simp [here]

/-- A map finds exactly what it lists. -/
theorem mem_entries_iff (m : OrderedMap κ υ) (k : κ) (v : υ) :
    (k, v) ∈ m.entries ↔ m.get? k = some v :=
  (lookup_eq_some_iff_mem m.distinct k v).symm

theorem mem_keys_iff (m : OrderedMap κ υ) (k : κ) : k ∈ m.keys ↔ ∃ v, m.get? k = some v := by
  simp only [keys, List.mem_map, Prod.exists, exists_and_right, exists_eq_right, mem_entries_iff]

theorem mem_keys_insert (m : OrderedMap κ υ) (key : κ) (value : υ) (k : κ) :
    k ∈ (m.insert key value).keys ↔ k = key ∨ k ∈ m.keys := by
  simp only [mem_keys_iff, get?_insert]
  by_cases here : k = key <;> simp [here]

theorem insertEntry_of_not_mem {key : κ} (value : υ) {entries : List (κ × υ)}
    (absent : key ∉ entries.map Prod.fst) :
    insertEntry key value entries = entries ++ [(key, value)] := by
  induction entries with
  | nil => rfl
  | cons entry rest ih =>
      obtain ⟨k, v⟩ := entry
      rw [List.map_cons, List.mem_cons, not_or] at absent
      rw [insertEntry, if_neg (fun same => absent.1 same.symm), ih absent.2, List.cons_append]

theorem entries_insert_of_not_mem {m : OrderedMap κ υ} {key : κ} (value : υ) (absent : key ∉ m.keys) :
    (m.insert key value).entries = m.entries ++ [(key, value)] :=
  insertEntry_of_not_mem value absent

theorem insertEntry_insertEntry (key : κ) (value value' : υ) (entries : List (κ × υ)) :
    insertEntry key value' (insertEntry key value entries) = insertEntry key value' entries := by
  induction entries with
  | nil => simp [insertEntry]
  | cons entry rest ih =>
      obtain ⟨k, v⟩ := entry
      by_cases here : k = key
      · simp [insertEntry, here]
      · simp [insertEntry, here, ih]

theorem insertEntry_of_lookup {key : κ} {value : υ} {entries : List (κ × υ)}
    (found : entries.lookup key = some value) : insertEntry key value entries = entries := by
  induction entries with
  | nil => cases found
  | cons entry rest ih =>
      obtain ⟨k, v⟩ := entry
      by_cases here : k = key
      · subst here
        rw [List.lookup_cons_self, Option.some.injEq] at found
        rw [insertEntry, if_pos rfl, found]
      · have miss : (key == k) = false := by simpa using fun same : key = k => here same.symm
        rw [List.lookup_cons, miss] at found
        rw [insertEntry, if_neg here, ih found]

/-- Of two values given to a key one after the other the second counts. -/
theorem insert_insert (m : OrderedMap κ υ) (key : κ) (value value' : υ) :
    (m.insert key value).insert key value' = m.insert key value' :=
  ext (insertEntry_insertEntry key value value' m.entries)

/-- A key that is given the value it has stays where it is. -/
theorem insert_of_get? {m : OrderedMap κ υ} {key : κ} {value : υ} (found : m.get? key = some value) :
    m.insert key value = m :=
  ext (insertEntry_of_lookup found)

/-- Entries with new and distinct keys are appended as they come. -/
theorem entries_foldl_insert {m : OrderedMap κ υ} {entries : List (κ × υ)}
    (distinct : ((m.entries ++ entries).map Prod.fst).Nodup) :
    (entries.foldl (fun m entry => m.insert entry.1 entry.2) m).entries = m.entries ++ entries := by
  induction entries generalizing m with
  | nil => rw [List.foldl_nil, List.append_nil]
  | cons entry rest ih =>
      obtain ⟨key, value⟩ := entry
      have absent : key ∉ m.keys := by
        rw [List.map_append] at distinct
        exact not_mem_of_nodup_append_cons distinct
      have grown := entries_insert_of_not_mem value absent
      rw [List.foldl_cons, ih, grown, List.append_assoc, List.singleton_append]
      rwa [grown, List.append_assoc, List.singleton_append]

theorem entries_ofList {entries : List (κ × υ)} (distinct : (entries.map Prod.fst).Nodup) :
    (ofList entries).entries = entries :=
  entries_foldl_insert (m := empty) distinct

/-- Inserting keeps what holds of every value. -/
theorem forall_values_foldl_insert {m : OrderedMap κ υ} {entries : List (κ × υ)} {p : υ → Prop}
    (before : ∀ entry ∈ m.entries, p entry.2) (new : ∀ entry ∈ entries, p entry.2) :
    ∀ entry ∈ (entries.foldl (fun m entry => m.insert entry.1 entry.2) m).entries, p entry.2 := by
  induction entries generalizing m with
  | nil => exact before
  | cons first rest ih =>
      refine ih ?_ fun entry member => new entry (List.mem_cons_of_mem _ member)
      rintro ⟨k, v⟩ member
      rw [mem_entries_iff, get?_insert] at member
      split at member
      · cases member
        exact new first (List.mem_cons_self ..)
      · exact before (k, v) ((mem_entries_iff m k v).2 member)

theorem mem_keys_foldl_insert {m : OrderedMap κ υ} {entries : List (κ × υ)} {k : κ}
    (member : k ∈ (entries.foldl (fun m entry => m.insert entry.1 entry.2) m).keys) :
    k ∈ m.keys ∨ k ∈ entries.map Prod.fst := by
  induction entries generalizing m with
  | nil => exact Or.inl member
  | cons first rest ih =>
      rw [List.map_cons, List.mem_cons]
      obtain inserted | behind := ih member
      · obtain here | old := (mem_keys_insert m first.1 first.2 k).1 inserted
        · exact Or.inr (Or.inl here)
        · exact Or.inl old
      · exact Or.inr (Or.inr behind)

theorem mem_keys_ofList {entries : List (κ × υ)} {k : κ} (member : k ∈ (ofList entries).keys) :
    k ∈ entries.map Prod.fst :=
  (mem_keys_foldl_insert member).resolve_left List.not_mem_nil

theorem forall_values_ofList {entries : List (κ × υ)} {p : υ → Prop}
    (all : ∀ entry ∈ entries, p entry.2) : ∀ entry ∈ (ofList entries).entries, p entry.2 :=
  forall_values_foldl_insert (m := empty) (by intro entry member; cases member) all

end OrderedMap

/-! ## Drafts -/

namespace Draft

theorem addHost_eq_ok_iff {hosts hosts' : HostMap} {entry : Host.Key × Json.Value} :
    addHost hosts entry = .ok hosts' ↔
      ∃ host state, entry.1.normalize? = .ok host ∧ LinkState.ofValue entry.2 = .ok state ∧
        hosts' = hosts.insert host state := by
  simp only [addHost, bind_eq_ok_iff, pure, Except.pure, Except.ok.injEq]
  constructor
  · rintro ⟨host, named, state, read, rfl⟩; exact ⟨host, state, named, read, rfl⟩
  · rintro ⟨host, state, named, read, rfl⟩; exact ⟨host, named, state, read, rfl⟩

/-- What a draft must have to make up a record. -/
theorem build_eq_ok_iff {d : Draft} {r : Record} :
    d.build = .ok r ↔
      d.identifier = some r.identifier ∧ d.packageName = some r.packageName ∧
        d.user = some r.user ∧ d.linkHandlingAllowed = some r.linkHandlingAllowed ∧
        ∃ raw, d.hosts = some raw ∧ raw.entries.foldlM addHost .empty = .ok r.hosts := by
  obtain ⟨i, p, u, a, hosts⟩ := r
  simp only [build, bind_eq_ok_iff, required_eq_ok_iff, pure, Except.pure, Except.ok.injEq,
    Record.mk.injEq]
  constructor
  · rintro ⟨_, hi, _, hp, _, hu, _, ha, raw, hraw, _, hhosts, rfl, rfl, rfl, rfl, rfl⟩
    exact ⟨hi, hp, hu, ha, raw, hraw, hhosts⟩
  · rintro ⟨hi, hp, hu, ha, raw, hraw, hhosts⟩
    exact ⟨_, hi, _, hp, _, hu, _, ha, raw, hraw, _, hhosts, rfl, rfl, rfl, rfl, rfl⟩

/-- A copy is made of the same parts as a record. -/
theorem copy_eq_ok_iff {d : Draft} {r : Record} : d.copy = .ok r ↔ d.build = .ok r := by
  rw [copy]
  split
  · rename_i absent
    rw [build_eq_ok_iff, absent]
    exact ⟨nofun, fun ⟨_, _, _, _, _, given, _⟩ => nomatch given⟩
  · rfl

end Draft

namespace Record

def Normal (r : Record) : Prop := ∀ host ∈ r.hosts.keys, Host.IsNormal host

/-- A record that was built has its hosts in normal form. -/
theorem normal_of_build {d : Draft} {r : Record} (built : d.build = .ok r) : r.Normal := by
  obtain ⟨_, _, _, _, raw, _, folded⟩ := Draft.build_eq_ok_iff.1 built
  refine foldlM_keeps (fun hosts : HostMap => ∀ host ∈ hosts.keys, Host.IsNormal host) ?_ folded
    (by intro host member; cases member)
  intro entry _ hosts hosts' added before host member
  obtain ⟨spelled, state, named, _, rfl⟩ := Draft.addHost_eq_ok_iff.1 added
  rcases (OrderedMap.mem_keys_insert hosts spelled state host).1 member with rfl | old
  · exact Host.isNormal_of_key named
  · exact before host old

/-- Hosts in normal form are read back as they are. -/
theorem foldlM_addHost_of_normal {m : HostMap} {entries : List (LooseString × LinkState)}
    (normal : ∀ entry ∈ entries, Host.IsNormal entry.1) :
    (entries.map fun entry => (Host.Key.given (some entry.1), Json.Value.int entry.2.code)).foldlM
        Draft.addHost m = .ok (entries.foldl (fun m entry => m.insert entry.1 entry.2) m) := by
  induction entries generalizing m with
  | nil => rfl
  | cons entry rest ih =>
      have added : Draft.addHost m (.given (some entry.1), .int entry.2.code) =
          .ok (m.insert entry.1 entry.2) := by
        refine Draft.addHost_eq_ok_iff.2 ⟨entry.1, entry.2, ?_, LinkState.ofValue_code _, rfl⟩
        exact congrArg Except.ok (normal entry (List.mem_cons_self ..))
      rw [List.map_cons, List.foldlM_cons, added]
      exact ih fun e member => normal e (List.mem_cons_of_mem _ member)

/-- The parts of a record in normal form make up the record again. -/
theorem build_toDraft {r : Record} (normal : r.Normal) : r.toDraft.build = .ok r := by
  have apart : ((r.hosts.entries.map fun entry =>
      (Host.Key.given (some entry.1), Json.Value.int entry.2.code)).map Prod.fst).Nodup := by
    rw [List.Nodup, List.pairwise_map, List.pairwise_map]
    refine (List.pairwise_map.1 r.hosts.distinct).imp fun ne same => ne ?_
    exact Option.some.inj (Host.Key.given.inj same)
  refine Draft.build_eq_ok_iff.2 ⟨rfl, rfl, rfl, rfl, _, rfl, ?_⟩
  rw [OrderedMap.entries_ofList apart, foldlM_addHost_of_normal]
  · exact congrArg Except.ok (OrderedMap.ext (OrderedMap.entries_ofList r.hosts.distinct))
  · exact fun entry member => normal entry.1 (List.mem_map_of_mem member)

/-- Hosts are normalized once and for all: the normal form of any spelling is its own normal form.
The hosts of a record that was built are therefore distinct and in normal form, and although a copy
of the record normalizes them again, it is the record, with its hosts in the same order. -/
theorem normalized_once :
    (∀ spelling : LooseString,
      Host.normalize (Host.normalize spelling) = Host.normalize spelling) ∧
    ∀ (d : Draft) (r : Record), d.build = .ok r →
      r.hosts.keys.Nodup ∧ (∀ host ∈ r.hosts.keys, Host.normalize host = host) ∧
        r.copy = .ok r := by
  refine ⟨Host.normalize_normalize, fun d r built => ?_⟩
  have normal : r.Normal := normal_of_build built
  exact ⟨r.hosts.distinct, normal, Draft.copy_eq_ok_iff.2 (build_toDraft normal)⟩

/-- Spellings of two hosts: the first lengthens in lower case, and of the second the sigma is final. -/
def spelledOut : Draft where
  identifier := some (.ofNat 7)
  packageName := some "p"
  user := some 1
  linkHandlingAllowed := some true
  hosts := some (OrderedMap.ofList
    [(.given (some " İ.Example"), .int 0), (.given (some "ΑΣ. "), .int 1), (.given (some "ας."), .int 2)])

theorem normalized_once_spelledOut :
    let r : Record := ⟨.ofNat 7, "p", 1, true,
      ⟨[("i\u0307.example", .unclaimed), ("ας.", .verified)], by decide⟩⟩
    spelledOut.build = .ok r ∧ r.hosts.keys.Nodup ∧
      (∀ host ∈ r.hosts.keys, Host.normalize host = host) ∧ r.copy = .ok r := by
  intro r
  have built : spelledOut.build = .ok r := toOption_eq_some_iff.1 (by decide +kernel)
  exact ⟨built, normalized_once.2 spelledOut r built⟩

end Record

namespace Draft

/-- The codes of a first record say that no host is claimed. -/
theorem codes_of_fresh {hosts : List (Option LooseString)} {entry : Host.Key × Json.Value}
    (listed : entry ∈ (OrderedMap.ofList
      (hosts.map fun h => (Host.Key.given h, Json.Value.int LinkState.unclaimed.code))).entries) :
    (∃ spelling ∈ hosts, entry.1 = .given spelling) ∧ entry.2 = .int LinkState.unclaimed.code := by
  have declared := OrderedMap.mem_keys_ofList (List.mem_map_of_mem listed)
  rw [List.map_map, List.mem_map] at declared
  obtain ⟨spelling, member, same⟩ := declared
  refine ⟨⟨spelling, member, same.symm⟩, OrderedMap.forall_values_ofList
    (p := fun code : Json.Value => code = .int LinkState.unclaimed.code) ?_ entry listed⟩
  exact List.forall_mem_map.2 fun _ _ => rfl

/-- A first record is made of any user, package and hosts that are given. -/
theorem exists_build_fresh (identifier : Identifier) (packageName : String) (user : Int)
    {hosts : List (Option LooseString)} (given : ∀ host ∈ hosts, ∃ h, host = some h)
    (linkHandlingAllowed : Bool) :
    ∃ r, (fresh identifier (some packageName) (some user) hosts (some linkHandlingAllowed)).build =
      .ok r := by
  have one : ∀ entry ∈ (OrderedMap.ofList
      (hosts.map fun h => (Host.Key.given h, Json.Value.int LinkState.unclaimed.code))).entries,
      ∀ m, ∃ m', addHost m entry = .ok m' := by
    rintro ⟨key, code⟩ listed m
    obtain ⟨⟨spelling, member, rfl⟩, rfl⟩ := codes_of_fresh listed
    obtain ⟨h, rfl⟩ := given spelling member
    exact ⟨_, addHost_eq_ok_iff.2 ⟨Host.normalize h, .unclaimed, rfl, rfl, rfl⟩⟩
  obtain ⟨all, folded⟩ := exists_foldlM_eq_ok one .empty
  exact ⟨⟨identifier, packageName, user, linkHandlingAllowed, all⟩,
    build_eq_ok_iff.2 ⟨rfl, rfl, rfl, rfl, _, rfl, folded⟩⟩

/-- In a first record every host is unclaimed. -/
theorem unclaimed_of_fresh {identifier : Identifier} {packageName : Option String}
    {user : Option Int} {hosts : List (Option LooseString)} {linkHandlingAllowed : Option Bool}
    {r : Record}
    (built : (fresh identifier packageName user hosts linkHandlingAllowed).build = .ok r)
    (host : LooseString) (state : LinkState) (holds : r.hosts.get? host = some state) :
    state = .unclaimed := by
  obtain ⟨_, _, _, _, raw, given, folded⟩ := build_eq_ok_iff.1 built
  cases given
  refine foldlM_keeps (fun m : HostMap => ∀ h s, m.get? h = some s → s = .unclaimed) ?_ folded
    (by intro h s found; cases found) host state holds
  intro entry member m m' added before h s found
  obtain ⟨spelled, read, _, code, rfl⟩ := addHost_eq_ok_iff.1 added
  rw [(codes_of_fresh member).2, LinkState.ofValue_code, Except.ok.injEq] at code
  rw [OrderedMap.get?_insert] at found
  split at found
  · cases found; exact code.symm
  · exact before h s found

end Draft

end LinkOwnership
