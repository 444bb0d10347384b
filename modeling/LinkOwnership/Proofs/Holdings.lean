/-
# LinkOwnership.Proofs.Holdings -- who holds which host after a step of a scope

A scope is read by asking for the record of a package, for the state in which the record has a
host (`Scope.stateOf?`), for the holder of a host's slot, and for the packages approved for a
host.  The answers say everything about a scope that keeps no empty set (`Scope.eq_of_holdings`).

For each step of a scope the lemmas here give the answers afterwards in terms of those before:
`Scope.release` takes exactly one package out of the indexes of the listed hosts, and
`Scope.install` puts one in.  `Scope.verify_cases` and `Scope.select_cases` list all that these
two can do, and `Scope.conflict?_eq_none_iff` says when a record is let in.
-/
import LinkOwnership.Proofs.Records
import LinkOwnership.Registry.Scope

namespace LinkOwnership.Scope

set_option autoImplicit false

open LinkOwnership.Text (LooseString)

/-! ## Reading a scope -/

/-- The state in which the record of a package has a host, if the host is declared. -/
def stateOf? (s : Scope) (package : String) (host : LooseString) : Option LinkState :=
  s.packages[package]?.bind fun r => r.hosts.get? host

def NoEmptySet (s : Scope) : Prop :=
  ∀ (host : LooseString) (names : NameSet), s.approved[host]? = some names → names ≠ ∅

theorem stateOf?_eq_some_iff {s : Scope} {package : String} {host : LooseString}
    {state : LinkState} :
    s.stateOf? package host = some state ↔
      ∃ r, s.packages[package]? = some r ∧ r.hosts.get? host = some state := by
  rw [stateOf?, Option.bind_eq_some_iff]

theorem stateOf?_of_record {s : Scope} {package : String} {r : Record}
    (known : s.packages[package]? = some r) (host : LooseString) :
    s.stateOf? package host = r.hosts.get? host := by
  rw [stateOf?, known, Option.bind_some]

theorem stateFor_eq_iff {r : Record} {host : LooseString} {state : LinkState}
    (claimed : state ≠ .unclaimed) :
    r.stateFor host = state ↔ r.hosts.get? host = some state := by
  rw [Record.stateFor]
  cases r.hosts.get? host with
  | none => simpa using claimed.symm
  | some found => simp

theorem approvedFor_eq_getD (s : Scope) (host : LooseString) :
    s.approvedFor host = (s.approved[host]?).getD ∅ :=
  Std.ExtTreeMap.getD_eq_getD_getElem?

theorem mem_approvedFor_iff {s : Scope} {package : String} {host : LooseString} :
    package ∈ s.approvedFor host ↔ ∃ names, s.approved[host]? = some names ∧ package ∈ names := by
  rw [approvedFor_eq_getD]
  cases s.approved[host]? with
  | none => simp
  | some names => simp

theorem mem_approved_iff {s : Scope} (full : s.NoEmptySet) {host : LooseString} :
    host ∈ s.approved ↔ ∃ package, package ∈ s.approvedFor host := by
  rw [approvedFor_eq_getD, Std.ExtTreeMap.mem_iff_isSome_getElem?]
  cases found : s.approved[host]? with
  | none => simp
  | some names =>
      have inhabited : ∃ package, package ∈ names := by
        refine Classical.byContradiction fun none => full host names found ?_
        exact Std.ExtTreeSet.ext_mem fun package => by
          simpa using fun member => none ⟨package, member⟩
      simpa using inhabited

/-- Scopes without empty sets are equal when they answer alike. -/
theorem eq_of_holdings {s t : Scope} (fullLeft : s.NoEmptySet) (fullRight : t.NoEmptySet)
    (records : ∀ package : String, s.packages[package]? = t.packages[package]?)
    (slots : ∀ (host : LooseString) (package : String),
      s.exclusive[host]? = some package ↔ t.exclusive[host]? = some package)
    (approvals : ∀ (host : LooseString) (package : String),
      package ∈ s.approvedFor host ↔ package ∈ t.approvedFor host) :
    s = t := by
  have packages : s.packages = t.packages := Std.ExtTreeMap.ext_getElem? records
  have exclusive : s.exclusive = t.exclusive :=
    Std.ExtTreeMap.ext_getElem? fun host => Option.ext (slots host)
  have sets : ∀ host, s.approvedFor host = t.approvedFor host :=
    fun host => Std.ExtTreeSet.ext_mem (approvals host)
  have approved : s.approved = t.approved := by
    refine Std.ExtTreeMap.ext_getElem? fun host => ?_
    have listed : host ∈ s.approved ↔ host ∈ t.approved := by
      rw [mem_approved_iff fullLeft, mem_approved_iff fullRight]
      exact exists_congr (approvals host)
    have same := sets host
    rw [approvedFor_eq_getD, approvedFor_eq_getD] at same
    rw [Std.ExtTreeMap.mem_iff_isSome_getElem?, Std.ExtTreeMap.mem_iff_isSome_getElem?] at listed
    cases left : s.approved[host]? <;> cases right : t.approved[host]? <;> simp_all
  cases s; cases t; simp_all

theorem mem_approvedHosts_iff {s : Scope} {package : String} {host : LooseString} :
    host ∈ s.approvedHosts package ↔ package ∈ s.approvedFor host := by
  simp only [approvedHosts, List.mem_map, List.mem_filter, decide_eq_true_eq, Prod.exists,
    exists_and_right, exists_eq_right, mem_approvedFor_iff,
    Std.ExtTreeMap.mem_toList_iff_getElem?_eq_some]

/-- The approved hosts of a package are listed in their order, each of them once. -/
theorem ordered_approvedHosts (s : Scope) (package : String) :
    (s.approvedHosts package).Pairwise fun first second => compare first second = .lt :=
  List.pairwise_map.2 (Std.ExtTreeMap.ordered_keys_toList.filter _)

/-- A package is approved for the same hosts, so the lists of them are the same. -/
theorem approvedHosts_congr {s t : Scope} {package : String}
    (same : ∀ host, package ∈ s.approvedFor host ↔ package ∈ t.approvedFor host) :
    s.approvedHosts package = t.approvedHosts package := by
  refine eq_of_ordered (ordered_approvedHosts s package) (ordered_approvedHosts t package) ?_
  intro host
  rw [mem_approvedHosts_iff, mem_approvedHosts_iff]
  exact same host

/-! ## The steps of a scope -/

@[simp] theorem exclusive_putRecord (s : Scope) (package : String) (r : Record) :
    (s.putRecord package r).exclusive = s.exclusive := rfl

@[simp] theorem exclusive_approve (s : Scope) (package : String) (host : LooseString) :
    (s.approve package host).exclusive = s.exclusive := rfl

@[simp] theorem packages_approve (s : Scope) (package : String) (host : LooseString) :
    (s.approve package host).packages = s.packages := rfl

theorem getElem?_putRecord (s : Scope) (package : String) (r : Record) (q : String) :
    (s.putRecord package r).packages[q]? = if q = package then some r else s.packages[q]? :=
  getElem?_insert_if s.packages package r q

theorem getElem?_of_known {s : Scope} {package : String} {r : Record}
    (known : s.packages[package]? = some r) (q : String) :
    s.packages[q]? = if q = package then some r else s.packages[q]? := by
  split
  · rename_i own
    rw [own, known]
  · rfl

theorem get?_setState (r : Record) (host : LooseString) (state : LinkState) (k : LooseString) :
    (r.setState host state).hosts.get? k = if k = host then some state else r.hosts.get? k :=
  OrderedMap.get?_insert r.hosts host state k

theorem stateOf?_putRecord (s : Scope) (package : String) (r : Record) (q : String)
    (host : LooseString) :
    (s.putRecord package r).stateOf? q host =
      if q = package then r.hosts.get? host else s.stateOf? q host := by
  simp only [stateOf?, getElem?_putRecord]
  split <;> rfl

theorem getElem?_approve (s : Scope) (package : String) (host k : LooseString) :
    (s.approve package host).approved[k]? =
      if k = host then some ((s.approvedFor host).insert package) else s.approved[k]? :=
  getElem?_insert_if s.approved host _ k

theorem mem_approvedFor_approve (s : Scope) (package : String) (host : LooseString) (q : String)
    (k : LooseString) :
    q ∈ (s.approve package host).approvedFor k ↔
      (q = package ∧ k = host) ∨ q ∈ s.approvedFor k := by
  rw [approvedFor_eq_getD, getElem?_approve]
  by_cases here : k = host
  · subst here
    rw [if_pos rfl, Option.getD_some, Std.ExtTreeSet.mem_insert, Std.compare_eq_iff_eq]
    simp only [and_true, eq_comm]
  · rw [if_neg here, ← approvedFor_eq_getD]
    simp only [here, and_false, false_or]

theorem NoEmptySet.approve {s : Scope} (full : s.NoEmptySet) (package : String)
    (host : LooseString) : (s.approve package host).NoEmptySet := by
  intro k names found
  rw [getElem?_approve] at found
  split at found
  · rintro rfl
    have inserted : package ∈ (s.approvedFor host).insert package := Std.ExtTreeSet.mem_insert_self
    rw [Option.some.inj found] at inserted
    exact Std.ExtTreeSet.not_mem_empty inserted
  · exact full k names found

theorem holder_releaseSlot (s : Scope) (package : String) (host k : LooseString) (q : String) :
    (s.releaseSlot package host).exclusive[k]? = some q ↔
      s.exclusive[k]? = some q ∧ ¬ (q = package ∧ k = host) := by
  unfold releaseSlot
  split
  · rename_i held
    rw [getElem?_erase_if]
    by_cases here : k = host
    · subst here
      rw [if_pos rfl, held]
      simp [eq_comm]
    · simp [here]
  · rename_i other
    refine ⟨fun holds => ⟨holds, ?_⟩, fun both => both.1⟩
    rintro ⟨rfl, rfl⟩
    exact other holds

@[simp] theorem approved_releaseSlot (s : Scope) (package : String) (host : LooseString) :
    (s.releaseSlot package host).approved = s.approved := by
  unfold releaseSlot; split <;> rfl

@[simp] theorem packages_releaseSlot (s : Scope) (package : String) (host : LooseString) :
    (s.releaseSlot package host).packages = s.packages := by
  unfold releaseSlot; split <;> rfl

@[simp] theorem exclusive_revoke (s : Scope) (package : String) (host : LooseString) :
    (s.revoke package host).exclusive = s.exclusive := by
  unfold revoke
  split
  · rfl
  · simp only; split <;> rfl

@[simp] theorem packages_revoke (s : Scope) (package : String) (host : LooseString) :
    (s.revoke package host).packages = s.packages := by
  unfold revoke
  split
  · rfl
  · simp only; split <;> rfl

/-- What is left of the set of a host is kept unless it is empty. -/
theorem getElem?_revoke (s : Scope) (package : String) (host k : LooseString) :
    (s.revoke package host).approved[k]? =
      if k = host then
        (s.approved[host]?.map (·.erase package)).filter fun left => !left.isEmpty
      else s.approved[k]? := by
  unfold revoke
  split
  · rename_i none
    by_cases here : k = host
    · rw [if_pos here, here, none]; rfl
    · rw [if_neg here]
  · rename_i members some
    rw [some, Option.map_some, Option.filter_some]
    cases empty : (members.erase package).isEmpty with
    | true =>
        simp only [empty, if_true, Bool.not_true, Bool.false_eq_true, if_false]
        exact getElem?_erase_if s.approved host k
    | false =>
        simp only [empty, Bool.false_eq_true, if_false, Bool.not_false, if_true]
        exact getElem?_insert_if s.approved host _ k

theorem mem_approvedFor_revoke (s : Scope) (package : String) (host : LooseString) (q : String)
    (k : LooseString) :
    q ∈ (s.revoke package host).approvedFor k ↔
      q ∈ s.approvedFor k ∧ ¬ (q = package ∧ k = host) := by
  rw [mem_approvedFor_iff, mem_approvedFor_iff, getElem?_revoke]
  by_cases here : k = host
  · subst here
    simp only [if_true, and_true, Option.filter_eq_some_iff, Option.map_eq_some_iff]
    constructor
    · rintro ⟨_, ⟨⟨members, found, rfl⟩, _⟩, member⟩
      rw [Std.ExtTreeSet.mem_erase, Ne, Std.compare_eq_iff_eq] at member
      exact ⟨⟨members, found, member.2⟩, fun same => member.1 same.symm⟩
    · rintro ⟨⟨members, found, member⟩, ne⟩
      have left : q ∈ members.erase package := by
        rw [Std.ExtTreeSet.mem_erase, Ne, Std.compare_eq_iff_eq]
        exact ⟨fun same => ne same.symm, member⟩
      refine ⟨_, ⟨⟨members, found, rfl⟩, ?_⟩, left⟩
      rw [Bool.not_eq_true', Std.ExtTreeSet.isEmpty_eq_false_iff]
      intro empty
      rw [empty] at left
      exact Std.ExtTreeSet.not_mem_empty left
  · simp only [here, if_false, and_false, not_false_eq_true, and_true]

theorem NoEmptySet.revoke {s : Scope} (full : s.NoEmptySet) (package : String)
    (host : LooseString) : (s.revoke package host).NoEmptySet := by
  intro k names found
  rw [getElem?_revoke] at found
  split at found
  · rintro rfl
    cases (Option.filter_eq_some_iff.1 found).2
  · exact full k names found

/-! ## Giving claims back -/

theorem release_cons (package : String) (host : LooseString) (rest : List LooseString) (s : Scope) :
    release package (host :: rest) s =
      release package rest ((s.releaseSlot package host).revoke package host) := rfl

@[simp] theorem packages_release (package : String) (hosts : List LooseString) (s : Scope) :
    (s.release package hosts).packages = s.packages := by
  induction hosts generalizing s with
  | nil => rfl
  | cons host rest ih => rw [release_cons, ih, packages_revoke, packages_releaseSlot]

theorem holder_release (package : String) (hosts : List LooseString) (s : Scope) (k : LooseString)
    (q : String) :
    (s.release package hosts).exclusive[k]? = some q ↔
      s.exclusive[k]? = some q ∧ ¬ (q = package ∧ k ∈ hosts) := by
  induction hosts generalizing s with
  | nil => simp [release]
  | cons host rest ih =>
      rw [release_cons, ih, exclusive_revoke, holder_releaseSlot, List.mem_cons, and_assoc,
        ← not_or, ← and_or_left]

theorem mem_approvedFor_release (package : String) (hosts : List LooseString) (s : Scope)
    (q : String) (k : LooseString) :
    q ∈ (s.release package hosts).approvedFor k ↔
      q ∈ s.approvedFor k ∧ ¬ (q = package ∧ k ∈ hosts) := by
  induction hosts generalizing s with
  | nil => simp [release]
  | cons host rest ih =>
      have slots : (s.releaseSlot package host).approvedFor k = s.approvedFor k := by
        rw [approvedFor, approved_releaseSlot]; rfl
      rw [release_cons, ih, mem_approvedFor_revoke, slots, List.mem_cons, and_assoc, ← not_or,
        ← and_or_left]

theorem NoEmptySet.release {s : Scope} (full : s.NoEmptySet) (package : String)
    (hosts : List LooseString) : (s.release package hosts).NoEmptySet := by
  induction hosts generalizing s with
  | nil => exact full
  | cons host rest ih =>
      have released : (s.releaseSlot package host).NoEmptySet := by
        intro k names found
        rw [approved_releaseSlot] at found
        exact full k names found
      exact ih (released.revoke package host)

theorem releaseSlot_putRecord (s : Scope) (package : String) (host : LooseString) (p : String)
    (r : Record) :
    (s.putRecord p r).releaseSlot package host = (s.releaseSlot package host).putRecord p r := by
  unfold releaseSlot
  rw [exclusive_putRecord]
  split <;> rfl

theorem revoke_putRecord (s : Scope) (package : String) (host : LooseString) (p : String)
    (r : Record) : (s.putRecord p r).revoke package host = (s.revoke package host).putRecord p r := by
  have same : (s.putRecord p r).approved = s.approved := rfl
  unfold revoke
  rw [same]
  cases s.approved[host]? with
  | none => rfl
  | some members => simp only; split <;> rfl

/-- Claims are given back without a look at the records. -/
theorem release_putRecord (package : String) (hosts : List LooseString) (s : Scope) (p : String)
    (r : Record) :
    (s.putRecord p r).release package hosts = (s.release package hosts).putRecord p r := by
  induction hosts generalizing s with
  | nil => rfl
  | cons host rest ih =>
      rw [release_cons, release_cons, releaseSlot_putRecord, revoke_putRecord, ih]

/-! ## What a change can do -/

/-- Verifying a host keeps it as it is, turns the holder of the slot into an approved package, or
changes no more than the record. -/
theorem verify_cases {s s' : Scope} {package : String} {r : Record} {host : LooseString}
    (done : s.verify package r host = .ok s') :
    (r.stateFor host = .verified ∧ s' = s) ∨
    (r.stateFor host = .selected ∧
      s' = (({ s with exclusive := s.exclusive.erase host }).approve package host).putRecord
        package (r.setState host .verified)) ∨
    (r.stateFor host = .unclaimed ∧ s' = s.putRecord package (r.setState host .verified)) := by
  unfold verify at done
  cases state : r.stateFor host with
  | verified =>
      simp only [state, Except.ok.injEq] at done
      exact Or.inl ⟨rfl, done.symm⟩
  | selected =>
      simp only [state] at done
      split at done
      · exact Or.inr (Or.inl ⟨rfl, (Except.ok.inj done).symm⟩)
      · cases done
  | unclaimed =>
      simp only [state, Except.ok.injEq] at done
      exact Or.inr (Or.inr ⟨rfl, done.symm⟩)

/-- Selecting a host that is declared keeps it when the package has the selection, approves a
verified package when nobody holds the slot, and else gives the slot to the package when nobody
is approved either. -/
theorem select_cases {s s' : Scope} {user : Int} {package : String} {r : Record}
    {host : LooseString} (done : s.select user package r host = .ok s') :
    ∃ state, r.hosts.get? host = some state ∧
      (((state = .selected ∨ package ∈ s.approvedFor host) ∧ s' = s) ∨
      (state = .verified ∧ s.exclusive[host]? = none ∧ s' = s.approve package host) ∨
      (state = .unclaimed ∧ s.exclusive[host]? = none ∧ s.approvedFor host = ∅ ∧
        s' = ({ s with exclusive := s.exclusive.insert host package }).putRecord package
          (r.setState host .selected))) := by
  unfold select at done
  cases declared : r.hosts.get? host with
  | none => simp only [declared, reduceCtorEq] at done
  | some state =>
      refine ⟨state, rfl, ?_⟩
      simp only [declared] at done
      split at done
      · exact Or.inl ⟨‹_›, (Except.ok.inj done).symm⟩
      · rename_i unselected
        split at done
        · cases done
        · rename_i free
          split at done
          · exact Or.inr (Or.inl ⟨‹_›, free, (Except.ok.inj done).symm⟩)
          · rename_i unverified
            split at done
            · cases done
            · rename_i alone
              have unclaimed : state = .unclaimed := by cases state <;> simp_all
              exact Or.inr (Or.inr ⟨unclaimed, free, Std.ExtTreeSet.min?_eq_none_iff.1 alone,
                (Except.ok.inj done).symm⟩)

/-- A package that has the selection of a host keeps it. -/
theorem select_of_selected {s : Scope} {user : Int} {package : String} {r : Record}
    {host : LooseString} {state : LinkState} (declared : r.hosts.get? host = some state)
    (has : state = .selected ∨ package ∈ s.approvedFor host) :
    s.select user package r host = .ok s := by
  rw [select, declared]
  exact if_pos has

/-- A selection is refused when the host is not declared, and else in favour of the holder of the
slot, or of the least of the approved packages when the package is not verified. -/
theorem select_error_cases {s : Scope} {user : Int} {package : String} {r : Record}
    {host : LooseString} {why : Rejection} (failed : s.select user package r host = .error why) :
    (r.hosts.get? host = none ∧ why = (Rejection.undeclaredHost user package host).raised) ∨
    ∃ state, r.hosts.get? host = some state ∧ ¬ (state = .selected ∨ package ∈ s.approvedFor host) ∧
      ∃ owner, why = .hostOwned host owner ∧
        (s.exclusive[host]? = some owner ∨ s.exclusive[host]? = none ∧ state ≠ .verified ∧
          (s.approvedFor host).min? = some owner) := by
  unfold select at failed
  cases declared : r.hosts.get? host with
  | none =>
      simp only [declared, Except.error.injEq] at failed
      exact Or.inl ⟨rfl, failed.symm⟩
  | some state =>
      refine Or.inr ⟨state, rfl, ?_⟩
      simp only [declared] at failed
      split at failed
      · cases failed
      · rename_i unselected
        refine ⟨unselected, ?_⟩
        split at failed
        · rename_i holder held
          exact ⟨holder, (Except.error.inj failed).symm, Or.inl held⟩
        · rename_i free
          split at failed
          · cases failed
          · rename_i unverified
            split at failed
            · rename_i least shared
              exact ⟨least, (Except.error.inj failed).symm, Or.inr ⟨free, unverified, shared⟩⟩
            · cases failed

theorem isSome_putRecord (s : Scope) (package : String) (r : Record) :
    ((s.putRecord package r).packages[package]?).isSome = true := by
  rw [getElem?_putRecord, if_pos rfl, Option.isSome_some]

/-- No change but a removal makes a package unknown. -/
theorem isSome_of_verify {s s' : Scope} {package : String} {r : Record} {host : LooseString}
    (known : s.packages[package]? = some r) (done : s.verify package r host = .ok s') :
    (s'.packages[package]?).isSome = true := by
  rcases verify_cases done with ⟨_, rfl⟩ | ⟨_, rfl⟩ | ⟨_, rfl⟩
  · rw [known, Option.isSome_some]
  · exact isSome_putRecord ..
  · exact isSome_putRecord ..

theorem isSome_of_select {s s' : Scope} {user : Int} {package : String} {r : Record}
    {host : LooseString} (known : s.packages[package]? = some r)
    (done : s.select user package r host = .ok s') : (s'.packages[package]?).isSome = true := by
  obtain ⟨_, _, cases⟩ := select_cases done
  rcases cases with ⟨_, rfl⟩ | ⟨_, _, rfl⟩ | ⟨_, _, _, rfl⟩
  · rw [known, Option.isSome_some]
  · rw [packages_approve, known, Option.isSome_some]
  · exact isSome_putRecord ..

theorem isSome_of_clear {s : Scope} {package : String} {r : Record} {host : LooseString}
    (known : s.packages[package]? = some r) :
    ((s.clear package r host).packages[package]?).isSome = true := by
  unfold clear
  simp only [packages_release]
  split
  · exact isSome_putRecord ..
  · rw [known, Option.isSome_some]

/-! ## Taking over a record -/

theorem mem_hostsIn_iff {r : Record} {state : LinkState} {host : LooseString} :
    host ∈ r.hostsIn state ↔ r.hosts.get? host = some state := by
  simp only [Record.hostsIn, List.mem_map, List.mem_filter, decide_eq_true_eq, Prod.exists,
    exists_and_right, exists_eq_right, OrderedMap.mem_entries_iff]

theorem rivalHolder?_eq_none_iff {s : Scope} {package : String} {host : LooseString} :
    s.rivalHolder? package host = none ↔ ∀ q, s.exclusive[host]? = some q → q = package := by
  unfold rivalHolder?
  cases s.exclusive[host]? with
  | none => simp
  | some holder => simp [Option.filter_eq_none_iff]

/-- Whether the listing shows no member but one. -/
theorem toList_eq_singleton_or_empty {names : NameSet} {package : String}
    (only : ∀ q, q ∈ names → q = package) : names.toList = [package] ∨ names = ∅ := by
  have ordered := Std.ExtTreeSet.ordered_toList (t := names)
  have members : ∀ q ∈ names.toList, q = package :=
    fun q member => only q (Std.ExtTreeSet.mem_toList.1 member)
  cases listed : names.toList with
  | nil => exact Or.inr (Std.ExtTreeSet.toList_eq_nil_iff.1 listed)
  | cons x rest =>
      rw [listed] at ordered members
      have first := members x (List.mem_cons_self ..)
      cases rest with
      | nil => exact Or.inl (by rw [first])
      | cons y more =>
          have second := members y (List.mem_cons_of_mem _ (List.mem_cons_self ..))
          have before := (List.pairwise_cons.1 ordered).1 y (List.mem_cons_self ..)
          rw [first, second] at before
          simp at before

theorem rivalOfSelected?_eq_none_iff {s : Scope} {package : String} {host : LooseString} :
    s.rivalOfSelected? package host = none ↔
      (∀ q, s.exclusive[host]? = some q → q = package) ∧
        ∀ q, q ∈ s.approvedFor host → q = package := by
  rw [← rivalHolder?_eq_none_iff]
  unfold rivalOfSelected?
  cases s.rivalHolder? package host with
  | some holder => simp
  | none =>
      simp only [true_and]
      constructor
      · intro clear q member
        split at clear
        · rename_i listed
          rw [← Std.ExtTreeSet.mem_toList, listed, List.mem_singleton] at member
          exact member
        · rw [Std.ExtTreeSet.min?_eq_none_iff.1 clear] at member
          exact absurd member Std.ExtTreeSet.not_mem_empty
      · intro only
        rcases toList_eq_singleton_or_empty only with listed | empty
        · rw [if_pos listed]
        · rw [empty]; split
          · rfl
          · exact Std.ExtTreeSet.min?_empty

/-- A record is let in when no other package holds the slot of a host it claims, and none is
approved for a host it has selected. -/
theorem conflict?_eq_none_iff {s : Scope} {r : Record} {approvals : List LooseString} :
    s.conflict? r approvals = none ↔
      (∀ host, r.hosts.get? host = some .selected →
        (∀ q, s.exclusive[host]? = some q → q = r.packageName) ∧
          ∀ q, q ∈ s.approvedFor host → q = r.packageName) ∧
      ∀ host ∈ approvals, ∀ q, s.exclusive[host]? = some q → q = r.packageName := by
  simp only [conflict?, Option.orElse_eq_orElse, Option.orElse_eq_or, Option.or_eq_none_iff,
    List.findSome?_eq_none_iff, Option.map_eq_none_iff, rivalOfSelected?_eq_none_iff,
    rivalHolder?_eq_none_iff, mem_hostsIn_iff]

theorem conflict?_eq_some {s : Scope} {r : Record} {approvals : List LooseString}
    {why : Rejection} (conflict : s.conflict? r approvals = some why) :
    ∃ host owner, why = .hostOwned host owner := by
  simp only [conflict?, Option.orElse_eq_orElse, Option.orElse_eq_or, Option.or_eq_some_iff] at conflict
  rcases conflict with found | ⟨_, found⟩
  all_goals
    obtain ⟨host, _, named⟩ := List.exists_of_findSome?_eq_some found
    obtain ⟨owner, _, rfl⟩ := Option.map_eq_some_iff.1 named
    exact ⟨host, owner, rfl⟩

/-- The scope after the claims of a package's former record, if there is one, were taken back. -/
def withdraw (s : Scope) (package : String) : Scope :=
  match s.packages[package]? with
  | some former => s.release package former.hosts.keys
  | none => s

def takeSlots (package : String) (hosts : List LooseString) (s : Scope) : Scope :=
  hosts.foldl (fun s host => { s with exclusive := s.exclusive.insert host package }) s

def approveAll (package : String) (hosts : List LooseString) (s : Scope) : Scope :=
  hosts.foldl (fun s host => s.approve package host) s

theorem install_eq (s : Scope) (r : Record) (approvals : List LooseString) :
    s.install r approvals =
      approveAll r.packageName approvals (takeSlots r.packageName (r.hostsIn .selected)
        ((s.withdraw r.packageName).putRecord r.packageName r)) := rfl

theorem takeSlots_cons (package : String) (host : LooseString) (rest : List LooseString)
    (s : Scope) : takeSlots package (host :: rest) s =
      takeSlots package rest { s with exclusive := s.exclusive.insert host package } := rfl

@[simp] theorem packages_takeSlots (package : String) (hosts : List LooseString) (s : Scope) :
    (s.takeSlots package hosts).packages = s.packages := by
  induction hosts generalizing s with
  | nil => rfl
  | cons host rest ih => rw [takeSlots_cons, ih]

@[simp] theorem approved_takeSlots (package : String) (hosts : List LooseString) (s : Scope) :
    (s.takeSlots package hosts).approved = s.approved := by
  induction hosts generalizing s with
  | nil => rfl
  | cons host rest ih => rw [takeSlots_cons, ih]

theorem holder_takeSlots (package : String) (hosts : List LooseString) (s : Scope)
    (k : LooseString) :
    (s.takeSlots package hosts).exclusive[k]? =
      if k ∈ hosts then some package else s.exclusive[k]? := by
  induction hosts generalizing s with
  | nil => simp [takeSlots]
  | cons host rest ih =>
      rw [takeSlots_cons, ih, getElem?_insert_if]
      by_cases later : k ∈ rest
      · rw [if_pos later, if_pos (List.mem_cons_of_mem _ later)]
      · simp only [later, if_false, List.mem_cons, or_false]

theorem approveAll_cons (package : String) (host : LooseString) (rest : List LooseString)
    (s : Scope) :
    approveAll package (host :: rest) s = approveAll package rest (s.approve package host) := rfl

@[simp] theorem packages_approveAll (package : String) (hosts : List LooseString) (s : Scope) :
    (s.approveAll package hosts).packages = s.packages := by
  induction hosts generalizing s with
  | nil => rfl
  | cons host rest ih => rw [approveAll_cons, ih, packages_approve]

@[simp] theorem exclusive_approveAll (package : String) (hosts : List LooseString) (s : Scope) :
    (s.approveAll package hosts).exclusive = s.exclusive := by
  induction hosts generalizing s with
  | nil => rfl
  | cons host rest ih => rw [approveAll_cons, ih, exclusive_approve]

theorem mem_approvedFor_approveAll (package : String) (hosts : List LooseString) (s : Scope)
    (q : String) (k : LooseString) :
    q ∈ (s.approveAll package hosts).approvedFor k ↔
      (q = package ∧ k ∈ hosts) ∨ q ∈ s.approvedFor k := by
  induction hosts generalizing s with
  | nil => simp [approveAll]
  | cons host rest ih =>
      rw [approveAll_cons, ih, mem_approvedFor_approve, List.mem_cons, ← or_assoc, ← and_or_left,
        or_comm (a := k ∈ rest)]

theorem NoEmptySet.approveAll {s : Scope} (full : s.NoEmptySet) (package : String)
    (hosts : List LooseString) : (s.approveAll package hosts).NoEmptySet := by
  induction hosts generalizing s with
  | nil => exact full
  | cons host rest ih => exact ih (full.approve package host)

@[simp] theorem packages_withdraw (s : Scope) (package : String) :
    (s.withdraw package).packages = s.packages := by
  unfold withdraw
  split
  · exact packages_release ..
  · rfl

theorem NoEmptySet.withdraw {s : Scope} (full : s.NoEmptySet) (package : String) :
    (s.withdraw package).NoEmptySet := by
  unfold Scope.withdraw
  split
  · exact full.release package _
  · exact full

theorem getElem?_install (s : Scope) (r : Record) (approvals : List LooseString) (q : String) :
    (s.install r approvals).packages[q]? = if q = r.packageName then some r else s.packages[q]? := by
  rw [install_eq, packages_approveAll, packages_takeSlots, getElem?_putRecord, packages_withdraw]

theorem holder_install (s : Scope) (r : Record) (approvals : List LooseString) (k : LooseString) :
    (s.install r approvals).exclusive[k]? =
      if r.hosts.get? k = some .selected then some r.packageName
      else (s.withdraw r.packageName).exclusive[k]? := by
  rw [install_eq, exclusive_approveAll, holder_takeSlots, exclusive_putRecord]
  simp only [mem_hostsIn_iff]

theorem mem_approvedFor_install (s : Scope) (r : Record) (approvals : List LooseString) (q : String)
    (k : LooseString) :
    q ∈ (s.install r approvals).approvedFor k ↔
      (q = r.packageName ∧ k ∈ approvals) ∨ q ∈ (s.withdraw r.packageName).approvedFor k := by
  rw [install_eq, mem_approvedFor_approveAll, approvedFor, approved_takeSlots]
  rfl

theorem NoEmptySet.install {s : Scope} (full : s.NoEmptySet) (r : Record)
    (approvals : List LooseString) : (s.install r approvals).NoEmptySet := by
  rw [install_eq]
  refine NoEmptySet.approveAll ?_ r.packageName approvals
  intro k names found
  rw [approved_takeSlots] at found
  exact full.withdraw r.packageName k names found

/-! ## The packages but one -/

/-- A step that leaves alone every package but one. -/
structure ChangesOnly (package : String) (s s' : Scope) : Prop where
  record : ∀ q : String, q ≠ package → s'.packages[q]? = s.packages[q]?
  slot : ∀ (host : LooseString) (q : String), q ≠ package →
    (s'.exclusive[host]? = some q ↔ s.exclusive[host]? = some q)
  approval : ∀ (host : LooseString) (q : String), q ≠ package →
    (q ∈ s'.approvedFor host ↔ q ∈ s.approvedFor host)
  full : s.NoEmptySet → s'.NoEmptySet

namespace ChangesOnly

theorem refl (package : String) (s : Scope) : ChangesOnly package s s where
  record _ _ := rfl
  slot _ _ _ := Iff.rfl
  approval _ _ _ := Iff.rfl
  full := id

theorem trans {package : String} {s t u : Scope} (first : ChangesOnly package s t)
    (second : ChangesOnly package t u) : ChangesOnly package s u where
  record q ne := (second.record q ne).trans (first.record q ne)
  slot host q ne := (second.slot host q ne).trans (first.slot host q ne)
  approval host q ne := (second.approval host q ne).trans (first.approval host q ne)
  full := second.full ∘ first.full

theorem putRecord (package : String) (s : Scope) (r : Record) :
    ChangesOnly package s (s.putRecord package r) where
  record q ne := by rw [getElem?_putRecord, if_neg ne]
  slot _ _ _ := Iff.rfl
  approval _ _ _ := Iff.rfl
  full := id

theorem approve (package : String) (s : Scope) (host : LooseString) :
    ChangesOnly package s (s.approve package host) where
  record _ _ := rfl
  slot _ _ _ := Iff.rfl
  approval k q ne := by rw [mem_approvedFor_approve]; simp [ne]
  full full := full.approve package host

theorem release (package : String) (hosts : List LooseString) (s : Scope) :
    ChangesOnly package s (s.release package hosts) where
  record q _ := by rw [packages_release]
  slot k q ne := by rw [holder_release]; simp [ne]
  approval k q ne := by rw [mem_approvedFor_release]; simp [ne]
  full full := full.release package hosts

/-- Taking over the slot of a host that no other package holds. -/
theorem takeSlot {package : String} {s : Scope} {host : LooseString}
    (free : ∀ q, s.exclusive[host]? = some q → q = package) :
    ChangesOnly package s { s with exclusive := s.exclusive.insert host package } where
  record _ _ := rfl
  slot k q ne := by
    rw [getElem?_insert_if]
    split
    · rename_i here
      subst here
      exact ⟨fun same => absurd (Option.some.inj same).symm ne,
        fun held => absurd (free q held) ne⟩
    · exact Iff.rfl
  approval _ _ _ := Iff.rfl
  full := id

/-- Giving up the slot of a host that no other package holds. -/
theorem dropSlot {package : String} {s : Scope} {host : LooseString}
    (own : ∀ q, s.exclusive[host]? = some q → q = package) :
    ChangesOnly package s { s with exclusive := s.exclusive.erase host } where
  record _ _ := rfl
  slot k q ne := by
    rw [getElem?_erase_if]
    split
    · rename_i here
      subst here
      exact ⟨nofun, fun held => absurd (own q held) ne⟩
    · exact Iff.rfl
  approval _ _ _ := Iff.rfl
  full := id

end ChangesOnly

end LinkOwnership.Scope
