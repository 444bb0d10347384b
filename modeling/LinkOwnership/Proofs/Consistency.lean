/-
# LinkOwnership.Proofs.Consistency -- the indexes agree with the records

`Scope.Consistent` says that the indexes of a user's scope are what the records make them, that
hosts are in normal form everywhere, and that each record is filed under its own name and user.
A step that changes one package keeps this if it keeps it for that package
(`Scope.Consistent.of_changesOnly`), so each operation on a scope is looked at on one package only:
`Scope.Consistent.verify`, `select`, `clear`, `install`, `add`, `remove` and `setAllowed`.
-/
import LinkOwnership.Proofs.Holdings
import LinkOwnership.Registry.Basic

namespace LinkOwnership

set_option autoImplicit false

open LinkOwnership.Text (LooseString)

/-- What holds of the scope of a user between calls. -/
structure Scope.Consistent (user : Int) (s : Scope) : Prop where
  /-- The holder of a slot is the package whose record has the host as selected. -/
  slot_iff : ∀ (host : LooseString) (package : String),
    s.exclusive[host]? = some package ↔ s.stateOf? package host = some .selected
  full : s.NoEmptySet
  /-- Every package approved for a host has it as verified. -/
  verified : ∀ (host : LooseString) (package : String),
    package ∈ s.approvedFor host → s.stateOf? package host = some .verified
  /-- Nobody is approved for a host whose slot is held. -/
  apart : ∀ host ∈ s.exclusive, host ∉ s.approved
  normal : ∀ (package : String) (r : Record), s.packages[package]? = some r → r.Normal
  normal_exclusive : ∀ host ∈ s.exclusive, Host.IsNormal host
  normal_approved : ∀ host ∈ s.approved, Host.IsNormal host
  /-- A record is filed under its own name and user. -/
  filed : ∀ (package : String) (r : Record), s.packages[package]? = some r →
    r.packageName = package ∧ r.user = user

/-- What holds of a registry between calls. -/
def Registry.Consistent (reg : Registry) : Prop :=
  ∀ (user : Int) (s : Scope), reg.scopes[user]? = some s → s.Consistent user

namespace Scope

/-! ## What follows for one scope -/

theorem mem_exclusive_iff {s : Scope} {host : LooseString} :
    host ∈ s.exclusive ↔ ∃ package, s.exclusive[host]? = some package := by
  rw [Std.ExtTreeMap.mem_iff_isSome_getElem?, Option.isSome_iff_exists]

theorem normal_of_stateOf? {s : Scope} {package : String} {host : LooseString} {state : LinkState}
    (normal : ∀ r, s.packages[package]? = some r → r.Normal)
    (has : s.stateOf? package host = some state) : Host.IsNormal host := by
  obtain ⟨r, known, declared⟩ := stateOf?_eq_some_iff.1 has
  exact normal r known host ((OrderedMap.mem_keys_iff r.hosts host).2 ⟨state, declared⟩)

theorem consistent_empty (user : Int) : empty.Consistent user := by
  constructor <;> simp [empty, NoEmptySet, stateOf?, mem_approvedFor_iff]

namespace Consistent

variable {user : Int} {s : Scope}

/-- The index names at most one package that has the host as selected. -/
theorem selected_unique (consistent : s.Consistent user) {host : LooseString} {p q : String}
    (left : s.stateOf? p host = some .selected) (right : s.stateOf? q host = some .selected) :
    p = q := by
  rw [← consistent.slot_iff] at left right
  exact Option.some.inj (left.symm.trans right)

/-- A host whose slot is free is selected for nobody. -/
theorem unselected_of_free (consistent : s.Consistent user) {host : LooseString}
    (free : s.exclusive[host]? = none) (package : String) :
    s.stateOf? package host ≠ some .selected := by
  intro selected
  rw [← consistent.slot_iff, free] at selected
  cases selected

/-- A package approved for a host shares it with no holder of the slot. -/
theorem no_holder_of_approved (consistent : s.Consistent user) {host : LooseString}
    {package : String} (member : package ∈ s.approvedFor host) : s.exclusive[host]? = none := by
  have listed : host ∈ s.approved := (mem_approved_iff consistent.full).2 ⟨package, member⟩
  refine Std.ExtTreeMap.getElem?_eq_none fun held => ?_
  exact consistent.apart host held listed

theorem approvedFor_eq_empty (consistent : s.Consistent user) {host : LooseString}
    {holder : String} (held : s.exclusive[host]? = some holder) (package : String) :
    package ∉ s.approvedFor host := by
  intro member
  rw [consistent.no_holder_of_approved member] at held
  cases held

theorem normal_approvedHosts (consistent : s.Consistent user) (package : String) :
    ∀ host ∈ s.approvedHosts package, Host.IsNormal host := by
  intro host member
  rw [mem_approvedHosts_iff] at member
  exact consistent.normal_approved host ((mem_approved_iff consistent.full).2 ⟨package, member⟩)

/-- A package without a record holds nothing. -/
theorem holds_nothing_of_unknown (consistent : s.Consistent user) {package : String}
    (unknown : s.packages[package]? = none) (host : LooseString) :
    s.exclusive[host]? ≠ some package ∧ package ∉ s.approvedFor host := by
  have none : s.stateOf? package host = none := by rw [stateOf?, unknown, Option.bind_none]
  refine ⟨fun held => ?_, fun member => ?_⟩
  · rw [consistent.slot_iff, none] at held; cases held
  · have := consistent.verified host package member
    rw [none] at this; cases this

/-- A step that changes one package keeps a scope consistent if it is right for that package: its
record is in order and says what the package holds, and the package gets into nobody's way. -/
theorem of_changesOnly {s' : Scope} {package : String} (before : s.Consistent user)
    (only : ChangesOnly package s s')
    (record : ∀ r, s'.packages[package]? = some r →
      r.Normal ∧ r.packageName = package ∧ r.user = user)
    (slot : ∀ host, s'.exclusive[host]? = some package ↔
      s'.stateOf? package host = some .selected)
    (approval : ∀ host, package ∈ s'.approvedFor host →
      s'.stateOf? package host = some .verified)
    (alone : ∀ host, s'.exclusive[host]? = some package →
      s.exclusive[host]? = some package ∨ ∀ q, q ∈ s.approvedFor host → q = package)
    (joined : ∀ host, package ∈ s'.approvedFor host →
      package ∈ s.approvedFor host ∨ ∀ q, s.exclusive[host]? = some q → q = package) :
    s'.Consistent user := by
  have full := only.full before.full
  have state : ∀ host q, q ≠ package → s'.stateOf? q host = s.stateOf? q host := by
    intro host q ne
    rw [stateOf?, only.record q ne, stateOf?]
  have slot_iff : ∀ (host : LooseString) (q : String),
      s'.exclusive[host]? = some q ↔ s'.stateOf? q host = some .selected := by
    intro host q
    by_cases own : q = package
    · exact own ▸ slot host
    · rw [only.slot host q own, state host q own]
      exact before.slot_iff host q
  have verified : ∀ (host : LooseString) (q : String),
      q ∈ s'.approvedFor host → s'.stateOf? q host = some .verified := by
    intro host q member
    by_cases own : q = package
    · subst own; exact approval host member
    · rw [state host q own]
      exact before.verified host q ((only.approval host q own).1 member)
  have filed : ∀ (q : String) (r : Record), s'.packages[q]? = some r →
      r.Normal ∧ r.packageName = q ∧ r.user = user := by
    intro q r known
    by_cases own : q = package
    · subst own; exact record r known
    · rw [only.record q own] at known
      exact ⟨before.normal q r known, before.filed q r known⟩
  refine ⟨slot_iff, full, verified, ?_, fun q r known => (filed q r known).1, ?_, ?_,
    fun q r known => (filed q r known).2⟩
  · intro host held listed
    obtain ⟨p, held⟩ := mem_exclusive_iff.1 held
    obtain ⟨q, member⟩ := (mem_approved_iff full).1 listed
    by_cases holder : p = package
    · subst holder
      by_cases sharer : q = p
      · subst sharer
        have := (slot_iff host q).1 held
        rw [verified host q member] at this
        cases this
      · have memberBefore := (only.approval host q sharer).1 member
        rcases alone host held with old | new
        · exact before.approvedFor_eq_empty old q memberBefore
        · exact sharer (new q memberBefore)
    · have heldBefore := (only.slot host p holder).1 held
      by_cases sharer : q = package
      · subst sharer
        rcases joined host member with old | new
        · exact before.approvedFor_eq_empty heldBefore q old
        · exact holder (new p heldBefore)
      · exact before.approvedFor_eq_empty heldBefore q ((only.approval host q sharer).1 member)
  · intro host held
    obtain ⟨p, held⟩ := mem_exclusive_iff.1 held
    exact normal_of_stateOf? (fun r known => (filed p r known).1) ((slot_iff host p).1 held)
  · intro host listed
    obtain ⟨q, member⟩ := (mem_approved_iff full).1 listed
    exact normal_of_stateOf? (fun r known => (filed q r known).1) (verified host q member)

/-- The same for a step that ends by putting a record in place: the record says what the package
holds. -/
theorem putRecord {t : Scope} {package : String} {r : Record} (before : s.Consistent user)
    (only : ChangesOnly package s t) (normal : r.Normal)
    (filed : r.packageName = package ∧ r.user = user)
    (slot : ∀ host, t.exclusive[host]? = some package ↔ r.hosts.get? host = some .selected)
    (approval : ∀ host, package ∈ t.approvedFor host → r.hosts.get? host = some .verified)
    (alone : ∀ host, t.exclusive[host]? = some package →
      s.exclusive[host]? = some package ∨ ∀ q, q ∈ s.approvedFor host → q = package)
    (joined : ∀ host, package ∈ t.approvedFor host →
      package ∈ s.approvedFor host ∨ ∀ q, s.exclusive[host]? = some q → q = package) :
    ChangesOnly package s (t.putRecord package r) ∧ (t.putRecord package r).Consistent user := by
  have onlyPut := only.trans (.putRecord package t r)
  have state : ∀ host, (t.putRecord package r).stateOf? package host = r.hosts.get? host := by
    intro host
    rw [stateOf?_putRecord, if_pos rfl]
  refine ⟨onlyPut, before.of_changesOnly onlyPut ?_ ?_ ?_ alone joined⟩
  · intro found same
    rw [getElem?_putRecord, if_pos rfl, Option.some.injEq] at same
    subst same
    exact ⟨normal, filed⟩
  · intro host
    rw [exclusive_putRecord, state]
    exact slot host
  · intro host member
    rw [state]
    exact approval host member

/-! ## The operations on one scope -/

/-- The record says which hosts the package has the slot of, and bounds those it is approved for. -/
theorem own (consistent : s.Consistent user) {package : String} {r : Record}
    (known : s.packages[package]? = some r) (host : LooseString) :
    (s.exclusive[host]? = some package ↔ r.hosts.get? host = some .selected) ∧
      (package ∈ s.approvedFor host → r.hosts.get? host = some .verified) := by
  rw [← stateOf?_of_record known]
  exact ⟨consistent.slot_iff host package, consistent.verified host package⟩

theorem normal_setState (consistent : s.Consistent user) {package : String} {r : Record}
    (known : s.packages[package]? = some r) {host : LooseString} (isNormal : Host.IsNormal host)
    (state : LinkState) : (r.setState host state).Normal := by
  intro k member
  rcases (OrderedMap.mem_keys_insert r.hosts host state k).1 member with rfl | old
  · exact isNormal
  · exact consistent.normal package r known k old

theorem setAllowed (consistent : s.Consistent user) {package : String} {r : Record}
    (known : s.packages[package]? = some r) (allowed : Bool) :
    ChangesOnly package s (s.putRecord package { r with linkHandlingAllowed := allowed }) ∧
      (s.putRecord package { r with linkHandlingAllowed := allowed }).Consistent user :=
  consistent.putRecord (.refl package s) (consistent.normal package r known)
    (consistent.filed package r known) (fun host => (consistent.own known host).1)
    (fun host => (consistent.own known host).2) (fun _ => Or.inl) (fun _ => Or.inl)

theorem verify (consistent : s.Consistent user) {s' : Scope} {package : String} {r : Record}
    (known : s.packages[package]? = some r) {host : LooseString} (isNormal : Host.IsNormal host)
    (done : s.verify package r host = .ok s') :
    ChangesOnly package s s' ∧ s'.Consistent user := by
  have own := consistent.own known
  have normal := consistent.normal_setState known isNormal .verified
  have filed := consistent.filed package r known
  rcases verify_cases done with ⟨_, rfl⟩ | ⟨selected, rfl⟩ | ⟨unclaimed, rfl⟩
  · exact ⟨.refl package s', consistent⟩
  · -- The holder of the slot becomes an approved package.
    have held : s.exclusive[host]? = some package :=
      (own host).1.2 ((stateFor_eq_iff (by decide)).1 selected)
    have mine : ∀ q, s.exclusive[host]? = some q → q = package :=
      fun q other => Option.some.inj (other.symm.trans held)
    refine consistent.putRecord ((ChangesOnly.dropSlot mine).trans (.approve package _ host))
      normal filed ?_ ?_ ?_ ?_
    · intro k
      rw [exclusive_approve, get?_setState]
      by_cases here : k = host
      · subst here; simp
      · rw [if_neg here, ← (own k).1, getElem?_erase_if, if_neg here]
    · intro k member
      rw [mem_approvedFor_approve] at member
      rw [get?_setState]
      by_cases here : k = host
      · rw [if_pos here]
      · rw [if_neg here]
        exact (own k).2 (member.resolve_left fun new => here new.2)
    · intro k heldAfter
      rw [exclusive_approve, getElem?_erase_if] at heldAfter
      split at heldAfter
      · cases heldAfter
      · exact Or.inl heldAfter
    · intro k member
      rw [mem_approvedFor_approve] at member
      rcases member with ⟨_, rfl⟩ | member
      · exact Or.inr mine
      · exact Or.inl member
  · -- Only the record changes, and the host had no claim in it.
    have unselected : r.hosts.get? host ≠ some .selected := by
      rw [Ne, ← stateFor_eq_iff (by decide), unclaimed]; decide
    refine consistent.putRecord (.refl package s) normal filed ?_ ?_ (fun _ => Or.inl)
      (fun _ => Or.inl)
    · intro k
      rw [get?_setState, (own k).1]
      by_cases here : k = host
      · subst here; simp [unselected]
      · rw [if_neg here]
    · intro k member
      rw [get?_setState]
      by_cases here : k = host
      · rw [if_pos here]
      · rw [if_neg here]
        exact (own k).2 member

theorem select (consistent : s.Consistent user) {s' : Scope} {package : String} {r : Record}
    (known : s.packages[package]? = some r) {host : LooseString} (isNormal : Host.IsNormal host)
    (done : s.select user package r host = .ok s') :
    ChangesOnly package s s' ∧ s'.Consistent user := by
  have own := consistent.own known
  obtain ⟨state, declared, cases⟩ := select_cases done
  rcases cases with ⟨_, rfl⟩ | ⟨rfl, free, rfl⟩ | ⟨rfl, free, nobody, rfl⟩
  · exact ⟨.refl package s', consistent⟩
  · -- A verified package joins the approved ones.
    have only := ChangesOnly.approve package s host
    refine ⟨only, consistent.of_changesOnly only ?_ ?_ ?_ (fun _ => Or.inl) ?_⟩
    · intro found same
      exact ⟨consistent.normal package found same, consistent.filed package found same⟩
    · intro k
      exact consistent.slot_iff k package
    · intro k member
      rw [mem_approvedFor_approve] at member
      rcases member with ⟨_, rfl⟩ | member
      · exact stateOf?_eq_some_iff.2 ⟨r, known, declared⟩
      · exact consistent.verified k package member
    · intro k member
      rw [mem_approvedFor_approve] at member
      rcases member with ⟨_, rfl⟩ | member
      · refine Or.inr fun q held => ?_
        rw [free] at held; cases held
      · exact Or.inl member
  · -- The package takes a slot that nobody wants.
    have nobodyElse : ∀ q, s.exclusive[host]? = some q → q = package := by
      intro q held
      rw [free] at held; cases held
    refine consistent.putRecord (.takeSlot nobodyElse)
      (consistent.normal_setState known isNormal .selected) (consistent.filed package r known)
      ?_ ?_ ?_ (fun _ => Or.inl)
    · intro k
      rw [get?_setState]
      by_cases here : k = host
      · subst here; simp
      · rw [if_neg here, ← (own k).1, getElem?_insert_if, if_neg here]
    · intro k member
      have apart : k ≠ host := by
        rintro rfl
        have member : package ∈ s.approvedFor k := member
        rw [nobody] at member
        exact Std.ExtTreeSet.not_mem_empty member
      rw [get?_setState, if_neg apart]
      exact (own k).2 member
    · intro k held
      by_cases here : k = host
      · subst here
        refine Or.inr fun q member => ?_
        rw [nobody] at member
        exact absurd member Std.ExtTreeSet.not_mem_empty
      · rw [getElem?_insert_if, if_neg here] at held
        exact Or.inl held

/-- Once its claims are given back, the record of a package may do without them. -/
theorem clear (consistent : s.Consistent user) {package : String} {r : Record}
    (known : s.packages[package]? = some r) {host : LooseString} (isNormal : Host.IsNormal host) :
    ChangesOnly package s (s.clear package r host) ∧
      (s.clear package r host).Consistent user := by
  have own := consistent.own known
  have slot : ∀ k, (s.release package [host]).exclusive[k]? = some package ↔
      r.hosts.get? k = some .selected ∧ k ≠ host := by
    intro k
    rw [holder_release, (own k).1, List.mem_singleton]
    simp
  have approval : ∀ k, package ∈ (s.release package [host]).approvedFor k →
      r.hosts.get? k = some .verified ∧ k ≠ host := by
    intro k member
    rw [mem_approvedFor_release, List.mem_singleton] at member
    exact ⟨(own k).2 member.1, fun here => member.2 ⟨rfl, here⟩⟩
  have released := ChangesOnly.release package [host] s
  have alone : ∀ k, (s.release package [host]).exclusive[k]? = some package →
      s.exclusive[k]? = some package ∨ ∀ q, q ∈ s.approvedFor k → q = package :=
    fun k held => Or.inl ((own k).1.2 ((slot k).1 held).1)
  have joined : ∀ k, package ∈ (s.release package [host]).approvedFor k →
      package ∈ s.approvedFor k ∨ ∀ q, s.exclusive[k]? = some q → q = package := by
    intro k member
    rw [mem_approvedFor_release] at member
    exact Or.inl member.1
  unfold Scope.clear
  simp only
  split
  · rename_i selected
    rw [release_putRecord]
    refine consistent.putRecord released (consistent.normal_setState known isNormal .unclaimed)
      (consistent.filed package r known) ?_ ?_ alone joined
    · intro k
      rw [slot, get?_setState]
      by_cases here : k = host
      · subst here; simp
      · rw [if_neg here]; simp [here]
    · intro k member
      obtain ⟨verified, ne⟩ := approval k member
      rw [get?_setState, if_neg ne]
      exact verified
  · rename_i unselected
    rw [stateFor_eq_iff (by decide)] at unselected
    have state : ∀ k, (s.release package [host]).stateOf? package k = r.hosts.get? k :=
      stateOf?_of_record (by rw [packages_release]; exact known)
    refine ⟨released, consistent.of_changesOnly released ?_ ?_ ?_ alone joined⟩
    · intro found same
      rw [packages_release] at same
      exact ⟨consistent.normal package found same, consistent.filed package found same⟩
    · intro k
      rw [slot, state]
      constructor
      · exact And.left
      · intro selected
        exact ⟨selected, fun here => unselected (here ▸ selected)⟩
    · intro k member
      rw [state]
      exact (approval k member).1

/-- Taking back the claims of a package's record leaves it nothing. -/
theorem withdraw (consistent : s.Consistent user) (package : String) :
    ChangesOnly package s (s.withdraw package) ∧
      ∀ host, (s.withdraw package).exclusive[host]? ≠ some package ∧
        package ∉ (s.withdraw package).approvedFor host := by
  unfold Scope.withdraw
  split
  · rename_i former known
    have listed : ∀ {host state}, former.hosts.get? host = some state → host ∈ former.hosts.keys :=
      fun has => (OrderedMap.mem_keys_iff _ _).2 ⟨_, has⟩
    refine ⟨.release package _ s, fun host => ⟨fun held => ?_, fun member => ?_⟩⟩
    · rw [holder_release] at held
      exact held.2 ⟨rfl, listed ((consistent.own known host).1.1 held.1)⟩
    · rw [mem_approvedFor_release] at member
      exact member.2 ⟨rfl, listed ((consistent.own known host).2 member.1)⟩
  · rename_i unknown
    exact ⟨.refl package s, consistent.holds_nothing_of_unknown unknown⟩

theorem remove (consistent : s.Consistent user) {package : String} {r : Record}
    (known : s.packages[package]? = some r) :
    ChangesOnly package s (s.remove package r) ∧ (s.remove package r).Consistent user ∧
      (s.remove package r).packages[package]? = none := by
  have form : s.remove package r =
      { s.withdraw package with packages := s.packages.erase package } := by
    simp only [Scope.remove, Scope.withdraw, known, packages_release]
  obtain ⟨withdrawn, nothing⟩ := consistent.withdraw package
  rw [form]
  have only : ChangesOnly package s { s.withdraw package with
      packages := s.packages.erase package } :=
    { withdrawn with
      record := fun q ne => (getElem?_erase_if s.packages package q).trans (if_neg ne) }
  have unknown : (s.packages.erase package)[package]? = none := Std.ExtTreeMap.getElem?_erase_self
  refine ⟨only, consistent.of_changesOnly only ?_ ?_ ?_ ?_ ?_, unknown⟩
  · intro found same
    rw [unknown] at same; cases same
  · intro host
    rw [stateOf?, unknown]
    simpa using (nothing host).1
  · intro host member
    exact absurd member (nothing host).2
  · intro host held
    exact absurd held (nothing host).1
  · intro host member
    exact absurd member (nothing host).2

/-- A record that is taken over gives its package the slots of the hosts it has selected and the
approvals that come with it, and nothing of what the package had before. -/
theorem own_install (consistent : s.Consistent user) (r : Record) (approvals : List LooseString)
    (host : LooseString) :
    ((s.install r approvals).exclusive[host]? = some r.packageName ↔
        r.hosts.get? host = some .selected) ∧
      (r.packageName ∈ (s.install r approvals).approvedFor host ↔ host ∈ approvals) := by
  obtain ⟨_, nothing⟩ := consistent.withdraw r.packageName
  constructor
  · rw [holder_install]
    split
    · simp [*]
    · simp [*, (nothing host).1]
  · rw [mem_approvedFor_install]
    simp [(nothing host).2]

/-- A record that no other package stands in the way of is taken over with what it claims. -/
theorem install (consistent : s.Consistent user) {r : Record} {approvals : List LooseString}
    (normal : r.Normal) (owner : r.user = user) (clear : s.conflict? r approvals = none)
    (verified : ∀ host ∈ approvals, r.hosts.get? host = some .verified) :
    ChangesOnly r.packageName s (s.install r approvals) ∧
      (s.install r approvals).Consistent user := by
  obtain ⟨withdrawn, _⟩ := consistent.withdraw r.packageName
  obtain ⟨ofSelected, ofApproved⟩ := conflict?_eq_none_iff.1 clear
  have own := consistent.own_install r approvals
  have known : (s.install r approvals).packages[r.packageName]? = some r := by
    rw [getElem?_install, if_pos rfl]
  have only : ChangesOnly r.packageName s (s.install r approvals) := by
    refine ⟨fun q ne => ?_, fun k q ne => ?_, fun k q ne => ?_, fun full => full.install r approvals⟩
    · rw [getElem?_install, if_neg ne]
    · rw [holder_install]
      split
      · rename_i selected
        have none : s.exclusive[k]? ≠ some q := fun held => ne ((ofSelected k selected).1 q held)
        simp [none, ne.symm]
      · exact withdrawn.slot k q ne
    · rw [mem_approvedFor_install, ← withdrawn.approval k q ne]
      simp [ne]
  refine ⟨only, consistent.of_changesOnly only ?_ ?_ ?_ ?_ ?_⟩
  · intro found same
    rw [known, Option.some.injEq] at same
    subst same
    exact ⟨normal, rfl, owner⟩
  · intro k
    rw [(own k).1, stateOf?_of_record known]
  · intro k member
    rw [stateOf?_of_record known]
    exact verified k ((own k).2.1 member)
  · intro k held
    exact Or.inr (ofSelected k ((own k).1.1 held)).2
  · intro k member
    exact Or.inr (ofApproved k ((own k).2.1 member))

/-- A package that is new claims nothing. -/
theorem add (consistent : s.Consistent user) {r : Record}
    (unknown : s.packages[r.packageName]? = none) (normal : r.Normal) (owner : r.user = user)
    (unclaimed : ∀ host state, r.hosts.get? host = some state → state = .unclaimed) :
    ChangesOnly r.packageName s (s.putRecord r.packageName r) ∧
      (s.putRecord r.packageName r).Consistent user := by
  have nothing := consistent.holds_nothing_of_unknown unknown
  refine consistent.putRecord (.refl r.packageName s) normal ⟨rfl, owner⟩ ?_ ?_ (fun _ => Or.inl)
    (fun _ => Or.inl)
  · intro host
    refine ⟨fun held => absurd held (nothing host).1, fun selected => ?_⟩
    cases unclaimed host _ selected
  · intro host member
    exact absurd member (nothing host).2

end Consistent

/-- A host is verified for any package that is known: the slot of a selected host is held. -/
theorem exists_verify {user : Int} {s : Scope} {package : String} {r : Record} {host : LooseString}
    (consistent : s.Consistent user) (known : s.packages[package]? = some r) :
    ∃ s', s.verify package r host = .ok s' := by
  unfold verify
  cases state : r.stateFor host with
  | verified => exact ⟨_, rfl⟩
  | unclaimed => exact ⟨_, rfl⟩
  | selected =>
      have declared := (stateFor_eq_iff (by decide)).1 state
      have slot := (consistent.slot_iff host package).2 ((stateOf?_of_record known host).trans declared)
      exact ⟨_, if_pos (mem_exclusive_iff.2 ⟨package, slot⟩)⟩

end Scope

end LinkOwnership
