/-
# LinkOwnership.Proofs.Verification -- verifying a host in any order

What a verification leaves and what a selection leaves is each said once, whatever state the package
had the host in (`Scope.VerifiedBy`, `Scope.GrantedTo`).  A verification takes the slot of the host
from the package that it is about, and makes an approval of it; every other claim stays.

So a package that may select a host can as well verify it first: either way the host is verified,
approved, and nobody has its slot (`Registry.setVerified_setSelected_comm`).  Two verifications in
either order lead to the same indexes and to equal records.  They need not be the same registry: a
host that a package did not declare comes behind its other hosts, so of two such hosts the one that
was verified first is listed first (`Scope.SameButOrder`).
-/
import Mathlib
import LinkOwnership.Proofs.Contention
import LinkOwnership.Proofs.Selection

namespace LinkOwnership

set_option autoImplicit false

open LinkOwnership.Text (LooseString)

/-- The record of a package that was given the selection of a host: a verified host stays so. -/
def Record.granted (r : Record) (host : LooseString) : Record :=
  if r.hosts.get? host = some .verified then r else r.setState host .selected

namespace Scope

variable {user : Int} {s s' t : Scope} {package p q : String} {r r' : Record} {host h k : LooseString}

/-! ## What a verification leaves, and what a selection leaves -/

/-- The package, whose record was `r`, has verified the host. -/
structure VerifiedBy (package : String) (r : Record) (host : LooseString) (s s' : Scope) : Prop where
  records : ∀ q : String, s'.packages[q]? =
    if q = package then some (r.setState host .verified) else s.packages[q]?
  slots : ∀ (k : LooseString) (q : String), s'.exclusive[k]? = some q ↔
    s.exclusive[k]? = some q ∧ ¬ (q = package ∧ k = host)
  /-- The slot has become an approval. -/
  approvals : ∀ (k : LooseString) (q : String), q ∈ s'.approvedFor k ↔
    q ∈ s.approvedFor k ∨ q = package ∧ k = host ∧ s.exclusive[host]? = some package

/-- The package, whose record was `r`, was given the selection of the host. -/
structure GrantedTo (package : String) (r : Record) (host : LooseString) (s s' : Scope) : Prop where
  records : ∀ q : String, s'.packages[q]? =
    if q = package then some (r.granted host) else s.packages[q]?
  slots : ∀ (k : LooseString) (q : String), s'.exclusive[k]? = some q ↔
    if k = host then q = package ∧ r.hosts.get? host ≠ some .verified
    else s.exclusive[k]? = some q
  approvals : ∀ (k : LooseString) (q : String), q ∈ s'.approvedFor k ↔
    q ∈ s.approvedFor k ∨ q = package ∧ k = host ∧ r.hosts.get? host = some .verified

/-- No verification makes a package unknown. -/
theorem VerifiedBy.known (verified : VerifiedBy package r host s s')
    (before : s.packages[q]? = some r') : ∃ r'', s'.packages[q]? = some r'' := by
  rw [verified.records]
  split
  · exact ⟨_, rfl⟩
  · exact ⟨r', before⟩

namespace Consistent

theorem verifiedBy (consistent : s.Consistent user) (known : s.packages[package]? = some r)
    (done : s.verify package r host = .ok s') : VerifiedBy package r host s s' := by
  have own := (consistent.own known host).1
  -- A package that has not selected the host is not the holder of its slot.
  have unheld (state : r.hosts.get? host ≠ some .selected) (k : LooseString) (q : String) :
      s.exclusive[k]? = some q → ¬ (q = package ∧ k = host) := by
    rintro held ⟨rfl, rfl⟩
    exact state (own.1 held)
  rcases verify_cases done with ⟨verified, rfl⟩ | ⟨selected, rfl⟩ | ⟨unclaimed, rfl⟩
  · rw [stateFor_eq_iff (by decide)] at verified
    have unselected : r.hosts.get? host ≠ some .selected := by rw [verified]; decide
    refine ⟨fun q => ?_, fun k q => ?_, fun k q => ?_⟩
    · rw [setState_of_get? verified]
      exact getElem?_of_known known q
    · exact (and_iff_left_of_imp (unheld unselected k q)).symm
    · refine (or_iff_left ?_).symm
      rintro ⟨-, -, held⟩
      exact unselected (own.1 held)
  · have held := own.2 ((stateFor_eq_iff (by decide)).1 selected)
    refine ⟨fun q => getElem?_putRecord .., fun k q => ?_, fun k q => ?_⟩
    · rw [exclusive_putRecord, exclusive_approve, getElem?_erase_if]
      by_cases here : k = host
      · subst here
        simp [held, eq_comm]
      · simp [here]
    · show q ∈ (approve _ package host).approvedFor k ↔ _
      rw [mem_approvedFor_approve]
      simp only [held, and_true]
      exact or_comm
  · have unselected : r.hosts.get? host ≠ some .selected := by
      rw [Ne, ← stateFor_eq_iff (by decide), unclaimed]
      decide
    refine ⟨fun q => getElem?_putRecord .., fun k q => ?_, fun k q => ?_⟩
    · exact (and_iff_left_of_imp (unheld unselected k q)).symm
    · refine (or_iff_left ?_).symm
      rintro ⟨-, -, held⟩
      exact unselected (own.1 held)

theorem grantedTo (consistent : s.Consistent user) (known : s.packages[package]? = some r)
    (done : s.select user package r host = .ok s') : GrantedTo package r host s s' := by
  have own := consistent.own known host
  obtain ⟨state, declared, cases⟩ := select_cases done
  rcases cases with ⟨selected | approved, rfl⟩ | ⟨rfl, free, rfl⟩ | ⟨rfl, free, nobody, rfl⟩
  · -- The package has the slot.
    subst selected
    have held := own.1.2 declared
    have unverified : r.hosts.get? host ≠ some .verified := by rw [declared]; decide
    refine ⟨fun q => ?_, fun k q => ?_, fun k q => ?_⟩
    · rw [Record.granted, if_neg unverified, setState_of_get? declared]
      exact getElem?_of_known known q
    · by_cases here : k = host
      · subst here
        simp [held, unverified, eq_comm]
      · rw [if_neg here]
    · simp [declared]
  · -- The package is approved.
    have verified := own.2 approved
    have free := consistent.no_holder_of_approved approved
    refine ⟨fun q => ?_, fun k q => ?_, fun k q => ?_⟩
    · rw [Record.granted, if_pos verified]
      exact getElem?_of_known known q
    · by_cases here : k = host
      · subst here
        simp [free, verified]
      · rw [if_neg here]
    · refine (or_iff_left_of_imp ?_).symm
      rintro ⟨rfl, rfl, -⟩
      exact approved
  · refine ⟨fun q => ?_, fun k q => ?_, fun k q => ?_⟩
    · rw [Record.granted, if_pos declared, packages_approve]
      exact getElem?_of_known known q
    · rw [exclusive_approve]
      by_cases here : k = host
      · subst here
        simp [free, declared]
      · rw [if_neg here]
    · rw [mem_approvedFor_approve]
      simp only [declared, and_true]
      exact or_comm
  · have unverified : r.hosts.get? host ≠ some .verified := by rw [declared]; decide
    refine ⟨fun q => ?_, fun k q => ?_, fun k q => ?_⟩
    · rw [Record.granted, if_neg unverified, getElem?_putRecord]
    · rw [exclusive_putRecord, getElem?_insert_if]
      by_cases here : k = host
      · simp [here, unverified, eq_comm]
      · rw [if_neg here, if_neg here]
    · show q ∈ s.approvedFor k ↔ _
      simp only [unverified, and_false, or_false]

/-! ## Verifying before selecting and after it -/

/-- Nobody else has the slot of a host that a package may select. -/
theorem holder_of_select (consistent : s.Consistent user)
    (known : s.packages[package]? = some r) (done : s.select user package r host = .ok s')
    (held : s.exclusive[host]? = some q) : q = package := by
  have own := consistent.own known host
  obtain ⟨state, declared, cases⟩ := select_cases done
  rcases cases with ⟨rfl | approved, _⟩ | ⟨_, free, _⟩ | ⟨_, free, _, _⟩
  · exact Option.some.inj (held.symm.trans (own.1.2 declared))
  · exact absurd held (by rw [consistent.no_holder_of_approved approved]; nofun)
  · exact absurd held (by rw [free]; nofun)
  · exact absurd held (by rw [free]; nofun)

end Consistent

/-- The package, whose record was `r`, has verified the host and shares it with those that shared it
before; nobody has its slot. -/
structure SharedBy (package : String) (r : Record) (host : LooseString) (s t : Scope) : Prop where
  records : ∀ q : String, t.packages[q]? =
    if q = package then some (r.setState host .verified) else s.packages[q]?
  slots : ∀ (k : LooseString) (q : String), t.exclusive[k]? = some q ↔
    k ≠ host ∧ s.exclusive[k]? = some q
  approvals : ∀ (k : LooseString) (q : String), q ∈ t.approvedFor k ↔
    q ∈ s.approvedFor k ∨ q = package ∧ k = host

theorem SharedBy.unique (left : SharedBy package r host s t) (right : SharedBy package r host s s')
    (full : t.NoEmptySet) (full' : s'.NoEmptySet) : t = s' := by
  refine eq_of_holdings full full' (fun q => ?_) (fun k q => ?_) (fun k q => ?_)
  · rw [left.records, right.records]
  · rw [left.slots, right.slots]
  · rw [left.approvals, right.approvals]

/-- What this says of the host itself. -/
theorem SharedBy.at_host (shared : SharedBy package r host s t) :
    t.stateOf? package host = some .verified ∧ package ∈ t.approvedFor host ∧
      t.exclusive[host]? = none := by
  refine ⟨?_, (shared.approvals host package).2 (Or.inr ⟨rfl, rfl⟩), ?_⟩
  · rw [stateOf?_of_record ((shared.records package).trans (if_pos rfl)), get?_setState, if_pos rfl]
  · rw [Option.eq_none_iff_forall_ne_some]
    exact fun q held => ((shared.slots host q).1 held).1 rfl

namespace Consistent

/-- A package that was given a host verifies it. -/
theorem sharedBy_of_granted (isNormal : Host.IsNormal host)
    (granted : GrantedTo package r host s s') (known : s'.packages[package]? = some r')
    (consistent' : s'.Consistent user) :
    ∃ t, s'.verify package r' host = .ok t ∧ t.NoEmptySet ∧ SharedBy package r host s t := by
  obtain ⟨t, done⟩ : ∃ t, s'.verify package r' host = .ok t := exists_verify consistent' known
  have after := consistent'.verifiedBy known done
  refine ⟨t, done, (consistent'.verify known isNormal done).2.full, fun q => ?_, fun k q => ?_,
    fun k q => ?_⟩
  · rw [after.records]
    by_cases own : q = package
    · obtain rfl : _ = r' := Option.some.inj
        (((granted.records package).trans (if_pos rfl)).symm.trans known)
      rw [if_pos own, if_pos own, Record.granted]
      split
      · rfl
      · rw [setState_setState]
    · rw [if_neg own, if_neg own, granted.records, if_neg own]
  · rw [after.slots, granted.slots]
    by_cases here : k = host
    · simp only [here, if_true, and_true, ne_eq, not_true_eq_false, false_and, iff_false]
      exact fun both => both.2 both.1.1
    · simp only [here, if_false, and_false, not_false_eq_true, and_true, ne_eq, true_and]
  · rw [after.approvals, granted.approvals, granted.slots, if_pos rfl]
    tauto

/-- A package that has verified a host asks for it. -/
theorem sharedBy_of_verified (consistent' : s'.Consistent user)
    (verified : VerifiedBy package r host s s') (known : s'.packages[package]? = some r')
    (alone : ∀ q, s.exclusive[host]? = some q → q = package) :
    ∃ t, s'.select user package r' host = .ok t ∧ t.NoEmptySet ∧ SharedBy package r host s t := by
  obtain rfl : r.setState host .verified = r' := Option.some.inj
    (((verified.records package).trans (if_pos rfl)).symm.trans known)
  have free : s'.exclusive[host]? = none := by
    rw [Option.eq_none_iff_forall_ne_some]
    intro q held
    obtain ⟨held, other⟩ := (verified.slots host q).1 held
    exact other ⟨alone q held, rfl⟩
  have declared : (r.setState host .verified).hosts.get? host = some .verified :=
    (get?_setState ..).trans (if_pos rfl)
  refine ⟨_, consistent'.select_verified declared free, consistent'.full.approve package host,
    fun q => ?_, fun k q => ?_, fun k q => ?_⟩
  · rw [packages_approve, verified.records]
  · rw [exclusive_approve, verified.slots]
    by_cases here : k = host
    · subst here
      simp only [and_true, ne_eq, not_true_eq_false, false_and, iff_false]
      exact fun both => both.2 (alone q both.1)
    · simp only [here, and_false, not_false_eq_true, and_true, ne_eq, true_and]
  · rw [mem_approvedFor_approve, verified.approvals]
    tauto

end Consistent

/-! ## Verifying twice -/

/-- Two scopes of a user differ at most in the order in which records list their hosts. -/
structure SameButOrder (s s' : Scope) : Prop where
  exclusive : s'.exclusive = s.exclusive
  approved : s'.approved = s.approved
  records : ∀ q : String,
    Option.Rel (fun r r' : Record => r.same r' = true) s.packages[q]? s'.packages[q]?

theorem rel_same_refl (r? : Option Record) :
    Option.Rel (fun r r' : Record => r.same r' = true) r? r? := by
  cases r? with
  | none => exact .none
  | some r => exact .some (by simp [Record.same, OrderedMap.same_iff, OrderedMap.Same])

/-- Two hosts of a record are given states in either order. -/
theorem same_setState_comm (r : Record) (h k : LooseString) (state : LinkState) :
    ((r.setState h state).setState k state).same ((r.setState k state).setState h state) = true := by
  have hosts : ((r.hosts.insert h state).insert k state).Same
      ((r.hosts.insert k state).insert h state) := by
    intro x
    simp only [OrderedMap.get?_insert]
    split <;> split <;> rfl
  simp [Record.same, Record.setState, (OrderedMap.same_iff _ _).2 hosts]

theorem SameButOrder.refl (s : Scope) : SameButOrder s s := ⟨rfl, rfl, fun _ => rel_same_refl _⟩

/-- Scopes differ in the order of hosts only when all else that is asked of them is answered alike. -/
theorem sameButOrder_of_holdings (full : s.NoEmptySet) (full' : s'.NoEmptySet)
    (records : ∀ q : String,
      Option.Rel (fun r r' : Record => r.same r' = true) s.packages[q]? s'.packages[q]?)
    (slots : ∀ (k : LooseString) (q : String),
      s.exclusive[k]? = some q ↔ s'.exclusive[k]? = some q)
    (approvals : ∀ (k : LooseString) (q : String), q ∈ s.approvedFor k ↔ q ∈ s'.approvedFor k) :
    SameButOrder s s' := by
  have same : { s with packages := s'.packages } = s' :=
    eq_of_holdings full full' (fun _ => rfl) slots approvals
  exact ⟨(congrArg Scope.exclusive same).symm, (congrArg Scope.approved same).symm, records⟩

/-- Two verifications come to the same in either order, but for the order of hosts. -/
theorem VerifiedBy.comm {s₁ s₁₂ s₂ s₂₁ : Scope} {rp rp' rq rq' : Record}
    (knownP : s.packages[p]? = some rp) (knownQ : s.packages[q]? = some rq)
    (first : VerifiedBy p rp h s s₁) (second : VerifiedBy q rq k s s₂)
    (knownQ' : s₁.packages[q]? = some rq') (knownP' : s₂.packages[p]? = some rp')
    (second' : VerifiedBy q rq' k s₁ s₁₂) (first' : VerifiedBy p rp' h s₂ s₂₁)
    (full : s₁₂.NoEmptySet) (full' : s₂₁.NoEmptySet) : SameButOrder s₁₂ s₂₁ := by
  rw [first.records] at knownQ'
  rw [second.records] at knownP'
  refine sameButOrder_of_holdings full full' (fun x => ?_) (fun x y => ?_) (fun x y => ?_)
  · rw [second'.records, first'.records, first.records, second.records]
    by_cases own : q = p
    · subst own
      obtain rfl : rp = rq := Option.some.inj (knownP.symm.trans knownQ)
      obtain rfl : rp.setState h .verified = rq' := by simpa using knownQ'
      obtain rfl : rp.setState k .verified = rp' := by simpa using knownP'
      split
      · exact .some (same_setState_comm rp h k .verified)
      · exact rel_same_refl _
    · obtain rfl : rq = rq' := by simpa [own, knownQ] using knownQ'
      obtain rfl : rp = rp' := by simpa [Ne.symm own, knownP] using knownP'
      by_cases here : x = q
      · subst here
        simpa [own] using rel_same_refl (some (rq.setState k .verified))
      · simpa [here] using rel_same_refl _
  · rw [second'.slots, first'.slots, first.slots, second.slots]
    tauto
  · rw [second'.approvals, first'.approvals, first.approvals, second.approvals, first.slots,
      second.slots]
    by_cases same : q = p ∧ k = h
    · obtain ⟨rfl, rfl⟩ := same
      tauto
    · have same' : ¬ (p = q ∧ h = k) := fun both => same ⟨both.1.symm, both.2.symm⟩
      tauto

end Scope

namespace Registry

variable {reg reg' : Registry} {user : Int} {package p q : String} {r : Record}

/-! ## Calls -/

theorem userState_ne_ok (unknown : (reg.scopeOrEmpty user).packages[package]? = none) (r : Record) :
    reg.userState ⟨some user, some package⟩ ≠ .ok r := by
  rw [Ne, userState_mk_eq_ok_iff, unknown]
  nofun

theorem setVerified_of_unknown (unknown : (reg.scopeOrEmpty user).packages[package]? = none)
    (spelling : LooseString) :
    reg.setVerified ⟨some user, some package⟩ (some spelling) =
      (.error (PackageRef.unknown ⟨some user, some package⟩), reg) :=
  (reg.setVerified_eq_changeAt _ _).trans (changeAt_of_unknown rfl (userState_ne_ok unknown) _)

/-- A known package verifies any host. -/
theorem exists_setVerified (consistent : reg.Consistent)
    (known : (reg.scopeOrEmpty user).packages[package]? = some r) (spelling : LooseString) :
    ∃ s, reg.setVerified ⟨some user, some package⟩ (some spelling) = (.ok (), reg.putScope user s) ∧
      s.Consistent user ∧
      Scope.VerifiedBy package r (Host.normalize spelling) (reg.scopeOrEmpty user) s := by
  have scope := consistent.scopeOrEmpty user
  obtain ⟨s, done⟩ : ∃ s, (reg.scopeOrEmpty user).verify package r (Host.normalize spelling) =
      .ok s := Scope.exists_verify scope known
  refine ⟨s, ?_, (scope.verify known (Host.normalize_normalize spelling) done).2,
    scope.verifiedBy known done⟩
  rw [setVerified_eq_changeAt]
  refine (changeAt_of_known rfl known _).trans ?_
  simp only [done]

/-- A selection that is granted can follow the verification of the host or come before it. -/
theorem setVerified_setSelected_comm (consistent : reg.Consistent) {spelling : LooseString}
    (made : reg.setSelected ⟨some user, some package⟩ (some spelling) = (.ok (), reg')) :
    ∃ r m t, reg.setVerified ⟨some user, some package⟩ (some spelling) =
        (.ok (), reg.putScope user m) ∧
      (reg.putScope user m).setSelected ⟨some user, some package⟩ (some spelling) =
        (.ok (), reg.putScope user t) ∧
      reg'.setVerified ⟨some user, some package⟩ (some spelling) = (.ok (), reg.putScope user t) ∧
      Scope.SharedBy package r (Host.normalize spelling) (reg.scopeOrEmpty user) t := by
  have scope := consistent.scopeOrEmpty user
  have isNormal : Host.IsNormal (Host.normalize spelling) := Host.normalize_normalize spelling
  cases known : (reg.scopeOrEmpty user).packages[package]? with
  | none => cases made.symm.trans (setSelected_of_unknown (userState_ne_ok known) spelling)
  | some r =>
      obtain ⟨m, verified, wholeM, first⟩ := exists_setVerified consistent known spelling
      rw [setSelected_of_known known] at made
      cases selected : (reg.scopeOrEmpty user).select user package r (Host.normalize spelling) with
      | error why =>
          rw [selected] at made
          cases made
      | ok s =>
          rw [selected] at made
          cases made
          have granted := scope.grantedTo known selected
          obtain ⟨_, wholeS⟩ := scope.select known isNormal selected
          have knownM := (first.records package).trans (if_pos rfl)
          have knownS := (granted.records package).trans (if_pos rfl)
          obtain ⟨t, doneS, fullT, shared⟩ :=
            Scope.Consistent.sharedBy_of_granted isNormal granted knownS wholeS
          obtain ⟨t', doneM, fullT', shared'⟩ := wholeM.sharedBy_of_verified first knownM
            fun q held => scope.holder_of_select known selected held
          obtain rfl : t = t' := shared.unique shared' fullT fullT'
          refine ⟨r, m, t, verified, ?_, ?_, shared⟩
          · rw [← scopeOrEmpty_putScope reg user m] at knownM
            rw [setSelected_of_known knownM, scopeOrEmpty_putScope, doneM]
            simp only [putScope_putScope]
          · rw [← scopeOrEmpty_putScope reg user s] at knownS
            rw [setVerified_eq_changeAt]
            refine (changeAt_of_known rfl knownS _).trans ?_
            simp only [scopeOrEmpty_putScope, doneS, putScope_putScope]

/-! ## Verifying twice -/

/-- Two registries differ at most in the order in which records list their hosts. -/
def SameButOrder (reg reg' : Registry) : Prop :=
  ∀ user : Int, Option.Rel Scope.SameButOrder reg.scopes[user]? reg'.scopes[user]?

theorem SameButOrder.refl (reg : Registry) : SameButOrder reg reg := by
  intro user
  cases reg.scopes[user]? with
  | none => exact .none
  | some s => exact .some (.refl s)

theorem sameButOrder_putScope {s t : Scope} (same : Scope.SameButOrder s t) :
    SameButOrder (reg.putScope user s) (reg.putScope user t) := by
  intro v
  rw [getElem?_putScope, getElem?_putScope]
  split
  · exact .some same
  · exact SameButOrder.refl reg v

/-- The verification of a host for an unknown package is turned down, before and after another one. -/
theorem setVerified_past_unknown (consistent : reg.Consistent)
    (unknown : (reg.scopeOrEmpty user).packages[p]? = none) (h k : LooseString) :
    let first := reg.setVerified ⟨some user, some p⟩ (some h)
    let second := reg.setVerified ⟨some user, some q⟩ (some k)
    first.2.setVerified ⟨some user, some q⟩ (some k) = second ∧
      second.2.setVerified ⟨some user, some p⟩ (some h) = (first.1, second.2) := by
  intro first second
  have refused : first = (_, reg) := setVerified_of_unknown unknown h
  refine ⟨by rw [refused], ?_⟩
  rw [refused]
  apply setVerified_of_unknown
  cases known : (reg.scopeOrEmpty user).packages[q]? with
  | none =>
      rw [show second = (_, reg) from setVerified_of_unknown known k]
      exact unknown
  | some r =>
      obtain ⟨s, made, _, verified⟩ := exists_setVerified consistent known k
      have apart : p ≠ q := by
        rintro rfl
        cases unknown.symm.trans known
      rw [show second = _ from made, scopeOrEmpty_putScope, verified.records, if_neg apart]
      exact unknown

/-- Two verifications for packages of a user are answered alike in either order, and lead to the same
registry but for the order of hosts. -/
theorem setVerified_comm (consistent : reg.Consistent) (user : Int) (p q : String)
    (h k : LooseString) :
    let first := reg.setVerified ⟨some user, some p⟩ (some h)
    let second := reg.setVerified ⟨some user, some q⟩ (some k)
    let second' := first.2.setVerified ⟨some user, some q⟩ (some k)
    let first' := second.2.setVerified ⟨some user, some p⟩ (some h)
    first'.1 = first.1 ∧ second'.1 = second.1 ∧ SameButOrder second'.2 first'.2 := by
  intro first second second' first'
  cases knownP : (reg.scopeOrEmpty user).packages[p]? with
  | none =>
      obtain ⟨same, refused⟩ := setVerified_past_unknown (q := q) consistent knownP h k
      rw [show second' = second from same, show first' = _ from refused]
      exact ⟨rfl, rfl, .refl _⟩
  | some rp =>
      cases knownQ : (reg.scopeOrEmpty user).packages[q]? with
      | none =>
          obtain ⟨same, refused⟩ := setVerified_past_unknown (q := p) consistent knownQ k h
          rw [show first' = first from same, show second' = _ from refused]
          exact ⟨rfl, rfl, .refl _⟩
      | some rq =>
          obtain ⟨s₁, made₁, whole₁, verified₁⟩ := exists_setVerified consistent knownP h
          obtain ⟨s₂, made₂, whole₂, verified₂⟩ := exists_setVerified consistent knownQ k
          obtain ⟨rq', knownQ'⟩ := verified₁.known knownQ
          obtain ⟨rp', knownP'⟩ := verified₂.known knownP
          obtain ⟨s₁₂, made₁₂, whole₁₂, verified₁₂⟩ :=
            exists_setVerified (consistent.putScope whole₁)
              (by rw [scopeOrEmpty_putScope]; exact knownQ') k
          obtain ⟨s₂₁, made₂₁, whole₂₁, verified₂₁⟩ :=
            exists_setVerified (consistent.putScope whole₂)
              (by rw [scopeOrEmpty_putScope]; exact knownP') h
          rw [scopeOrEmpty_putScope] at verified₁₂ verified₂₁
          have same := verified₁.comm knownP knownQ verified₂ knownQ' knownP' verified₁₂ verified₂₁
            whole₁₂.full whole₂₁.full
          simp only [first', second', first, second, made₁, made₂, made₁₂, made₂₁,
            putScope_putScope, true_and]
          exact sameButOrder_putScope same

/-- A verification that is made again changes nothing and is answered as before. -/
theorem setVerified_twice (reg : Registry) (ref : PackageRef) (host : Option LooseString) :
    (reg.setVerified ref host).2.setVerified ref host = reg.setVerified ref host := by
  cases made : reg.setVerified ref host with
  | mk answer after =>
      cases answer with
      | ok u =>
          obtain ⟨_, again⟩ := setVerified_again reg ref host u after made
          exact again
      | error why =>
          rcases reg.changeAt_cases (Host.normalize? host) ref
            (fun h site => site.scope.verify site.package site.record h) with
            ⟨_, refused, _⟩ | ⟨_, _, _, _, _, _, done⟩
          · rw [← setVerified_eq_changeAt, made] at refused
            cases refused
            exact made
          · rw [← setVerified_eq_changeAt, made] at done
            cases done

/-- After any run, a selection that is granted and the verification of the same host can be made in
either order: both are answered, and the registry at the end is the same.  In it the package has
verified the host and is approved for it, and nobody has the slot.  Two verifications for packages of
a user are answered alike in either order and lead to the same indexes and to equal records, and a
verification that is made again changes nothing. -/
theorem verification_in_any_order (ops : List Operation) :
    let reg := (empty.run ops).2
    (∀ (user : Int) (package : String) (spelling : LooseString) (reg' : Registry),
      let ref : PackageRef := ⟨some user, some package⟩
      let host := Host.normalize spelling
      reg.setSelected ref (some spelling) = (.ok (), reg') →
        ∃ mid last, reg'.setVerified ref (some spelling) = (.ok (), last) ∧
          reg.setVerified ref (some spelling) = (.ok (), mid) ∧
          mid.setSelected ref (some spelling) = (.ok (), last) ∧
          (last.scopeOrEmpty user).stateOf? package host = some .verified ∧
          package ∈ (last.scopeOrEmpty user).approvedFor host ∧
          (last.scopeOrEmpty user).exclusive[host]? = none) ∧
    (∀ (user : Int) (p q : String) (h k : LooseString),
      let first := reg.setVerified ⟨some user, some p⟩ (some h)
      let second := reg.setVerified ⟨some user, some q⟩ (some k)
      let second' := first.2.setVerified ⟨some user, some q⟩ (some k)
      let first' := second.2.setVerified ⟨some user, some p⟩ (some h)
      first'.1 = first.1 ∧ second'.1 = second.1 ∧ SameButOrder second'.2 first'.2) ∧
    ∀ (ref : PackageRef) (host : Option LooseString),
      (reg.setVerified ref host).2.setVerified ref host = reg.setVerified ref host := by
  intro reg
  have consistent : reg.Consistent := consistent_empty.run ops
  refine ⟨fun user package spelling reg' => ?_, setVerified_comm consistent, setVerified_twice reg⟩
  intro ref host made
  obtain ⟨r, m, t, verified, selected, verified', shared⟩ :=
    setVerified_setSelected_comm consistent made
  refine ⟨_, _, verified', verified, selected, ?_⟩
  rw [scopeOrEmpty_putScope]
  exact shared.at_host

/-- One host is held by the package, one it has verified, and one nobody claims. -/
theorem verification_in_any_order_rivals :
    let reg := (empty.run rivals).2
    let asked : List (String × LooseString) := [("p", " A "), ("q", "b"), ("q", "c")]
    ∀ ask ∈ asked,
      let ref : PackageRef := ⟨some 1, some ask.1⟩
      (reg.setSelected ref (some ask.2)).1 = .ok () ∧
        (reg.setSelected ref (some ask.2)).2.setVerified ref (some ask.2) =
          (reg.setVerified ref (some ask.2)).2.setSelected ref (some ask.2) := by
  have order (package : String) (host : LooseString)
      (made : ((empty.run rivals).2.setSelected ⟨some 1, some package⟩ (some host)).1 = .ok ()) :
      ((empty.run rivals).2.setSelected ⟨some 1, some package⟩ (some host)).2.setVerified
          ⟨some 1, some package⟩ (some host) =
        ((empty.run rivals).2.setVerified ⟨some 1, some package⟩ (some host)).2.setSelected
          ⟨some 1, some package⟩ (some host) := by
    obtain ⟨mid, last, after, before, selected, _⟩ :=
      (verification_in_any_order rivals).1 1 package host _ (Prod.ext made rfl)
    rw [after, before]
    exact selected.symm
  have held : ((empty.run rivals).2.setSelected ⟨some 1, some "p"⟩ (some " A ")).1 = .ok () := by
    cbv
  have verified : ((empty.run rivals).2.setSelected ⟨some 1, some "q"⟩ (some "b")).1 = .ok () := by
    cbv
  have unclaimed : ((empty.run rivals).2.setSelected ⟨some 1, some "q"⟩ (some "c")).1 = .ok () := by
    cbv
  exact List.forall_mem_cons.2 ⟨⟨held, order _ _ held⟩, List.forall_mem_cons.2
    ⟨⟨verified, order _ _ verified⟩, List.forall_mem_singleton.2 ⟨unclaimed, order _ _ unclaimed⟩⟩⟩

end Registry
end LinkOwnership
