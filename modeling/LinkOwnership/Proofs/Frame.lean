/-
# LinkOwnership.Proofs.Frame -- a call touches no package but the one it names

What a package has is its record, the slots that it holds and the hosts that it is approved for;
the indexes are shared by all packages of a user, so a change of one could take something from
another.  None does (`Registry.other_packages_kept`): a call that is turned down changes nothing,
and one that is made changes the package that it names (`Operation.changes_one`).  The removal of a
user is no call about a package.
-/
import Mathlib
import LinkOwnership.Proofs.Invariant

namespace LinkOwnership

set_option autoImplicit false

open LinkOwnership.Text (LooseString)

namespace Operation

/-- The package that a call names.  Calls about a user as a whole name the user only. -/
def ref : Operation → PackageRef
  | .addPackage ref _ _ _ => ref
  | .restore draft _ => ⟨draft.user, draft.packageName⟩
  | .setVerified ref _ => ref
  | .setSelected ref _ => ref
  | .clearSelected ref _ => ref
  | .setLinkHandlingAllowed ref _ => ref
  | .removePackage ref => ref
  | .removeUser user => ⟨user, none⟩
  | .userState ref => ref
  | .hostMap ref => ref
  | .approvedHosts ref => ref
  | .packageNames user => ⟨user, none⟩
  | .exclusiveOwner user _ => ⟨user, none⟩
  | .owners user _ => ⟨user, none⟩

end Operation

namespace Registry

variable {reg reg' : Registry} {user : Int} {package : String}

/-! ## What a package has -/

/-- A package has the same in two registries. -/
structure SameHoldings (user : Int) (package : String) (reg reg' : Registry) : Prop where
  /-- Its record, and so whether it may open links at all. -/
  record : (reg'.scopeOrEmpty user).packages[package]? = (reg.scopeOrEmpty user).packages[package]?
  /-- The hosts that it holds alone. -/
  slots : ∀ host : LooseString, (reg'.scopeOrEmpty user).exclusive[host]? = some package ↔
    (reg.scopeOrEmpty user).exclusive[host]? = some package
  /-- The hosts that it is approved for. -/
  approvals : ∀ host : LooseString, package ∈ (reg'.scopeOrEmpty user).approvedFor host ↔
    package ∈ (reg.scopeOrEmpty user).approvedFor host

theorem SameHoldings.refl (user : Int) (package : String) (reg : Registry) :
    SameHoldings user package reg reg := ⟨rfl, fun _ => Iff.rfl, fun _ => Iff.rfl⟩

/-- A change of one package leaves the others what they have. -/
theorem ChangesOnly.sameHoldings {v : Int} {q : String} (only : ChangesOnly user package reg reg')
    (other : (⟨some v, some q⟩ : PackageRef) ≠ ⟨some user, some package⟩) :
    SameHoldings v q reg reg' := by
  by_cases here : v = user
  · subst here
    have apart : q ≠ package := fun same => other (same ▸ rfl)
    exact ⟨only.own.record q apart, fun host => only.own.slot host q apart,
      fun host => only.own.approval host q apart⟩
  · have same : reg'.scopeOrEmpty v = reg.scopeOrEmpty v := by
      rw [scopeOrEmpty_eq, scopeOrEmpty_eq, only.others v here]
    refine ⟨?_, fun host => ?_, fun host => ?_⟩
    all_goals rw [same]

/-! ## What a call changes -/

/-- A call changes nothing, or the package that it names. -/
def ChangesOne (ref : PackageRef) (reg reg' : Registry) : Prop :=
  reg' = reg ∨ ∃ user package, ref = ⟨some user, some package⟩ ∧ ChangesOnly user package reg reg'

theorem Edits.changesOne {α : Type} {ref : PackageRef} {stays : Bool}
    {answer : Except Rejection α × Registry} (edits : Edits reg ref stays answer) :
    ChangesOne ref reg answer.2 := by
  cases edits with
  | rejected why => exact Or.inl rfl
  | made a names only consistent known => exact Or.inr ⟨_, _, names, only⟩

end Registry

/-- Each call does, but the removal of a user. -/
theorem Operation.changes_one (op : Operation) {reg : Registry} (before : reg.Consistent)
    (one : ∀ user, op ≠ .removeUser user) : Registry.ChangesOne op.ref reg (op.apply reg).2 := by
  cases op with
  | addPackage ref identifier hosts allowed =>
      cases hosts with
      | none => exact Or.inl rfl
      | some hosts => exact (Registry.addPackage_edits before ref identifier hosts allowed).changesOne
  | restore draft approved => exact (Registry.restore_edits before draft approved).changesOne
  | setVerified ref host => exact (Registry.setVerified_edits before ref host).changesOne
  | setSelected ref host => exact (Registry.setSelected_edits before ref host).changesOne
  | clearSelected ref host => exact (Registry.clearSelected_edits before ref host).changesOne
  | setLinkHandlingAllowed ref allowed =>
      exact (Registry.setLinkHandlingAllowed_edits before ref allowed).changesOne
  | removePackage ref => exact (Registry.removePackage_edits before ref).changesOne
  | removeUser user => exact absurd rfl (one user)
  | userState ref => exact Or.inl rfl
  | hostMap ref => exact Or.inl rfl
  | approvedHosts ref => exact Or.inl rfl
  | packageNames user => exact Or.inl rfl
  | exclusiveOwner user host => exact Or.inl rfl
  | owners user host => exact Or.inl rfl

namespace Registry

/-- After any run, a call that is not the removal of a user leaves every package but the one that
it names what it has, whether it is made or turned down: no package loses a host to another. -/
theorem other_packages_kept (ops : List Operation) (op : Operation)
    (one : ∀ user, op ≠ .removeUser user) {user : Int} {package : String}
    (other : op.ref ≠ ⟨some user, some package⟩) :
    SameHoldings user package (empty.run ops).2 (op.apply (empty.run ops).2).2 := by
  rcases op.changes_one (consistent_empty.run ops) one with same | ⟨v, q, names, only⟩
  · rw [same]
    exact .refl user package _
  · exact only.sameHoldings fun own => other (names.trans own.symm)

/-- One package holds a host alone and shares another one. -/
def neighbours : List Operation :=
  [.addPackage ⟨some 1, some "p"⟩ (.ofNat 7) (some [some "a", some "b"]) (some true),
    .addPackage ⟨some 1, some "q"⟩ (.ofNat 8) (some [some "a", some "b"]) (some true),
    .setSelected ⟨some 1, some "p"⟩ (some "a"),
    .setVerified ⟨some 1, some "p"⟩ (some "b"),
    .setVerified ⟨some 1, some "q"⟩ (some "b"),
    .setSelected ⟨some 1, some "p"⟩ (some "b"),
    .setSelected ⟨some 1, some "q"⟩ (some "b")]

/-- The one that it shares with is removed. -/
theorem other_packages_kept_removal :
    let removal : Operation := .removePackage ⟨some 1, some "q"⟩
    (∀ user, removal ≠ .removeUser user) ∧ removal.ref ≠ ⟨some 1, some "p"⟩ ∧
      ((removal.apply (empty.run neighbours).2).2.scopeOrEmpty 1).exclusive[("a" : LooseString)]? =
        some "p" ∧
      "p" ∈ ((removal.apply (empty.run neighbours).2).2.scopeOrEmpty 1).approvedFor "b" := by
  intro removal
  have one : ∀ user, removal ≠ .removeUser user := nofun
  have other : removal.ref ≠ ⟨some 1, some "p"⟩ := by decide
  have kept := other_packages_kept neighbours removal one other
  have held : ((empty.run neighbours).2.scopeOrEmpty 1).exclusive[("a" : LooseString)]? =
      some "p" := by cbv
  have shared : (((empty.run neighbours).2.scopeOrEmpty 1).approvedFor "b").contains "p" := by cbv
  exact ⟨one, other, (kept.slots "a").2 held, (kept.approvals "b").2 shared⟩

end Registry

end LinkOwnership
