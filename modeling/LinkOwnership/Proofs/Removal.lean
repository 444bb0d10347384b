/-
# LinkOwnership.Proofs.Removal -- nothing is left of a package that is removed

A package that was added or restored is known until it is removed, and as long as calls name no other
package, nothing but this one has changed (`Registry.Resides`, one step in `Operation.resides`).  The
removal then leads back to the registry from before: the other packages have what they had, and of
the removed one neither a record nor an entry in an index is left (`Scope.Lacks`).  So all that
happened in between is undone by one call (`Registry.removed_without_residue`).
-/
import LinkOwnership.Proofs.Frame
import LinkOwnership.Proofs.Located

namespace LinkOwnership

set_option autoImplicit false

open LinkOwnership.Text (LooseString)

namespace Scope

variable {user : Int} {s s' : Scope} {package : String}

/-- A package occurs nowhere in the scope. -/
structure Lacks (package : String) (s : Scope) : Prop where
  record : package ∉ s.packages
  name : ∀ (q : String) (r : Record), s.packages[q]? = some r → r.packageName ≠ package
  slot : ∀ host : LooseString, s.exclusive[host]? ≠ some package
  approval : ∀ (host : LooseString) (names : NameSet), s.approved[host]? = some names →
    package ∉ names

namespace Consistent

/-- Whatever names a package, its record is there too. -/
theorem lacks_of_unknown (consistent : s.Consistent user) (unknown : s.packages[package]? = none) :
    s.Lacks package := by
  have nothing := consistent.holds_nothing_of_unknown unknown
  refine ⟨?_, fun q r known named => ?_, fun host => (nothing host).1,
    fun host names found member => ?_⟩
  · rw [Std.ExtTreeMap.mem_iff_isSome_getElem?, unknown]
    exact Bool.false_ne_true
  · obtain ⟨own, _⟩ := consistent.filed q r known
    rw [← named, own, known] at unknown
    cases unknown
  · exact (nothing host).2 (mem_approvedFor_iff.2 ⟨names, found, member⟩)

/-- Changes of a package that is unknown before and after them have left nothing behind. -/
theorem eq_of_unknown (before : s.Consistent user) (after : s'.Consistent user)
    (only : ChangesOnly package s s') (unknown : s.packages[package]? = none)
    (gone : s'.packages[package]? = none) : s' = s := by
  have nothing := before.holds_nothing_of_unknown unknown
  have nothingAfter := after.holds_nothing_of_unknown gone
  refine eq_of_holdings after.full before.full (fun q => ?_) (fun host q => ?_) fun host q => ?_
  all_goals by_cases own : q = package
  · rw [own, gone, unknown]
  · exact only.record q own
  · simp [own, (nothing host).1, (nothingAfter host).1]
  · exact only.slot host q own
  · simp [own, (nothing host).2, (nothingAfter host).2]
  · exact only.approval host q own

end Consistent

end Scope

namespace Operation

/-- The calls that make a package known. -/
def installs : Operation → Bool
  | .addPackage .. => true
  | .restore .. => true
  | _ => false

end Operation

namespace Registry

variable {reg now : Registry} {user : Int} {package : String}

theorem ChangesOnly.trans {later : Registry} (first : ChangesOnly user package reg now)
    (second : ChangesOnly user package now later) : ChangesOnly user package reg later where
  others v apart := (second.others v apart).trans (first.others v apart)
  own := first.own.trans second.own

/-! ## From the addition to the removal -/

/-- The package is known, and nothing else has changed since `reg`. -/
structure Resides (user : Int) (package : String) (reg now : Registry) : Prop where
  only : ChangesOnly user package reg now
  consistent : now.Consistent
  known : ((now.scopeOrEmpty user).packages[package]?).isSome = true

section Edits

variable {α : Type} {ref : PackageRef} {answer : Except Rejection α × Registry}

/-- It is known as soon as a call that makes it so is not turned down. -/
theorem Edits.resides_of_made {β : Type} {f : α → β} {b : β} (edits : Edits reg ref true answer)
    (names : ref = ⟨some user, some package⟩) (made : answer.1.map f = .ok b) :
    Resides user package reg answer.2 := by
  cases edits with
  | rejected why => cases made
  | made a names' only consistent known =>
      cases names.symm.trans names'
      exact ⟨only, consistent, known⟩

/-- No call that leaves it known changes anything else. -/
theorem Edits.resides (edits : Edits now ref true answer)
    (names : ref = ⟨some user, some package⟩) (resides : Resides user package reg now) :
    Resides user package reg answer.2 := by
  cases edits with
  | rejected why => exact resides
  | made a names' only consistent known =>
      cases names.symm.trans names'
      exact ⟨resides.only.trans only, consistent, known⟩

end Edits

/-- Its removal leads back to where it was not yet known. -/
theorem Resides.removePackage (resides : Resides user package reg now) (before : reg.Consistent)
    {s : Scope} (scope : reg.scopes[user]? = some s) (unknown : s.packages[package]? = none) :
    now.removePackage ⟨some user, some package⟩ = (.ok (), reg) := by
  obtain ⟨r, known⟩ := Option.isSome_iff_exists.1 resides.known
  obtain ⟨removal, consistent, gone⟩ := (resides.consistent.scopeOrEmpty user).remove known
  have only := resides.only.own.trans removal
  rw [scopeOrEmpty_of_some scope] at only
  have back : (now.scopeOrEmpty user).remove package r = s :=
    (before user s scope).eq_of_unknown consistent only unknown gone
  have same : now.putScope user s = reg := by
    refine eq_of_scope? fun v => ?_
    rw [scope?_putScope]
    split
    · rename_i here
      cases here
      exact scope.symm
    · rename_i apart
      exact resides.only.others v fun here => apart (congrArg some here)
  rw [removePackage_eq_changeAt, changeAt_of_known rfl known]
  simp only [back, same]

end Registry

namespace Operation

variable {reg now : Registry} {user : Int} {package : String}

/-- A call that adds or restores the package makes it known. -/
theorem resides_of_made (op : Operation) (before : reg.Consistent) (installs : op.installs = true)
    (names : op.ref = ⟨some user, some package⟩) {outcome : Outcome}
    (made : (op.apply reg).1 = .ok outcome) :
    Registry.Resides user package reg (op.apply reg).2 := by
  cases op with
  | addPackage ref identifier hosts allowed =>
      cases hosts with
      | none => cases made
      | some hosts =>
          exact (Registry.addPackage_edits before ref identifier hosts allowed).resides_of_made names
            made
  | restore draft approved =>
      exact (Registry.restore_edits before draft approved).resides_of_made names made
  | _ => cases installs

/-- Any call that names it leaves it known, made or turned down, but for its removal. -/
theorem resides (op : Operation) (names : op.ref = ⟨some user, some package⟩)
    (stays : op ≠ .removePackage ⟨some user, some package⟩)
    (resides : Registry.Resides user package reg now) :
    Registry.Resides user package reg (op.apply now).2 := by
  have before := resides.consistent
  cases op with
  | addPackage ref identifier hosts allowed =>
      cases hosts with
      | none => exact resides
      | some hosts =>
          exact (Registry.addPackage_edits before ref identifier hosts allowed).resides names resides
  | restore draft approved =>
      exact (Registry.restore_edits before draft approved).resides names resides
  | setVerified ref host => exact (Registry.setVerified_edits before ref host).resides names resides
  | setSelected ref host => exact (Registry.setSelected_edits before ref host).resides names resides
  | clearSelected ref host =>
      exact (Registry.clearSelected_edits before ref host).resides names resides
  | setLinkHandlingAllowed ref allowed =>
      exact (Registry.setLinkHandlingAllowed_edits before ref allowed).resides names resides
  | removePackage ref => exact absurd (congrArg removePackage names) stays
  | removeUser user => cases names
  | _ => exact resides

end Operation

namespace Registry

variable {reg now : Registry} {user : Int} {package : String}

theorem Resides.run (resides : Resides user package reg now) (ops : List Operation)
    (names : ∀ op ∈ ops, op.ref = ⟨some user, some package⟩)
    (stays : ∀ op ∈ ops, op ≠ .removePackage ⟨some user, some package⟩) :
    Resides user package reg (now.run ops).2 := by
  induction ops generalizing now with
  | nil => exact resides
  | cons op rest ih =>
      obtain ⟨named, others⟩ := List.forall_mem_cons.1 names
      obtain ⟨first, later⟩ := List.forall_mem_cons.1 stays
      exact ih (op.resides named first resides) others later

/-! ## Nothing is left -/

/-- Take any run after which a user has a scope and a package of this user is unknown.  Add or restore
the package, and make any calls that name it, some of which may be turned down; none of them is its
removal.  When it is removed then, the registry is the one from before the addition: it has the same
records and the same indexes, and the package occurs nowhere in the scope of its user. -/
theorem removed_without_residue (ops : List Operation) (user : Int) (package : String) {s : Scope}
    (scope : (empty.run ops).2.scopes[user]? = some s) (unknown : s.packages[package]? = none)
    (addition : Operation) (later : List Operation) {outcome : Outcome}
    (installs : addition.installs = true)
    (made : (addition.apply (empty.run ops).2).1 = .ok outcome)
    (names : ∀ op ∈ addition :: later, op.ref = ⟨some user, some package⟩)
    (stays : ∀ op ∈ later, op ≠ .removePackage ⟨some user, some package⟩) :
    ((empty.run ops).2.run (addition :: later)).2.removePackage ⟨some user, some package⟩ =
        (.ok (), (empty.run ops).2) ∧
      s.Lacks package := by
  have before := consistent_empty.run ops
  obtain ⟨named, others⟩ := List.forall_mem_cons.1 names
  have added := addition.resides_of_made before installs named made
  exact ⟨(added.run later others stays).removePackage before scope unknown,
    (before user s scope).lacks_of_unknown unknown⟩

/-- The record of a package that shares a host and has another one of its own. -/
def visitor : Record := ⟨.ofNat 9, "r", 1, true, ⟨[("b", .verified), ("c", .unclaimed)], by decide⟩⟩

/-- It is refused the host that another package holds, is verified for it and so has it in its record,
selects the host of its own, and is added again with another host. -/
def visit : List Operation :=
  [.setSelected ⟨some 1, some "r"⟩ (some "a"),
    .setVerified ⟨some 1, some "r"⟩ (some "a"),
    .setSelected ⟨some 1, some "r"⟩ (some "a"),
    .setSelected ⟨some 1, some "r"⟩ (some "c"),
    .addPackage ⟨some 1, some "r"⟩ (.ofNat 10) (some [some "d"]) (some false)]

/-- It comes between two others, one of which holds a host while both share the other one. -/
theorem removed_without_residue_visitor :
    let before := (empty.run neighbours).2
    let arrival : Operation := .restore visitor.toDraft (some [some "B"])
    let s := before.scopeOrEmpty 1
    (before.scopes[(1 : Int)]? = some s ∧ s.packages["r"]? = none) ∧ arrival.installs = true ∧
      (arrival.apply before).1 = .ok .done ∧
      (∀ op ∈ arrival :: visit, op.ref = ⟨some 1, some "r"⟩) ∧
      (∀ op ∈ visit, op ≠ .removePackage ⟨some 1, some "r"⟩) ∧
      (before.run (arrival :: visit)).2.removePackage ⟨some 1, some "r"⟩ = (.ok (), before) ∧
      s.Lacks "r" := by
  intro before arrival s
  have there : ((empty.run neighbours).2.scopes[(1 : Int)]?).isSome = true := by cbv
  have scope : before.scopes[(1 : Int)]? = some s := by
    obtain ⟨found, here⟩ := Option.isSome_iff_exists.1 there
    exact here.trans (congrArg some (scopeOrEmpty_of_some here).symm)
  have unknown : ((empty.run neighbours).2.scopeOrEmpty 1).packages["r"]? = none := by cbv
  have made : ((Operation.restore visitor.toDraft (some [some "B"])).apply (empty.run neighbours).2).1 =
      .ok .done := by cbv
  have names : ∀ op ∈ arrival :: visit, op.ref = ⟨some 1, some "r"⟩ := by decide
  have stays : ∀ op ∈ visit, op ≠ .removePackage ⟨some 1, some "r"⟩ := by simp [visit]
  exact ⟨⟨scope, unknown⟩, rfl, made, names, stays,
    removed_without_residue neighbours 1 "r" scope unknown arrival visit rfl made names stays⟩

end Registry

end LinkOwnership
