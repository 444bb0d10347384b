/-
# LinkOwnership.Proofs.Located -- changes of the scope in which a package is found

Five changes of a registry go one way (`Registry.changeAt`): something is checked, the package is
looked up, its scope gives another scope or a rejection, and the other scope takes its place.
`Registry.changeAt_cases` says all that can come of it, so what holds of this way is proved once.

What a call sees of a user is the user's scope (`Registry.scope?`): a registry is no more than the
scopes of its users (`Registry.eq_of_scope?`).
-/
import LinkOwnership.Proofs.Invariant

namespace LinkOwnership.Registry

set_option autoImplicit false

open LinkOwnership.Text (LooseString)

variable {reg reg' : Registry}

/-! ## The scope of a user -/

theorem scope?_putScope (reg : Registry) (user : Int) (s : Scope) (v : Option Int) :
    (reg.putScope user s).scope? v = if v = some user then some s else reg.scope? v := by
  cases v with
  | none => rfl
  | some v =>
      simp only [scope?, Option.bind_some, getElem?_putScope, Option.some.injEq]

theorem scope?_removeUser (reg : Registry) (user v : Option Int) :
    (reg.removeUser user).scope? v = if v = user then none else reg.scope? v := by
  cases v with
  | none => split <;> rfl
  | some v =>
      cases user with
      | none => rfl
      | some user => simp only [scope?, Option.bind_some, getElem?_removeUser, Option.some.injEq]

theorem scopeOrEmpty_eq_scope? (reg : Registry) (user : Int) :
    reg.scopeOrEmpty user = (reg.scope? (some user)).getD .empty :=
  reg.scopeOrEmpty_eq user

theorem eq_of_scope? (same : ∀ user, reg.scope? (some user) = reg'.scope? (some user)) :
    reg = reg' := by
  cases reg
  cases reg'
  exact congrArg Registry.mk (Std.ExtTreeMap.ext_getElem? same)

theorem locate_eq (reg : Registry) (ref : PackageRef) :
    reg.locate ref =
      match ref.user, ref.package, reg.scope? ref.user with
      | some user, some package, some scope =>
          match scope.packages[package]? with
          | some record => .ok { user, package, scope, record }
          | none => .error ref.unknown
      | _, _, _ => .error ref.unknown := by
  obtain ⟨user, package⟩ := ref
  cases user with
  | none => rfl
  | some user =>
      cases package with
      | none => rfl
      | some package =>
          simp only [locate, scope?, Option.bind_some]
          cases reg.scopes[user]? with
          | none => rfl
          | some scope => simp only; cases scope.packages[package]? <;> rfl

/-- A package is looked up in the scope of its user. -/
theorem locate_congr {ref : PackageRef} (same : reg.scope? ref.user = reg'.scope? ref.user) :
    reg.locate ref = reg'.locate ref := by
  rw [locate_eq, locate_eq, same]

/-- A package that is not found is unknown. -/
theorem locate_eq_error {ref : PackageRef} {why : Rejection}
    (missed : reg.locate ref = .error why) :
    why = ref.unknown := by
  rw [locate_eq] at missed
  split at missed
  · split at missed
    · cases missed
    · exact (Except.error.inj missed).symm
  · exact (Except.error.inj missed).symm

theorem locate_of_unknown {ref : PackageRef} (unknown : ∀ r, reg.userState ref ≠ .ok r) :
    reg.locate ref = .error ref.unknown := by
  cases located : reg.locate ref with
  | error why => rw [locate_eq_error located]
  | ok site => exact absurd (by rw [userState, located]; rfl) (unknown site.record)

/-- A user with a package has a scope. -/
theorem scope_of_known {user : Int} {package : String} {r : Record}
    (known : (reg.scopeOrEmpty user).packages[package]? = some r) :
    reg.scopes[user]? = some (reg.scopeOrEmpty user) := by
  cases found : reg.scopes[user]? with
  | some s => rw [scopeOrEmpty_of_some found]
  | none =>
      rw [scopeOrEmpty_eq, found] at known
      simp [Scope.empty] at known

theorem locate_of_known {user : Int} {package : String} {r : Record}
    (known : (reg.scopeOrEmpty user).packages[package]? = some r) :
    reg.locate ⟨some user, some package⟩ = .ok ⟨user, package, reg.scopeOrEmpty user, r⟩ :=
  locate_eq_ok_iff.2 ⟨rfl, scope_of_known known, known⟩

/-! ## The way of a change -/

/-- Check something, find the package, and put the scope that `next` gives in the place of the one
where it was found. -/
def changeAt {α : Type} (reg : Registry) (check : Except Rejection α) (ref : PackageRef)
    (next : α → Site → Except Rejection Scope) : Except Rejection Unit × Registry :=
  reg.commit do
    let a ← check
    let site ← reg.locate ref
    let scope ← next a site
    return reg.putScope site.user scope

theorem setVerified_eq_changeAt (reg : Registry) (ref : PackageRef) (host : Option LooseString) :
    reg.setVerified ref host = reg.changeAt (Host.normalize? host) ref fun host site =>
      site.scope.verify site.package site.record host := rfl

theorem setSelected_eq_changeAt (reg : Registry) (ref : PackageRef) (host : Option LooseString) :
    reg.setSelected ref host = reg.changeAt (Host.normalize? host) ref fun host site =>
      site.scope.select site.user site.package site.record host := rfl

theorem clearSelected_eq_changeAt (reg : Registry) (ref : PackageRef) (host : Option LooseString) :
    reg.clearSelected ref host = reg.changeAt (Host.normalize? host) ref fun host site =>
      .ok (site.scope.clear site.package site.record host) := rfl

theorem setLinkHandlingAllowed_eq_changeAt (reg : Registry) (ref : PackageRef) (allowed : Bool) :
    reg.setLinkHandlingAllowed ref allowed = reg.changeAt (.ok ()) ref fun _ site =>
      .ok (site.scope.putRecord site.package { site.record with linkHandlingAllowed := allowed }) :=
  rfl

theorem removePackage_eq_changeAt (reg : Registry) (ref : PackageRef) :
    reg.removePackage ref = reg.changeAt (.ok ()) ref fun _ site =>
      .ok (site.scope.remove site.package site.record) := rfl

/-- A change of a package that is not known is turned down as soon as its check is passed. -/
theorem changeAt_of_unknown {α : Type} {check : Except Rejection α} {a : α} (checked : check = .ok a)
    {ref : PackageRef} (unknown : ∀ r, reg.userState ref ≠ .ok r)
    (next : α → Site → Except Rejection Scope) :
    reg.changeAt check ref next = (.error ref.unknown, reg) := by
  rw [changeAt, checked, locate_of_unknown unknown]
  rfl

/-- A change of a known package is up to the scope of its user. -/
theorem changeAt_of_known {α : Type} {check : Except Rejection α} {a : α} (checked : check = .ok a)
    {user : Int} {package : String} {r : Record}
    (known : (reg.scopeOrEmpty user).packages[package]? = some r)
    (next : α → Site → Except Rejection Scope) :
    reg.changeAt check ⟨some user, some package⟩ next =
      match next a ⟨user, package, reg.scopeOrEmpty user, r⟩ with
      | .ok s => (.ok (), reg.putScope user s)
      | .error why => (.error why, reg) := by
  rw [changeAt, checked, locate_of_known known]
  cases changed : next a ⟨user, package, reg.scopeOrEmpty user, r⟩ <;>
    simp only [bind, Except.bind, pure, Except.pure, changed, commit]

/-- A change is turned down by the check, by the look-up or by the scope, in this order, and then
leaves the registry as it was; or it puts the other scope in place. -/
theorem changeAt_cases {α : Type} (reg : Registry) (check : Except Rejection α) (ref : PackageRef)
    (next : α → Site → Except Rejection Scope) :
    (∃ why, reg.changeAt check ref next = (.error why, reg) ∧
      (check = .error why ∨ ∃ a, check = .ok a ∧
        (reg.locate ref = .error why ∨ ∃ site, reg.locate ref = .ok site ∧
          next a site = .error why))) ∨
    ∃ a site s, check = .ok a ∧ reg.locate ref = .ok site ∧ next a site = .ok s ∧
      reg.changeAt check ref next = (.ok (), reg.putScope site.user s) := by
  unfold changeAt
  cases check with
  | error why => exact Or.inl ⟨why, rfl, Or.inl rfl⟩
  | ok a =>
      cases located : reg.locate ref with
      | error why => exact Or.inl ⟨why, rfl, Or.inr ⟨a, rfl, Or.inl rfl⟩⟩
      | ok site =>
          cases changed : next a site with
          | error why =>
              refine Or.inl ⟨why, ?_, Or.inr ⟨a, rfl, Or.inr ⟨site, rfl, changed⟩⟩⟩
              simp only [bind, Except.bind, changed, commit]
          | ok s =>
              refine Or.inr ⟨a, site, s, rfl, rfl, changed, ?_⟩
              simp only [bind, Except.bind, changed, pure, Except.pure, commit]

end LinkOwnership.Registry
