/-
# LinkOwnership.Proofs.Invariant -- what every run of operations keeps

Each operation that names a package is turned down and leaves the registry as it was, or it
changes that one package and keeps the registry consistent (`Registry.Edits`).  So no run of
operations ever breaks the agreement of indexes and records (`Registry.run_consistent`).
-/
import LinkOwnership.Proofs.Consistency
import LinkOwnership.Registry.Operation

namespace LinkOwnership

set_option autoImplicit false

open LinkOwnership.Text (LooseString)

/-! ## Scopes in the registry -/

namespace Registry

variable {reg : Registry}

theorem getElem?_putScope (reg : Registry) (user : Int) (s : Scope) (v : Int) :
    (reg.putScope user s).scopes[v]? = if v = user then some s else reg.scopes[v]? := by
  exact getElem?_insert_if reg.scopes user s v

theorem scopeOrEmpty_eq (reg : Registry) (user : Int) :
    reg.scopeOrEmpty user = (reg.scopes[user]?).getD .empty :=
  Std.ExtTreeMap.getD_eq_getD_getElem?

theorem scopeOrEmpty_of_some {user : Int} {s : Scope} (found : reg.scopes[user]? = some s) :
    reg.scopeOrEmpty user = s := by
  rw [scopeOrEmpty_eq, found, Option.getD_some]

theorem scopeOrEmpty_putScope (reg : Registry) (user : Int) (s : Scope) :
    (reg.putScope user s).scopeOrEmpty user = s :=
  scopeOrEmpty_of_some (by rw [getElem?_putScope, if_pos rfl])

theorem Consistent.scopeOrEmpty (consistent : reg.Consistent) (user : Int) :
    (reg.scopeOrEmpty user).Consistent user := by
  rw [scopeOrEmpty_eq]
  cases found : reg.scopes[user]? with
  | none => exact Scope.consistent_empty user
  | some s => exact consistent user s found

theorem Consistent.putScope (consistent : reg.Consistent) {user : Int} {s : Scope}
    (scope : s.Consistent user) : (reg.putScope user s).Consistent := by
  intro v t found
  rw [getElem?_putScope] at found
  split at found
  · rename_i here
    cases found
    exact here ▸ scope
  · exact consistent v t found

theorem consistent_empty : empty.Consistent := by
  intro user s found
  simp [empty] at found

/-- What a call finds when it looks for a package. -/
theorem locate_eq_ok_iff {ref : PackageRef} {site : Site} :
    reg.locate ref = .ok site ↔
      ref = ⟨some site.user, some site.package⟩ ∧ reg.scopes[site.user]? = some site.scope ∧
        site.scope.packages[site.package]? = some site.record := by
  obtain ⟨user, package⟩ := ref
  obtain ⟨siteUser, sitePackage, siteScope, siteRecord⟩ := site
  unfold locate
  cases user with
  | none => simp
  | some user =>
      cases package with
      | none => simp
      | some package =>
          simp only
          cases found : reg.scopes[user]? with
          | none =>
              refine ⟨nofun, ?_⟩
              rintro ⟨names, there, _⟩
              cases names
              cases found.symm.trans there
          | some scope =>
              simp only
              cases known : scope.packages[package]? with
              | none =>
                  refine ⟨nofun, ?_⟩
                  rintro ⟨names, there, filed⟩
                  cases names
                  cases found.symm.trans there
                  cases known.symm.trans filed
              | some record =>
                  constructor
                  · intro located
                    cases located
                    exact ⟨rfl, found, known⟩
                  · rintro ⟨names, there, filed⟩
                    cases names
                    cases found.symm.trans there
                    cases known.symm.trans filed
                    rfl

/-- One package of a user has changed in the registry, or nothing has. -/
structure ChangesOnly (user : Int) (package : String) (reg reg' : Registry) : Prop where
  others : ∀ v, v ≠ user → reg'.scopes[v]? = reg.scopes[v]?
  own : Scope.ChangesOnly package (reg.scopeOrEmpty user) (reg'.scopeOrEmpty user)

theorem ChangesOnly.refl (user : Int) (package : String) (reg : Registry) :
    ChangesOnly user package reg reg :=
  ⟨fun _ _ => rfl, .refl package _⟩

theorem ChangesOnly.putScope {user : Int} {package : String} {s : Scope}
    (only : Scope.ChangesOnly package (reg.scopeOrEmpty user) s) :
    ChangesOnly user package reg (reg.putScope user s) where
  others v ne := by rw [getElem?_putScope, if_neg ne]
  own := by
    rw [scopeOrEmpty_putScope]
    exact only

theorem putScope_self {user : Int} {s : Scope} (found : reg.scopes[user]? = some s) :
    reg.putScope user s = reg := by
  obtain ⟨scopes⟩ := reg
  refine congrArg Registry.mk (Std.ExtTreeMap.ext_getElem? fun v => ?_)
  have same := getElem?_putScope ⟨scopes⟩ user s v
  rw [putScope] at same
  rw [same]
  split
  · rename_i here
    rw [here]; exact found.symm
  · rfl

/-! ## Calls that name a package -/

/-- What a call that names a package can do to a consistent registry: it is turned down and leaves
everything as it was, or it changes this package only.  `stays` says whether the package is known
after the call was made. -/
inductive Edits {α : Type} (reg : Registry) (ref : PackageRef) (stays : Bool) :
    Except Rejection α × Registry → Prop
  | rejected (why : Rejection) : Edits reg ref stays (.error why, reg)
  | made (a : α) {reg' : Registry} {user : Int} {package : String}
      (names : ref = ⟨some user, some package⟩) (only : ChangesOnly user package reg reg')
      (consistent : reg'.Consistent)
      (known : ((reg'.scopeOrEmpty user).packages[package]?).isSome = stays) :
      Edits reg ref stays (.ok a, reg')

theorem Edits.consistent {α : Type} {ref : PackageRef} {stays : Bool}
    {answer : Except Rejection α × Registry} (edits : Edits reg ref stays answer)
    (before : reg.Consistent) : answer.2.Consistent := by
  cases edits with
  | rejected why => exact before
  | made a names only consistent known => exact consistent

/-- A call that puts another scope in the place of the one it found the package in. -/
theorem edits_commit {ref : PackageRef} {stays : Bool} {changed : Except Rejection Registry}
    (before : reg.Consistent)
    (done : ∀ reg', changed = .ok reg' → ∃ site s, reg.locate ref = .ok site ∧
      reg' = reg.putScope site.user s ∧ Scope.ChangesOnly site.package site.scope s ∧
      s.Consistent site.user ∧ (s.packages[site.package]?).isSome = stays) :
    Edits reg ref stays (reg.commit changed) := by
  cases changed with
  | error why => exact .rejected why
  | ok reg' =>
      obtain ⟨site, s, located, rfl, only, consistent, known⟩ := done reg' rfl
      obtain ⟨names, found, _⟩ := locate_eq_ok_iff.1 located
      rw [← scopeOrEmpty_of_some found] at only
      exact .made () names (.putScope only) (before.putScope consistent)
        (by rw [scopeOrEmpty_putScope]; exact known)

theorem setVerified_edits (before : reg.Consistent) (ref : PackageRef) (host : Option LooseString) :
    Edits reg ref true (reg.setVerified ref host) := by
  refine edits_commit before fun reg' done => ?_
  simp only [bind_eq_ok_iff, pure, Except.pure, Except.ok.injEq] at done
  obtain ⟨h, normalized, site, located, s, verified, rfl⟩ := done
  obtain ⟨_, found, known⟩ := locate_eq_ok_iff.1 located
  obtain ⟨only, consistent⟩ := (before _ _ found).verify known
    (Host.isNormal_of_normalize? normalized) verified
  exact ⟨site, s, located, rfl, only, consistent, Scope.isSome_of_verify known verified⟩

theorem setSelected_edits (before : reg.Consistent) (ref : PackageRef) (host : Option LooseString) :
    Edits reg ref true (reg.setSelected ref host) := by
  refine edits_commit before fun reg' done => ?_
  simp only [bind_eq_ok_iff, pure, Except.pure, Except.ok.injEq] at done
  obtain ⟨h, normalized, site, located, s, selected, rfl⟩ := done
  obtain ⟨_, found, known⟩ := locate_eq_ok_iff.1 located
  obtain ⟨only, consistent⟩ := (before _ _ found).select known
    (Host.isNormal_of_normalize? normalized) selected
  exact ⟨site, s, located, rfl, only, consistent, Scope.isSome_of_select known selected⟩

theorem clearSelected_edits (before : reg.Consistent) (ref : PackageRef)
    (host : Option LooseString) : Edits reg ref true (reg.clearSelected ref host) := by
  refine edits_commit before fun reg' done => ?_
  simp only [bind_eq_ok_iff, pure, Except.pure, Except.ok.injEq] at done
  obtain ⟨h, normalized, site, located, rfl⟩ := done
  obtain ⟨_, found, known⟩ := locate_eq_ok_iff.1 located
  obtain ⟨only, consistent⟩ := (before _ _ found).clear known
    (Host.isNormal_of_normalize? normalized)
  exact ⟨site, _, located, rfl, only, consistent, Scope.isSome_of_clear known⟩

theorem setLinkHandlingAllowed_edits (before : reg.Consistent) (ref : PackageRef)
    (allowed : Bool) : Edits reg ref true (reg.setLinkHandlingAllowed ref allowed) := by
  refine edits_commit before fun reg' done => ?_
  simp only [bind_eq_ok_iff, pure, Except.pure, Except.ok.injEq] at done
  obtain ⟨site, located, rfl⟩ := done
  obtain ⟨_, found, known⟩ := locate_eq_ok_iff.1 located
  obtain ⟨only, consistent⟩ := (before _ _ found).setAllowed known allowed
  refine ⟨site, _, located, rfl, only, consistent, ?_⟩
  rw [Scope.getElem?_putRecord, if_pos rfl, Option.isSome_some]

theorem removePackage_edits (before : reg.Consistent) (ref : PackageRef) :
    Edits reg ref false (reg.removePackage ref) := by
  refine edits_commit before fun reg' done => ?_
  simp only [bind_eq_ok_iff, pure, Except.pure, Except.ok.injEq] at done
  obtain ⟨site, located, rfl⟩ := done
  obtain ⟨_, found, known⟩ := locate_eq_ok_iff.1 located
  obtain ⟨only, consistent, unknown⟩ := (before _ _ found).remove known
  refine ⟨site, _, located, rfl, only, consistent, ?_⟩
  rw [unknown, Option.isSome_none]

/-- A draft that makes up a record names the record's package. -/
theorem ref_of_build {d : Draft} {r : Record} (built : d.build = .ok r) :
    (⟨d.user, d.packageName⟩ : PackageRef) = ⟨some r.user, some r.packageName⟩ := by
  obtain ⟨_, package, user, _⟩ := Draft.build_eq_ok_iff.1 built
  rw [package, user]

theorem addPackage_edits (before : reg.Consistent) (ref : PackageRef) (identifier : Identifier)
    (hosts : List (Option LooseString)) (linkHandlingAllowed : Option Bool) :
    Edits reg ref true
      (reg.addPackage (.fresh identifier ref.package ref.user hosts linkHandlingAllowed)) := by
  unfold addPackage
  split
  · exact .rejected _
  · rename_i r built
    have names : ref = ⟨some r.user, some r.packageName⟩ := ref_of_build built
    have scope := before.scopeOrEmpty r.user
    simp only
    split
    · rename_i present known
      exact .made present names (.putScope (.refl _ _)) (before.putScope scope)
        (by rw [scopeOrEmpty_putScope, known, Option.isSome_some])
    · rename_i unknown
      obtain ⟨only, consistent⟩ := scope.add unknown (Record.normal_of_build built) rfl
        (Draft.unclaimed_of_fresh built)
      exact .made r names (.putScope only) (before.putScope consistent)
        (by rw [scopeOrEmpty_putScope]; exact Scope.isSome_putRecord ..)

theorem mem_approvalsOf {r : Record} {hosts : List LooseString} {host : LooseString} :
    host ∈ approvalsOf r hosts ↔ host ∈ hosts ∧ r.hosts.get? host = some .verified := by
  rw [approvalsOf, List.mem_filter, decide_eq_true_eq, Scope.stateFor_eq_iff (by decide),
    Std.ExtTreeSet.mem_toList, Std.ExtTreeSet.mem_ofList, List.contains_iff_mem]

/-- Only the claims of other packages keep a record out, so a user without a scope has room for
any record. -/
theorem scope_of_conflict {user : Int} {r : Record} {approvals : List LooseString} {why : Rejection}
    (conflict : (reg.scopeOrEmpty user).conflict? r approvals = some why) :
    reg.scopes[user]? = some (reg.scopeOrEmpty user) := by
  cases found : reg.scopes[user]? with
  | some s => rw [scopeOrEmpty_of_some found]
  | none =>
      have room : Scope.empty.conflict? r approvals = none := by
        refine Scope.conflict?_eq_none_iff.2 ⟨fun host _ => ⟨?_, ?_⟩, fun host _ => ?_⟩
        all_goals simp [Scope.empty, Scope.mem_approvedFor_iff]
      rw [scopeOrEmpty_eq, found, Option.getD_none, room] at conflict
      cases conflict

theorem restore_edits (before : reg.Consistent) (draft : Draft)
    (approved : Option (List (Option LooseString))) :
    Edits reg ⟨draft.user, draft.packageName⟩ true (reg.restore draft approved) := by
  unfold restore
  split
  · exact .rejected _
  · exact .rejected _
  · rename_i r hosts copied _
    have built := Draft.copy_eq_ok_iff.1 copied
    simp only
    split
    · rename_i why conflict
      rw [putScope_self (scope_of_conflict conflict)]
      exact .rejected why
    · rename_i clear
      obtain ⟨only, consistent⟩ := (before.scopeOrEmpty r.user).install
        (Record.normal_of_build built) rfl clear fun host member => (mem_approvalsOf.1 member).2
      refine .made () (ref_of_build built) (.putScope only) (before.putScope consistent) ?_
      rw [scopeOrEmpty_putScope, Scope.getElem?_install, if_pos rfl, Option.isSome_some]

theorem getElem?_removeUser (reg : Registry) (user v : Int) :
    (reg.removeUser (some user)).scopes[v]? = if v = user then none else reg.scopes[v]? := by
  exact getElem?_erase_if reg.scopes user v

theorem Consistent.removeUser (before : reg.Consistent) (user : Option Int) :
    (reg.removeUser user).Consistent := by
  cases user with
  | none => exact before
  | some u =>
      intro v s found
      rw [getElem?_removeUser] at found
      split at found
      · cases found
      · exact before v s found

end Registry

/-! ## Runs -/

/-- An operation leaves a consistent registry consistent, whether it is made or turned down. -/
theorem Operation.apply_consistent (op : Operation) {reg : Registry} (before : reg.Consistent) :
    (op.apply reg).2.Consistent := by
  cases op with
  | addPackage ref identifier hosts allowed =>
      cases hosts with
      | none => exact before
      | some hosts =>
          exact (Registry.addPackage_edits before ref identifier hosts allowed).consistent before
  | restore draft approved => exact (Registry.restore_edits before draft approved).consistent before
  | setVerified ref host => exact (Registry.setVerified_edits before ref host).consistent before
  | setSelected ref host => exact (Registry.setSelected_edits before ref host).consistent before
  | clearSelected ref host => exact (Registry.clearSelected_edits before ref host).consistent before
  | setLinkHandlingAllowed ref allowed =>
      exact (Registry.setLinkHandlingAllowed_edits before ref allowed).consistent before
  | removePackage ref => exact (Registry.removePackage_edits before ref).consistent before
  | removeUser user => exact before.removeUser user
  | userState ref => exact before
  | hostMap ref => exact before
  | approvedHosts ref => exact before
  | packageNames user => exact before
  | exclusiveOwner user host => exact before
  | owners user host => exact before

namespace Registry

theorem Consistent.run {reg : Registry} (before : reg.Consistent) (ops : List Operation) :
    (reg.run ops).2.Consistent := by
  induction ops generalizing reg with
  | nil => exact before
  | cons op rest ih => exact ih (op.apply_consistent before)

/-- After any run of operations, made and turned down, the indexes of every user agree with the
records, hosts are in normal form and records are filed under their own names; in particular no
host is selected for two packages of a user. -/
theorem run_consistent (ops : List Operation) :
    (empty.run ops).2.Consistent ∧
      ∀ (user : Int) (s : Scope), (empty.run ops).2.scopes[user]? = some s →
        ∀ (host : LooseString) (p q : String), s.stateOf? p host = some .selected →
          s.stateOf? q host = some .selected → p = q := by
  have consistent := consistent_empty.run ops
  exact ⟨consistent, fun user s found _ _ _ => (consistent user s found).selected_unique⟩

end Registry

end LinkOwnership
