/-
# LinkOwnership.Proofs.Snapshot -- restoring what is there already

What a registry says of a package, its record and the hosts it is approved for, can be restored into
the same registry.  The package is then still in the indexes of its hosts, in the approved sets beside
others, but its own claims do not stand in its way, and those of others cannot
(`Scope.Consistent.room_for_own`).  The claims that are given up for the record are the ones that it
brings back, so nothing has changed (`Scope.Consistent.install_own`).

A table that mirrors the registry of a service consists of such snapshots, so restoring it into the
service counts its packages and changes nothing either (`Service.own_snapshot_changes_nothing`).
-/
import LinkOwnership.Proofs.Restart
import LinkOwnership.Proofs.Retry
import LinkOwnership.Proofs.Selection

namespace LinkOwnership

set_option autoImplicit false

open LinkOwnership.Text (LooseString)

/-! ## One scope -/

namespace Scope.Consistent

variable {user : Int} {s : Scope} {r : Record} {approvals : List LooseString}

/-- Nobody stands in the way of what a package has. -/
theorem room_for_own (consistent : s.Consistent user)
    (known : s.packages[r.packageName]? = some r)
    (approved : ∀ host, host ∈ approvals ↔ r.packageName ∈ s.approvedFor host) :
    s.conflict? r approvals = none := by
  refine conflict?_eq_none_iff.2 ⟨fun host selected => ?_, fun host listed q holds => ?_⟩
  · have held : s.exclusive[host]? = some r.packageName := (consistent.own known host).1.2 selected
    refine ⟨fun q holds => Option.some.inj (holds.symm.trans held), fun q shares => ?_⟩
    exact absurd shares (consistent.approvedFor_eq_empty held q)
  · have free := consistent.no_holder_of_approved ((approved host).1 listed)
    cases holds.symm.trans free

/-- A package that takes over what it has is left with it. -/
theorem install_own (consistent : s.Consistent user)
    (known : s.packages[r.packageName]? = some r)
    (approved : ∀ host, host ∈ approvals ↔ r.packageName ∈ s.approvedFor host) :
    s.install r approvals = s := by
  have own := consistent.own known
  have claims := consistent.own_install r approvals
  obtain ⟨only, after⟩ := consistent.install (consistent.normal _ r known)
    (consistent.filed _ r known).2 (consistent.room_for_own known approved)
    fun host listed => (own host).2 ((approved host).1 listed)
  -- The package's own claims follow the record and the approvals, and those of others are kept.
  refine eq_of_holdings after.full consistent.full (fun q => ?_) (fun host q => ?_) (fun host q => ?_)
  · rw [getElem?_install]
    exact (getElem?_of_known known q).symm
  · by_cases self : q = r.packageName
    · rw [self, (claims host).1, (own host).1]
    · exact only.slot host q self
  · by_cases self : q = r.packageName
    · rw [self, (claims host).2, approved]
    · exact only.approval host q self

end Scope.Consistent

/-! ## The registry -/

namespace Registry

variable {reg : Registry} {r : Record}

/-- The snapshot of a package is restored, and nothing has changed. -/
theorem restore_own (consistent : reg.Consistent)
    (known : (reg.scopeOrEmpty r.user).packages[r.packageName]? = some r) :
    reg.restore r.toDraft
      (((reg.scopeOrEmpty r.user).approvedHosts r.packageName).map some) = (.ok (), reg) := by
  have scope := consistent.scopeOrEmpty r.user
  have approved := mem_approvalsOf_approvedHosts consistent known
  have room := scope.room_for_own known approved
  rw [restore_of_room (scope.normal _ r known) (scope.normal_approvedHosts r.packageName) room,
    scope.install_own known approved, putScope_self (scope_of_known known)]

end Registry

/-! ## A service -/

namespace Service

variable {sv : Service} {reg : Registry}

/-- Rows that say what a registry says are restored into it, and it stays as it is. -/
theorem restoreEach_own (consistent : reg.Consistent) {entries : List (RowKey × Row)}
    (loads : ∀ entry ∈ entries, ∃ r hosts, reg.userState entry.1.ref = .ok r ∧
      reg.approvedHosts entry.1.ref = .ok hosts ∧ entry.2.load entry.1 = .ok ⟨r, hosts.map some⟩) :
    restoreEach 0 reg (entries.map fun entry => entry.2.load entry.1) =
      (.ok entries.length, [], reg) := by
  have takes (entry : RowKey × Row) (member : entry ∈ entries) :
      ∃ stored, entry.2.load entry.1 = .ok stored ∧
        ∀ (_ : List RowKey) (before : Registry), before = reg → ∃ after,
          before.restore stored.record.toDraft stored.approved = (.ok (), after) ∧ after = reg := by
    obtain ⟨key, row⟩ := entry
    obtain ⟨r, hosts, known, approved, loaded⟩ := loads (key, row) member
    have listed := Registry.approvedHosts_of_known known
    obtain ⟨rfl, _⟩ := consistent.own_of_known known
    obtain rfl := Except.ok.inj (approved.symm.trans listed)
    refine ⟨_, loaded, fun _ before same => ⟨reg, ?_, rfl⟩⟩
    rw [same]
    exact Registry.restore_own consistent (Registry.userState_eq_ok_iff.1 known)
  obtain ⟨after, restored, rfl⟩ := restoreEach_taken takes [] 0 rfl
  rw [restored, Nat.zero_add]

/-- In a registry after any run, the record of a package and its approved hosts can be restored, and
the registry stays as it is.  A service whose table mirrors its registry, while the database is up,
can restore all of the table: it counts its packages and stays as it is. -/
theorem own_snapshot_changes_nothing :
    (∀ (ops : List Operation) (user : Int) (package : String) (r : Record),
      let reg := (Registry.empty.run ops).2
      let ref : PackageRef := ⟨some user, some package⟩
      reg.userState ref = .ok r → ∃ hosts, reg.approvedHosts ref = .ok hosts ∧
        reg.restore r.toDraft (hosts.map some) = (.ok (), reg)) ∧
    ∀ sv : Service, Reachable sv → (∀ key, sv.Mirrors key) → sv.database.down = false →
      let count := sv.registry.packageCount
      sv.restoreAll = (.ok count,
        [.info ("Restored " ++ toString count ++ " package state(s)")], sv) := by
  refine ⟨fun ops user package r => ?_, fun sv reachable mirrors up => ?_⟩
  · intro reg ref (known : reg.userState (RowKey.ref ⟨user, package⟩) = .ok r)
    have consistent : reg.Consistent := Registry.consistent_empty.run ops
    have approved := Registry.approvedHosts_of_known known
    obtain ⟨own, _⟩ := consistent.own_of_known known
    cases own
    exact ⟨_, approved, Registry.restore_own consistent (Registry.userState_mk_eq_ok_iff.1 known)⟩
  · intro count
    have rows := sv.database.table.perm_rows sv.database.engine
    have loads (entry : RowKey × Row) (member : entry ∈ sv.database.table.rows sv.database.engine) :=
      load_of_mirrors reachable.consistent mirrors
        (Std.ExtTreeMap.mem_toList_iff_getElem?_eq_some.1 (rows.mem_iff.1 member))
    have all := restoreEach_own reachable.consistent loads
    have counted : (sv.database.table.rows sv.database.engine).length = count := by
      rw [rows.length_eq, ← List.length_map (f := Prod.fst), (keys_perm_rowKeys mirrors).length_eq,
        Registry.length_rowKeys]
    have reached : sv.database.connect = .ok sv.database.table := by
      rw [Database.connect, up]
      rfl
    rw [counted] at all
    simp only [restoreAll, reached, Table.load, all, List.nil_append]

/-- The service has two packages that share a host, and one of them lists another host as well. -/
theorem own_snapshot_changes_nothing_sharedHost :
    let db : Database := ⟨.byCodePoint, ∅, false⟩
    let sv := ((start db).run sharedHost).2
    sv.restoreAll = (.ok 2, [.info "Restored 2 package state(s)"], sv) := by
  intro db sv
  have reachable : Reachable sv := (Reachable.start db).run sharedHost
  have made : ∀ answer ∈ ((start db).run sharedHost).1, storeFault? answer = none := by
    decide +kernel
  have mirrors (key : RowKey) : sv.Mirrors key := by
    refine (run_mirrors (start db) sharedHost Registry.consistent_empty (fun _ => false)
      fun key _ => mirrors_start .byCodePoint false key).2 key (lastWriteFailed_of_made ?_)
    intro entry member
    exact made entry.2 (List.of_mem_zip member).2
  have two : ((start db).run sharedHost).2.registry.packageCount = 2 := by decide +kernel
  have all := own_snapshot_changes_nothing.2 sv reachable mirrors (by decide +kernel)
  rw [two] at all
  exact all

end Service

end LinkOwnership
