/-
# LinkOwnership.Proofs.Retry -- a call that could not be written is made again

A call changes the registry before it writes, so when the database is out of reach the call that is
made again finds its own change there.  All but one of the changes of a registry do the same again
on top of themselves (`Registry.Again`), so the second call ends where the first would have ended.
The exception is the removal of a package: the package is unknown to the second call, which is
turned down, and the row of the package stays (`Service.retry_after_outage`).
-/
import LinkOwnership.Proofs.Located
import LinkOwnership.Proofs.Numerals
import LinkOwnership.Proofs.Restart

namespace LinkOwnership

set_option autoImplicit false

open LinkOwnership.Text (LooseString)

/-! ## A change on top of itself -/

namespace Scope

variable {s s' : Scope} {package : String} {r : Record} {host : LooseString}

theorem putRecord_putRecord (s : Scope) (package : String) (r r' : Record) :
    (s.putRecord package r).putRecord package r' = s.putRecord package r' := by
  have packages : ((s.putRecord package r).putRecord package r').packages =
      (s.putRecord package r').packages := by
    refine Std.ExtTreeMap.ext_getElem? fun q => ?_
    simp only [getElem?_putRecord]
    split <;> rfl
  exact congrArg (Scope.mk · s.exclusive s.approved) packages

theorem stateFor_setState (r : Record) (host : LooseString) (state : LinkState) :
    (r.setState host state).stateFor host = state := by
  rw [Record.stateFor, get?_setState, if_pos rfl, Option.getD_some]

theorem verify_of_verified (verified : r.stateFor host = .verified) :
    s.verify package r host = .ok s := by
  rw [verify, verified]

/-- A host that was verified is verified. -/
theorem verify_again (known : s.packages[package]? = some r)
    (done : s.verify package r host = .ok s') :
    ∃ r', s'.packages[package]? = some r' ∧ s'.verify package r' host = .ok s' := by
  obtain ⟨verified, rfl⟩ | ⟨_, rfl⟩ | ⟨_, rfl⟩ := verify_cases done
  · exact ⟨r, known, verify_of_verified verified⟩
  · exact ⟨_, (getElem?_putRecord ..).trans (if_pos rfl),
      verify_of_verified (stateFor_setState ..)⟩
  · exact ⟨_, (getElem?_putRecord ..).trans (if_pos rfl),
      verify_of_verified (stateFor_setState ..)⟩

theorem select_again {user : Int} (known : s.packages[package]? = some r)
    (done : s.select user package r host = .ok s') :
    ∃ r', s'.packages[package]? = some r' ∧ s'.select user package r' host = .ok s' := by
  obtain ⟨state, declared, cases⟩ := select_cases done
  obtain ⟨has, rfl⟩ | ⟨rfl, _, rfl⟩ | ⟨rfl, _, _, rfl⟩ := cases
  · exact ⟨r, known, select_of_selected declared has⟩
  · refine ⟨r, known, select_of_selected declared (Or.inr ?_)⟩
    exact (mem_approvedFor_approve ..).2 (Or.inl ⟨rfl, rfl⟩)
  · refine ⟨_, (getElem?_putRecord ..).trans (if_pos rfl), ?_⟩
    exact select_of_selected ((get?_setState ..).trans (if_pos rfl)) (Or.inl rfl)

/-- Claims that were given back are not there to be given back. -/
theorem release_release (full : s.NoEmptySet) (package : String) (hosts : List LooseString) :
    (s.release package hosts).release package hosts = s.release package hosts := by
  have fullOnce := full.release package hosts
  refine eq_of_holdings (fullOnce.release package hosts) fullOnce ?_ ?_ ?_
  · intro q
    rw [packages_release]
  · intro k q
    simp only [holder_release, and_assoc, and_self]
  · intro k q
    simp only [mem_approvedFor_release, and_assoc, and_self]

theorem clear_of_unselected (unselected : r.stateFor host ≠ .selected) :
    s.clear package r host = s.release package [host] := by
  rw [clear, if_neg unselected]

theorem clear_of_selected (selected : r.stateFor host = .selected) :
    s.clear package r host =
      (s.putRecord package (r.setState host .unclaimed)).release package [host] := by
  rw [clear, if_pos selected]

/-- A selection that was given back is not there to be given back. -/
theorem clear_again (full : s.NoEmptySet) (known : s.packages[package]? = some r) :
    ∃ r', (s.clear package r host).packages[package]? = some r' ∧
      (s.clear package r host).clear package r' host = s.clear package r host := by
  by_cases selected : r.stateFor host = .selected
  · have fullPut : (s.putRecord package (r.setState host .unclaimed)).NoEmptySet := full
    rw [clear_of_selected selected]
    refine ⟨r.setState host .unclaimed, ?_, ?_⟩
    · rw [packages_release, getElem?_putRecord, if_pos rfl]
    · rw [clear_of_unselected (by rw [stateFor_setState]; decide), release_release fullPut]
  · rw [clear_of_unselected selected]
    refine ⟨r, ?_, ?_⟩
    · rw [packages_release, known]
    · rw [clear_of_unselected selected, release_release full]

end Scope

namespace Registry

variable {reg : Registry}

theorem commit_eq_ok_iff {changed : Except Rejection Registry} {u : Unit} {reg' : Registry} :
    reg.commit changed = (.ok u, reg') ↔ changed = .ok reg' := by
  cases changed with
  | error why => simp only [commit, Prod.mk.injEq, reduceCtorEq, false_and]
  | ok made => simp only [commit, Prod.mk.injEq, true_and, Except.ok.injEq]

/-- The package is found where it was found, with the scope that was put in place. -/
theorem locate_putScope {ref : PackageRef} {site : Site} {s : Scope} {r : Record}
    (located : reg.locate ref = .ok site) (known : s.packages[site.package]? = some r) :
    (reg.putScope site.user s).locate ref = .ok ⟨site.user, site.package, s, r⟩ := by
  obtain ⟨names, _, _⟩ := locate_eq_ok_iff.1 located
  exact locate_eq_ok_iff.2 ⟨names, by rw [getElem?_putScope, if_pos rfl], known⟩

theorem putScope_putScope (reg : Registry) (user : Int) (s t : Scope) :
    (reg.putScope user s).putScope user t = reg.putScope user t := by
  refine congrArg Registry.mk (Std.ExtTreeMap.ext_getElem? fun v => ?_)
  show ((reg.putScope user s).putScope user t).scopes[v]? = (reg.putScope user t).scopes[v]?
  simp only [getElem?_putScope]
  split <;> rfl

/-- Once the first change was made, the second finds nothing left to change. -/
def Again {α : Type} (first second : Registry → Except Rejection α × Registry) (reg : Registry) :
    Prop :=
  ∀ a reg', first reg = (.ok a, reg') → ∃ a', second reg' = (.ok a', reg')

/-- A change that the scope it has led to answers with itself is made again without effect. -/
theorem again_changeAt {α : Type} {check : Except Rejection α} {ref : PackageRef}
    {next : α → Site → Except Rejection Scope}
    (again : ∀ a site s, reg.locate ref = .ok site → next a site = .ok s →
      ∃ r, s.packages[site.package]? = some r ∧
        next a { site with scope := s, record := r } = .ok s) :
    Again (·.changeAt check ref next) (·.changeAt check ref next) reg := by
  intro _ reg' made
  have done := commit_eq_ok_iff.1 made
  simp only [bind_eq_ok_iff, pure, Except.pure, Except.ok.injEq] at done
  obtain ⟨a, checked, site, located, s, changed, rfl⟩ := done
  obtain ⟨r, known, same⟩ := again a site s located changed
  refine ⟨(), commit_eq_ok_iff.2 ?_⟩
  simp only [bind_eq_ok_iff, pure, Except.pure, Except.ok.injEq]
  exact ⟨a, checked, _, locate_putScope located known, s, same, putScope_putScope ..⟩

theorem setVerified_again (reg : Registry) (ref : PackageRef) (host : Option LooseString) :
    Again (·.setVerified ref host) (·.setVerified ref host) reg := by
  simp only [setVerified_eq_changeAt]
  refine again_changeAt fun h site s located verified => ?_
  exact Scope.verify_again (locate_eq_ok_iff.1 located).2.2 verified

theorem setSelected_again (reg : Registry) (ref : PackageRef) (host : Option LooseString) :
    Again (·.setSelected ref host) (·.setSelected ref host) reg := by
  simp only [setSelected_eq_changeAt]
  refine again_changeAt fun h site s located selected => ?_
  exact Scope.select_again (locate_eq_ok_iff.1 located).2.2 selected

theorem clearSelected_again (before : reg.Consistent) (ref : PackageRef)
    (host : Option LooseString) :
    Again (·.clearSelected ref host) (·.clearSelected ref host) reg := by
  simp only [clearSelected_eq_changeAt]
  refine again_changeAt fun h site s located cleared => ?_
  obtain ⟨_, found, known⟩ := locate_eq_ok_iff.1 located
  cases cleared
  obtain ⟨r, known', same⟩ := Scope.clear_again (before _ _ found).full known
  exact ⟨r, known', congrArg Except.ok same⟩

theorem setLinkHandlingAllowed_again (reg : Registry) (ref : PackageRef) (allowed : Bool) :
    Again (·.setLinkHandlingAllowed ref allowed) (·.setLinkHandlingAllowed ref allowed) reg := by
  simp only [setLinkHandlingAllowed_eq_changeAt]
  refine again_changeAt fun _ site s located changed => ?_
  cases changed
  exact ⟨_, (Scope.getElem?_putRecord ..).trans (if_pos rfl),
    congrArg Except.ok (Scope.putRecord_putRecord ..)⟩

/-- A package that was added is present, whatever identifier it would get now. -/
theorem addPackage_again (reg : Registry) (ref : PackageRef) (identifier identifier' : Identifier)
    (hosts : List (Option LooseString)) (allowed : Option Bool) :
    Again (·.addPackage (.fresh identifier ref.package ref.user hosts allowed))
      (·.addPackage (.fresh identifier' ref.package ref.user hosts allowed)) reg := by
  intro added reg' made
  cases built : (Draft.fresh identifier ref.package ref.user hosts allowed).build with
  | error why =>
      simp only [addPackage, built, Prod.mk.injEq, reduceCtorEq, false_and] at made
  | ok r =>
      have built' : (Draft.fresh identifier' ref.package ref.user hosts allowed).build =
          .ok { r with identifier := identifier' } := by
        obtain ⟨_, package, user, handling, raw, given, folded⟩ := Draft.build_eq_ok_iff.1 built
        exact Draft.build_eq_ok_iff.2 ⟨rfl, package, user, handling, raw, given, folded⟩
      obtain ⟨s, found, known, rfl⟩ : ∃ s found, s.packages[r.packageName]? = some found ∧
          reg' = reg.putScope r.user s := by
        simp only [addPackage, built] at made
        split at made
        · rename_i present known
          cases made
          exact ⟨_, _, known, rfl⟩
        · cases made
          exact ⟨_, _, (Scope.getElem?_putRecord ..).trans (if_pos rfl), rfl⟩
      refine ⟨found, ?_⟩
      simp only [addPackage, built', scopeOrEmpty_putScope, known, putScope_putScope]

/-- A package that was removed was known, and is not known any more. -/
theorem removePackage_again (before : reg.Consistent) {ref : PackageRef} {u : Unit}
    {reg' : Registry} (made : reg.removePackage ref = (.ok u, reg')) :
    ∃ (key : RowKey) (r : Record), ref = key.ref ∧ reg.userState ref = .ok r ∧
      reg'.removePackage ref = (.error ref.unknown, reg') := by
  have done := commit_eq_ok_iff.1 made
  simp only [bind_eq_ok_iff, pure, Except.pure, Except.ok.injEq] at done
  obtain ⟨site, located, rfl⟩ := done
  obtain ⟨names, found, known⟩ := locate_eq_ok_iff.1 located
  obtain rfl : ref = RowKey.ref ⟨site.user, site.package⟩ := names
  have unknown := ((before site.user site.scope found).remove known).2.2
  refine ⟨⟨site.user, site.package⟩, site.record, rfl, ?_, ?_⟩
  · rw [userState, located]
    rfl
  · simp only [removePackage, locate_ref, scopeOrEmpty_putScope, unknown]
    rfl

theorem removeUser_again (reg : Registry) (user : Option Int) :
    (reg.removeUser user).removeUser user = reg.removeUser user := by
  cases user with
  | none => rfl
  | some u =>
      refine congrArg Registry.mk (Std.ExtTreeMap.ext_getElem? fun v => ?_)
      show ((reg.scopes.erase u).erase u)[v]? = (reg.scopes.erase u)[v]?
      rw [getElem?_erase_if, getElem?_erase_if]
      split <;> rfl

end Registry

/-! ## Calls that could not be written -/

/-- A record without a stored form is noticed before the database is asked. -/
theorem Database.save_eq (db : Database) (r : Record) (approved : List LooseString) :
    db.save r approved =
      match r.encode with
      | .error why => .error (.unwritable why)
      | .ok bytes =>
          if db.down then .error .databaseDown
          else match db.engine.refusesRow r.packageName approved with
            | some words => .error (.refused words)
            | none => .ok { db with
                table := db.table.insert ⟨r.user, r.packageName⟩ ⟨bytes, approved.map some⟩ } := by
  unfold save connect
  cases r.encode with
  | error why => rfl
  | ok bytes =>
      cases db.down with
      | true => rfl
      | false => cases db.engine.refusesRow r.packageName approved <;> rfl

namespace Service

/-- What a service can become: it starts over some table, restores it, answers calls, and its
database goes out of reach and comes back. -/
inductive Reachable : Service → Prop
  | start (db : Database) : Reachable (start db)
  | restored {sv : Service} (before : Reachable sv) : Reachable sv.restoreAll.2.2
  | call {sv : Service} (c : Call) (before : Reachable sv) : Reachable (c.apply sv).2
  | outage {sv : Service} (down : Bool) (before : Reachable sv) : Reachable (sv.setDown down)

theorem restoreEach_consistent {reg : Registry} (before : reg.Consistent) (n : Nat)
    (rows : List (Except LogEntry Stored)) : (restoreEach n reg rows).2.2.Consistent := by
  induction rows generalizing n reg with
  | nil => exact before
  | cons row rest ih =>
      cases row with
      | error skipped => exact ih before n
      | ok stored =>
          have step : (reg.restore stored.record.toDraft stored.approved).2.Consistent :=
            (Registry.restore_edits before stored.record.toDraft stored.approved).consistent before
          rw [restoreEach]
          split
          · rename_i reg' taken
            rw [taken] at step
            exact ih step (n + 1)
          · rename_i why reg' refused
            rw [refused] at step
            split
            · exact ih step n
            · exact step

theorem Reachable.consistent {sv : Service} (reachable : Reachable sv) : sv.registry.Consistent := by
  induction reachable with
  | start db => exact Registry.consistent_empty
  | @restored sv before ih =>
      unfold restoreAll
      split
      · exact ih
      · rename_i table _
        have all := restoreEach_consistent ih 0 (table.load sv.database.engine)
        split
        · rename_i restored
          rw [restored] at all
          exact all
        · rename_i stopped
          rw [stopped] at all
          exact all
  | call c before ih => exact (apply_step c ih).consistent
  | outage down before ih => exact ih

theorem Reachable.run {sv : Service} (before : Reachable sv) (events : List Event) :
    Reachable (sv.run events).2 := by
  induction events generalizing sv with
  | nil => exact before
  | cons event rest ih =>
      cases event with
      | outage down => exact ih (.outage down before)
      | call c => exact ih (.call c before)

/-- The same call made again.  A package that is added once more would get another identifier. -/
def Call.again (identifier : Identifier) : Call → Call
  | .addPackage ref _ hosts => .addPackage ref identifier hosts
  | c => c

variable {sv : Service}

/-- A call that was answered, unless the database has refused a text. -/
def Unhindered {α : Type} (answer : Except Fault α) : Prop :=
  ∀ fault, answer = .error fault → ∃ words, fault = .store (.refused words)

theorem Unhindered.exists_ok {α : Type} {answer : Except Fault α} (unhindered : Unhindered answer)
    (accepted : ∀ words, answer ≠ .error (.store (.refused words))) : ∃ a, answer = .ok a := by
  cases answer with
  | ok a => exact ⟨a, rfl⟩
  | error fault =>
      obtain ⟨words, rfl⟩ := unhindered fault rfl
      exact absurd rfl (accepted words)

theorem Unhindered.map {α β : Type} {answer : Except Fault α} (unhindered : Unhindered answer)
    (f : α → β) : Unhindered (answer.map f) :=
  fun fault failed => unhindered fault (map_eq_error_iff.1 failed)

/-- What the outage kept from being written can be written once the database is back. -/
theorem persist_of_down {ref : PackageRef}
    (failed : ((sv.setDown true).persist ref).1 = .error (.store .databaseDown)) :
    ((sv.setDown true).persist ref).2 = sv.setDown true ∧
      Unhindered ((sv.setDown false).persist ref).1 := by
  unfold persist at failed ⊢
  have registry (down : Bool) : (sv.setDown down).registry = sv.registry := rfl
  simp only [registry] at failed ⊢
  cases known : sv.registry.userState ref with
  | error why =>
      rw [known] at failed
      cases failed
  | ok r =>
      cases approved : sv.registry.approvedHosts ref with
      | error why =>
          rw [known, approved] at failed
          cases failed
      | ok hosts =>
          simp only [known, approved, Database.save_eq, setDown] at failed ⊢
          cases put : r.encode with
          | error why =>
              rw [put] at failed
              cases failed
          | ok bytes =>
              refine ⟨rfl, ?_⟩
              cases sv.database.engine.refusesRow r.packageName hosts with
              | none => exact nofun
              | some words =>
                  rintro _ ⟨⟩
                  exact ⟨words, rfl⟩

theorem persistAfter_again {α : Type} {ref : PackageRef}
    {first second : Registry → Except Rejection α × Registry}
    (again : Registry.Again first second sv.registry)
    (failed : ((sv.setDown true).persistAfter ref (first sv.registry)).1 =
      .error (.store .databaseDown)) :
    let after := ((sv.setDown true).persistAfter ref (first sv.registry)).2.setDown false
    after.persistAfter ref (second after.registry) =
        (sv.setDown false).persistAfter ref (first sv.registry) ∧
      Unhindered ((sv.setDown false).persistAfter ref (first sv.registry)).1 := by
  cases changed : first sv.registry with
  | mk answer reg' =>
      cases answer with
      | error why =>
          rw [changed] at failed
          cases failed
      | ok a =>
          obtain ⟨a', changed'⟩ := again a reg' changed
          rw [changed] at failed
          have unwritten : ((({ sv with registry := reg' } : Service).setDown true).persist ref).1 =
              .error (.store .databaseDown) := failed
          obtain ⟨kept, written⟩ := persist_of_down unwritten
          intro after
          have back := congrArg (fun stopped : Service => stopped.setDown false) kept
          have same : after = ({ sv with registry := reg' } : Service).setDown false := by
            simp only [after]
            exact back
          rw [same]
          refine ⟨?_, written⟩
          show persistAfter _ ref (second reg') = _
          rw [changed']
          rfl

/-- The same for a call whose answer shows the record of the package. -/
theorem withRecord_again {α : Type} {ref : PackageRef}
    {first second : Registry → Except Rejection α × Registry}
    (again : Registry.Again first second sv.registry)
    (failed : (Call.apply.withRecord
      ((sv.setDown true).persistAfter ref (first sv.registry))).1 = .error (.store .databaseDown)) :
    let after := (Call.apply.withRecord
      ((sv.setDown true).persistAfter ref (first sv.registry))).2.setDown false
    Call.apply.withRecord (after.persistAfter ref (second after.registry)) =
        Call.apply.withRecord ((sv.setDown false).persistAfter ref (first sv.registry)) ∧
      Unhindered (Call.apply.withRecord
        ((sv.setDown false).persistAfter ref (first sv.registry))).1 := by
  obtain ⟨same, unhindered⟩ := persistAfter_again again (map_eq_error_iff.1 failed)
  exact ⟨congrArg Call.apply.withRecord same, unhindered.map Answer.record⟩

/-- A user who was removed can be removed again. -/
theorem removeUser_again (sv : Service) (user : Option Int) :
    (((sv.setDown true).removeUser user).2.setDown false).removeUser user =
        (sv.setDown false).removeUser user ∧
      ((sv.setDown false).removeUser user).1 = .ok () := by
  cases user with
  | none => exact ⟨rfl, rfl⟩
  | some u =>
      refine ⟨?_, rfl⟩
      have back : ((sv.setDown true).removeUser (some u)).2.setDown false =
          ⟨sv.registry.removeUser (some u), ⟨sv.database.engine, sv.database.table, false⟩⟩ := rfl
      rw [back, removeUser, Registry.removeUser_again]
      rfl

/-- The removal of a package that could not be written: the package is gone from the registry, so
it cannot be removed again, but its row is as it was. -/
theorem removePackage_of_down {ref : PackageRef} (before : sv.registry.Consistent)
    (failed : ((sv.setDown true).removePackage ref).1 = .error (.store .databaseDown)) :
    let back := ((sv.setDown true).removePackage ref).2.setDown false
    ∃ (key : RowKey) (r : Record), ref = key.ref ∧ sv.registry.userState ref = .ok r ∧
      back.database = (sv.setDown false).database ∧
      back.removePackage ref = (.error (.rejected ref.unknown), back) := by
  intro back
  cases changed : sv.registry.removePackage ref with
  | mk answer reg' =>
      have here : (sv.setDown true).registry.removePackage ref = (answer, reg') := changed
      cases answer with
      | error why =>
          simp only [removePackage, here] at failed
          cases failed
      | ok u =>
          obtain ⟨key, r, names, known, again⟩ := Registry.removePackage_again before changed
          have done : back = ⟨reg', (sv.setDown false).database⟩ := by
            obtain rfl := names
            simp only [back, removePackage, here]
            rfl
          refine ⟨key, r, names, known, by rw [done], ?_⟩
          rw [done, removePackage, again]

/-- A restart keeps every package. -/
theorem userState_withoutEmptyScopes {reg : Registry} {key : RowKey} {r : Record}
    (known : reg.userState key.ref = .ok r) : reg.withoutEmptyScopes.userState key.ref = .ok r := by
  have found := Registry.userState_eq_ok_iff.1 known
  rw [Registry.userState_eq_ok_iff]
  rw [Registry.scopeOrEmpty_eq] at found ⊢
  rw [Registry.withoutEmptyScopes, Std.ExtTreeMap.getElem?_filter']
  cases scope : reg.scopes[key.user]? with
  | none =>
      rw [scope] at found
      simp [Scope.empty] at found
  | some s =>
      rw [scope, Option.getD_some] at found
      have peopled : s.packages.isEmpty = false := by
        rw [Std.ExtTreeMap.isEmpty_eq_false_iff]
        rintro none
        simp [none] at found
      simp only [Option.filter_some, peopled, Bool.not_false, if_true, Option.getD_some, found]

/-- A table that mirrors the registry brings it back. -/
theorem restoreAll_of_mirrors (consistent : sv.registry.Consistent)
    (mirrors : ∀ key, sv.Mirrors key) :
    (start (sv.setDown false).database).restoreAll.2.2.registry = sv.registry.withoutEmptyScopes := by
  have rows := restoreEach_of_mirrors consistent mirrors
    (sv.database.table.perm_rows sv.database.engine)
  simp only [restoreAll, start, setDown, Database.connect, Bool.false_eq_true, if_false, Table.load,
    rows]

/-- A call that only an outage kept from being written can be made again once the database is back:
it ends as if it had been written the first time, and it is answered unless the database refuses one
of its texts.  A removal of a package cannot: it is turned down, the row of the package stays, and a
restart brings it back. -/
theorem retry_after_outage (reachable : Reachable sv) (mirrors : ∀ key, sv.Mirrors key) (c : Call)
    (failed : (c.apply (sv.setDown true)).1 = .error (.store .databaseDown))
    (identifier : Identifier) :
    let back := (c.apply (sv.setDown true)).2.setDown false
    ((∀ ref, c ≠ .removePackage ref) →
      (c.again identifier).apply back = c.apply (sv.setDown false) ∧
        ((∀ words, (c.apply (sv.setDown false)).1 ≠ .error (.store (.refused words))) →
          ∃ answer, (c.apply (sv.setDown false)).1 = .ok answer)) ∧
    ∀ ref, c = .removePackage ref →
      c.apply back = (.error (.rejected (.unknownPackage ref.user ref.package)), back) ∧
        ∃ key r, ref = key.ref ∧ sv.registry.userState ref = .ok r ∧
          key ∈ back.database.table ∧ back.database.table = sv.database.table ∧
            back.restart.2.2.registry.userState ref = .ok r := by
  have before := reachable.consistent
  cases c <;> simp only [Call.apply] at failed
  case addPackage ref identifier' hosts =>
    have again := Registry.addPackage_again sv.registry ref identifier' identifier hosts (some true)
    exact ⟨fun _ => (withRecord_again again failed).imp_right Unhindered.exists_ok, nofun⟩
  case setVerified ref host =>
    have again := Registry.setVerified_again sv.registry ref host
    exact ⟨fun _ => (withRecord_again again failed).imp_right Unhindered.exists_ok, nofun⟩
  case setSelected ref host =>
    have again := Registry.setSelected_again sv.registry ref host
    exact ⟨fun _ => (withRecord_again again failed).imp_right Unhindered.exists_ok, nofun⟩
  case clearSelected ref host =>
    have again := Registry.clearSelected_again before ref host
    exact ⟨fun _ => (withRecord_again again failed).imp_right Unhindered.exists_ok, nofun⟩
  case setLinkHandlingAllowed ref allowed =>
    have again := Registry.setLinkHandlingAllowed_again sv.registry ref allowed
    exact ⟨fun _ => (withRecord_again again failed).imp_right Unhindered.exists_ok, nofun⟩
  case removeUser user =>
    obtain ⟨same, written⟩ := removeUser_again sv user
    refine ⟨fun _ => ⟨congrArg Call.apply.plain same, fun _ => ⟨.done, ?_⟩⟩, nofun⟩
    exact congrArg (Except.map fun _ => Answer.done) written
  case removePackage ref =>
    refine ⟨fun other => absurd rfl (other ref), fun ref' same => ?_⟩
    cases same
    have unwritten := map_eq_error_iff.1 failed
    obtain ⟨key, r, rfl, known, database, again⟩ := removePackage_of_down before unwritten
    obtain ⟨bytes, hosts, put, _, _, found⟩ := (mirrors key).known r known
    -- A user that has a row has a number of 32 bits, so the refusal is put into words.
    have own := congrArg RowKey.user (before.own_of_known known).1
    have int32 : Wire.FitsInt32 key.user := own ▸ (Record.exists_encode.1 ⟨bytes, put⟩).user
    have told : key.ref.unknown = .unknownPackage key.ref.user key.ref.package :=
      PackageRef.unknown_of_fits _ (Text.Integer.fits_of_int32 int32)
    rw [told] at again
    have listed : key ∈ sv.database.table := by
      rw [Std.ExtTreeMap.mem_iff_isSome_getElem?, found, Option.isSome_some]
    have table := congrArg (fun db : Database => db.table) database
    refine ⟨congrArg Call.apply.plain again, key, r, rfl, known, ?_, table, ?_⟩
    · exact Eq.mp (congrArg (key ∈ ·) table.symm) listed
    · have restored := restoreAll_of_mirrors before mirrors
      rw [← database] at restored
      exact (congrArg (Registry.userState · key.ref) restored).trans
        (userState_withoutEmptyScopes known)

theorem storeFault?_eq_some_iff {answer : Except Fault Answer} {fault : StoreFault} :
    storeFault? answer = some fault ↔ answer = .error (.store fault) := by
  unfold storeFault?
  split
  · simp only [Option.some.injEq, Except.error.injEq, Fault.store.injEq]
  · rename_i other
    simp only [reduceCtorEq, false_iff]
    exact other fault

/-- A package with one host, added while the database was up. -/
def onePackage : List Event :=
  [.call (.addPackage ⟨some 1, some "p"⟩ (.ofNat 7) [some "a"])]

/-- Its verification can be made again after an outage, its removal cannot. -/
theorem retry_after_outage_onePackage :
    let db : Database := ⟨.byCodePoint, ∅, false⟩
    let sv := ((start db).run onePackage).2
    let verify : Call := .setVerified ⟨some 1, some "p"⟩ (some "a")
    let remove : Call := .removePackage ⟨some 1, some "p"⟩
    verify.apply ((verify.apply (sv.setDown true)).2.setDown false) =
        verify.apply (sv.setDown false) ∧
      (remove.apply ((remove.apply (sv.setDown true)).2.setDown false)).1 =
        .error (.rejected (.unknownPackage (some 1) (some "p"))) := by
  intro db sv verify remove
  have reachable : Reachable sv := (Reachable.start db).run onePackage
  have made : ∀ answer ∈ ((start db).run onePackage).1, storeFault? answer = none := by
    decide +kernel
  have mirrors (key : RowKey) : sv.Mirrors key := by
    refine (run_mirrors (start db) onePackage Registry.consistent_empty (fun _ => false)
      fun key _ => mirrors_start .byCodePoint false key).2 key (lastWriteFailed_of_made ?_)
    intro entry member
    exact made entry.2 (List.of_mem_zip member).2
  have unverified : (verify.apply (sv.setDown true)).1 = .error (.store .databaseDown) :=
    storeFault?_eq_some_iff.1 (by decide +kernel)
  have unremoved : (remove.apply (sv.setDown true)).1 = .error (.store .databaseDown) :=
    storeFault?_eq_some_iff.1 (by decide +kernel)
  have again := (retry_after_outage reachable mirrors verify unverified (.ofNat 8)).1 nofun
  have gone := (retry_after_outage reachable mirrors remove unremoved (.ofNat 8)).2 _ rfl
  exact ⟨again.1, congrArg Prod.fst gone.1⟩

end Service

end LinkOwnership
