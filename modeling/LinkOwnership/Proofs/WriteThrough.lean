/-
# LinkOwnership.Proofs.WriteThrough -- the rows of the table follow the registry

A call covers the rows of the package that it names, or of the user that it removes.  What a call
can do is said once (`Service.Step`): it is turned down and nothing changes, or it changes the
registry at the keys it covers and then writes their rows; outside these keys neither the registry
nor the table changes.  When the write is made, the covered rows mirror the registry
(`Service.Mirrors`).  So after any run of calls, outages in between, only a row whose last write
failed can differ from the registry (`Service.rows_mirror_registry`).
-/
import LinkOwnership.Proofs.Invariant
import LinkOwnership.Proofs.Wire
import LinkOwnership.Service.Call

namespace LinkOwnership

set_option autoImplicit false

open LinkOwnership.Text (LooseString)

/-- The package whose row has the key. -/
def RowKey.ref (key : RowKey) : PackageRef := ⟨some key.user, some key.package⟩

theorem RowKey.ref_inj {key key' : RowKey} : key.ref = key'.ref ↔ key = key' := by
  cases key
  cases key'
  simp only [ref, PackageRef.mk.injEq, Option.some.injEq, RowKey.mk.injEq]

/-! ## The registry at one key -/

namespace Registry

variable {reg reg' : Registry} {key : RowKey}

theorem locate_ref (reg : Registry) (key : RowKey) :
    reg.locate key.ref =
      match (reg.scopeOrEmpty key.user).packages[key.package]? with
      | some r => .ok ⟨key.user, key.package, reg.scopeOrEmpty key.user, r⟩
      | none => .error key.ref.unknown := by
  simp only [locate, RowKey.ref, scopeOrEmpty_eq]
  cases reg.scopes[key.user]? with
  | none => simp [Scope.empty]
  | some s =>
      simp only [Option.getD_some]
      cases s.packages[key.package]? with
      | none => rfl
      | some r => rfl

theorem userState_eq_ok_iff {r : Record} :
    reg.userState key.ref = .ok r ↔
      (reg.scopeOrEmpty key.user).packages[key.package]? = some r := by
  rw [userState, locate_ref]
  cases (reg.scopeOrEmpty key.user).packages[key.package]? with
  | none => simp only [Except.map, reduceCtorEq]
  | some found => simp only [Except.map, Except.ok.injEq, Option.some.injEq]

theorem userState_mk_eq_ok_iff {user : Int} {package : String} {r : Record} :
    reg.userState ⟨some user, some package⟩ = .ok r ↔
      (reg.scopeOrEmpty user).packages[package]? = some r := by
  show reg.userState (RowKey.ref ⟨user, package⟩) = .ok r ↔ _
  exact userState_eq_ok_iff

theorem approvedHosts_of_known {r : Record} (known : reg.userState key.ref = .ok r) :
    reg.approvedHosts key.ref = .ok ((reg.scopeOrEmpty key.user).approvedHosts key.package) := by
  rw [approvedHosts, locate_ref, userState_eq_ok_iff.1 known]
  rfl

/-- Two registries say the same of a package. -/
structure ShowsSame (key : RowKey) (reg reg' : Registry) : Prop where
  record : reg'.userState key.ref = reg.userState key.ref
  approved : reg'.approvedHosts key.ref = reg.approvedHosts key.ref

/-- They do when they have the same record of it and approve it for the same hosts. -/
theorem shows_same
    (record : (reg'.scopeOrEmpty key.user).packages[key.package]? =
      (reg.scopeOrEmpty key.user).packages[key.package]?)
    (approval : ∀ host, key.package ∈ (reg'.scopeOrEmpty key.user).approvedFor host ↔
      key.package ∈ (reg.scopeOrEmpty key.user).approvedFor host) :
    ShowsSame key reg reg' := by
  have hosts := Scope.approvedHosts_congr approval
  constructor
  · rw [userState, userState, locate_ref, locate_ref, record]
    cases (reg.scopeOrEmpty key.user).packages[key.package]? <;> rfl
  · rw [approvedHosts, approvedHosts, locate_ref, locate_ref, record]
    cases (reg.scopeOrEmpty key.user).packages[key.package]? with
    | none => rfl
    | some r => exact congrArg Except.ok hosts

theorem scopeOrEmpty_congr {user : Int} (same : reg'.scopes[user]? = reg.scopes[user]?) :
    reg'.scopeOrEmpty user = reg.scopeOrEmpty user := by
  rw [scopeOrEmpty_eq, scopeOrEmpty_eq, same]

/-- A change of one package leaves what is shown of the others. -/
theorem ChangesOnly.shows_same {user : Int} {package : String}
    (only : ChangesOnly user package reg reg') (other : key ≠ ⟨user, package⟩) :
    ShowsSame key reg reg' := by
  obtain ⟨keyUser, keyPackage⟩ := key
  by_cases here : keyUser = user
  · subst here
    have apart : keyPackage ≠ package := fun same => other (same ▸ rfl)
    exact Registry.shows_same (only.own.record keyPackage apart)
      (fun host => only.own.approval host keyPackage apart)
  · have same := scopeOrEmpty_congr (only.others keyUser here)
    refine Registry.shows_same ?_ fun host => ?_
    · rw [same]
    · rw [same]

theorem shows_same_removeUser {user : Int} (other : key.user ≠ user) :
    ShowsSame key reg (reg.removeUser (some user)) := by
  have same : (reg.removeUser (some user)).scopeOrEmpty key.user = reg.scopeOrEmpty key.user :=
    scopeOrEmpty_congr (by rw [getElem?_removeUser, if_neg other])
  refine shows_same ?_ fun host => ?_
  · rw [same]
  · rw [same]

/-- The registry knows nothing of a user who was removed. -/
theorem userState_removeUser {user : Int} (here : key.user = user) (r : Record) :
    (reg.removeUser (some user)).userState key.ref ≠ .ok r := by
  rw [Ne, userState_eq_ok_iff, scopeOrEmpty_eq, getElem?_removeUser, if_pos here]
  simp [Scope.empty]

/-- The record of a package bears the key of its row, and its hosts are in normal form. -/
theorem Consistent.own_of_known (consistent : reg.Consistent) {r : Record}
    (known : reg.userState key.ref = .ok r) :
    (⟨r.user, r.packageName⟩ : RowKey) = key ∧ r.Normal := by
  have scope := consistent.scopeOrEmpty key.user
  rw [userState_eq_ok_iff] at known
  obtain ⟨package, user⟩ := scope.filed _ r known
  refine ⟨?_, scope.normal _ r known⟩
  rw [package, user]

end Registry

/-! ## Writes to the table -/

namespace Table

theorem getElem?_eraseUser (t : Table) (user : Int) (k : RowKey) :
    (t.eraseUser user)[k]? = if k.user = user then none else t[k]? := by
  rw [eraseUser, Std.ExtTreeMap.getElem?_filter']
  split <;> cases t[k]? <;> simp_all

end Table

namespace Database

variable {db db' : Database}

/-- What comes after a connection comes only while the database is up. -/
theorem connect_bind_eq_ok_iff {α : Type} {next : Table → Except StoreFault α} {a : α} :
    db.connect >>= next = .ok a ↔ db.down = false ∧ next db.table = .ok a := by
  unfold connect
  cases db.down with
  | true => exact ⟨nofun, nofun⟩
  | false => exact ⟨fun same => ⟨rfl, same⟩, fun both => both.2⟩

theorem connect_map_eq_ok_iff {α : Type} {f : Table → α} {a : α} :
    db.connect.map f = .ok a ↔ db.down = false ∧ f db.table = a := by
  unfold connect
  cases db.down with
  | true => exact ⟨nofun, nofun⟩
  | false => exact ⟨fun same => ⟨rfl, Except.ok.inj same⟩, fun both => congrArg Except.ok both.2⟩

/-- What comes after a check of texts comes only when none of them is refused. -/
theorem accept_bind_eq_ok_iff {α : Type} {words? : Option String} {next : Unit → Except StoreFault α}
    {a : α} : accept words? >>= next = .ok a ↔ words? = none ∧ next () = .ok a := by
  cases words? with
  | some words => exact ⟨nofun, nofun⟩
  | none => exact ⟨fun same => ⟨rfl, same⟩, fun both => both.2⟩

theorem save_eq_ok_iff {r : Record} {approved : List LooseString} :
    db.save r approved = .ok db' ↔
      ∃ bytes, r.encode = .ok bytes ∧ db.down = false ∧
        db.engine.refusesRow r.packageName approved = none ∧
        { db with table := db.table.insert ⟨r.user, r.packageName⟩ ⟨bytes, approved.map some⟩ } =
          db' := by
  rw [save, bind_eq_ok_iff]
  simp only [mapError_eq_ok_iff, connect_bind_eq_ok_iff, accept_bind_eq_ok_iff, pure, Except.pure,
    Except.ok.injEq]

theorem delete_eq_ok_iff {user : Int} {package : String} :
    db.delete user package = .ok db' ↔
      db.down = false ∧ db.engine.refusesText package = none ∧
        { db with table := db.table.erase ⟨user, package⟩ } = db' := by
  simp only [delete, connect_bind_eq_ok_iff, accept_bind_eq_ok_iff, pure, Except.pure, Except.ok.injEq]

theorem deleteUser_eq_ok_iff {user : Int} :
    db.deleteUser user = .ok db' ↔
      db.down = false ∧ { db with table := db.table.eraseUser user } = db' := by
  simp only [deleteUser, connect_bind_eq_ok_iff, pure, Except.pure, Except.ok.injEq]

end Database

/-! ## Rows that mirror the registry -/

namespace Service

/-- The row of a key says exactly what the registry says: it holds the stored form of the record
and the approved hosts in their order, or it is not there and the package is unknown. -/
structure Mirrors (sv : Service) (key : RowKey) : Prop where
  known : ∀ r, sv.registry.userState key.ref = .ok r →
    ∃ bytes hosts, r.encode = .ok bytes ∧ sv.registry.approvedHosts key.ref = .ok hosts ∧
      (hosts.Pairwise fun first second => compare first second = .lt) ∧
        sv.database.table[key]? = some ⟨bytes, hosts.map some⟩
  unknown : ∀ why, sv.registry.userState key.ref = .error why → sv.database.table[key]? = none

/-- Two states of a service show the same of a key, in the registry and in the table. -/
structure SameAt (key : RowKey) (sv sv' : Service) : Prop where
  shows : sv.registry.ShowsSame key sv'.registry
  row : sv'.database.table[key]? = sv.database.table[key]?

theorem SameAt.refl (key : RowKey) (sv : Service) : SameAt key sv sv := ⟨⟨rfl, rfl⟩, rfl⟩

theorem Mirrors.of_sameAt {key : RowKey} {sv sv' : Service} (before : sv.Mirrors key)
    (same : SameAt key sv sv') : sv'.Mirrors key where
  known r known := by
    rw [same.shows.record] at known
    rw [same.shows.approved, same.row]
    exact before.known r known
  unknown why unknown := by
    rw [same.shows.record] at unknown
    rw [same.row]
    exact before.unknown why unknown

/-- Where the row mirrors the registry, it is read as the record that the registry has. -/
theorem Mirrors.load_row {key : RowKey} {sv : Service} {r : Record} (mirrors : sv.Mirrors key)
    (consistent : sv.registry.Consistent) (known : sv.registry.userState key.ref = .ok r) :
    ∃ row hosts, sv.database.table[key]? = some row ∧
      sv.registry.approvedHosts key.ref = .ok hosts ∧ row.load key = .ok ⟨r, hosts.map some⟩ := by
  obtain ⟨bytes, hosts, put, approved, _, found⟩ := mirrors.known r known
  obtain ⟨rfl, normal⟩ := consistent.own_of_known known
  refine ⟨_, hosts, found, approved, ?_⟩
  simp only [Row.load, Record.decode_of_encode normal put, and_self, if_true]

/-! ## What one call does -/

/-- What a call can do that covers certain keys. -/
structure Step (covers : RowKey → Prop) (sv : Service)
    (outcome : Except Fault Answer × Service) : Prop where
  consistent : outcome.2.registry.Consistent
  /-- Keys that are not covered are left as they are. -/
  others : ∀ key, ¬ covers key → SameAt key sv outcome.2
  /-- A call whose write was not even tried changes nothing. -/
  turnedDown : ∀ why, outcome.1 = .error why → (∀ fault, why ≠ .store fault) → outcome.2 = sv
  /-- Once the write was made, the covered rows mirror the registry. -/
  written : ∀ answer, outcome.1 = .ok answer → ∀ key, covers key → outcome.2.Mirrors key
  /-- A record that is answered is the one that the registry has under a covered key. -/
  answers : ∀ r, outcome.1 = .ok (.record r) →
    ∃ key, covers key ∧ outcome.2.registry.userState key.ref = .ok r

variable {sv : Service} {within : RowKey → Prop}

theorem step_rejected (before : sv.registry.Consistent) (why : Rejection) :
    Step within sv (.error (.rejected why), sv) where
  consistent := before
  others key _ := SameAt.refl key sv
  turnedDown _ _ _ := rfl
  written _ made := nomatch made
  answers _ made := nomatch made

/-- The registry was changed at the covered keys, but nothing could be written. -/
theorem step_failed {reg : Registry} (consistent : reg.Consistent)
    (shows : ∀ key, ¬ within key → sv.registry.ShowsSame key reg) (fault : StoreFault) :
    Step within sv (.error (.store fault), { sv with registry := reg }) where
  consistent := consistent
  others key other := ⟨shows key other, rfl⟩
  turnedDown why same unstored := by
    cases same
    exact absurd rfl (unstored fault)
  written _ made := nomatch made
  answers _ made := nomatch made

/-- The registry was changed at the covered keys, and their rows were written. -/
theorem step_written {reg : Registry} {db : Database} {answer : Answer}
    (consistent : reg.Consistent)
    (shows : ∀ key, ¬ within key → sv.registry.ShowsSame key reg)
    (rows : ∀ key, ¬ within key → db.table[key]? = sv.database.table[key]?)
    (mirrors : ∀ key, within key → Mirrors ⟨reg, db⟩ key)
    (answers : ∀ r, answer = .record r → ∃ key, within key ∧ reg.userState key.ref = .ok r) :
    Step within sv (.ok answer, ⟨reg, db⟩) where
  consistent := consistent
  others key other := ⟨shows key other, rows key other⟩
  turnedDown _ failed := nomatch failed
  written _ _ key covered := mirrors key covered
  answers r made := answers r (Except.ok.inj made)

/-- For a package that is known, its record and its approved hosts are written. -/
theorem persist_of_known {reg : Registry} {key : RowKey} {r : Record}
    (known : reg.userState key.ref = .ok r) :
    persist { sv with registry := reg } key.ref =
      match sv.database.save r ((reg.scopeOrEmpty key.user).approvedHosts key.package) with
      | .ok db => (.ok r, ⟨reg, db⟩)
      | .error fault => (.error (.store fault), { sv with registry := reg }) := by
  have approved := Registry.approvedHosts_of_known known
  cases saved : sv.database.save r ((reg.scopeOrEmpty key.user).approvedHosts key.package) with
  | error fault => simp only [persist, known, approved, saved]
  | ok db => simp only [persist, known, approved, saved]

/-- The row of a package that the registry knows is written. -/
theorem persist_step {reg : Registry} {key : RowKey} {r : Record} (consistent : reg.Consistent)
    (known : reg.userState key.ref = .ok r)
    (shows : ∀ other : RowKey, ¬ key.ref = other.ref → sv.registry.ShowsSame other reg) :
    Step (fun covered => key.ref = covered.ref) sv
      (Call.apply.withRecord (persist { sv with registry := reg } key.ref)) := by
  have approved := Registry.approvedHosts_of_known known
  rw [persist_of_known known]
  cases saved : sv.database.save r ((reg.scopeOrEmpty key.user).approvedHosts key.package) with
  | error fault => exact step_failed consistent shows fault
  | ok db =>
      obtain ⟨bytes, put, _, _, rfl⟩ := Database.save_eq_ok_iff.1 saved
      rw [(consistent.own_of_known known).1]
      refine step_written consistent shows ?_ ?_ ?_
      · intro other apart
        show (sv.database.table.insert _ _)[other]? = _
        rw [getElem?_insert_if, if_neg fun same => apart (congrArg RowKey.ref same.symm)]
      · intro covered same
        obtain rfl := RowKey.ref_inj.1 same
        refine ⟨fun r' known' => ?_, fun why unknown => ?_⟩
        · obtain rfl : r = r' := Except.ok.inj (known.symm.trans known')
          refine ⟨bytes, _, put, approved, Scope.ordered_approvedHosts _ _, ?_⟩
          show (sv.database.table.insert _ _)[_]? = _
          rw [getElem?_insert_if, if_pos rfl]
        · cases known.symm.trans unknown
      · intro r' answered
        cases answered
        exact ⟨key, rfl, known⟩

/-- A change of one package whose record stays, and then the write of its row. -/
theorem persistAfter_step {α : Type} {ref : PackageRef} {change : Except Rejection α × Registry}
    (before : sv.registry.Consistent) (edits : Registry.Edits sv.registry ref true change) :
    Step (fun key => ref = key.ref) sv (Call.apply.withRecord (sv.persistAfter ref change)) := by
  cases edits with
  | rejected why => exact step_rejected before why
  | made a names only consistent known =>
      rename_i reg user package
      obtain ⟨r, found⟩ := Option.isSome_iff_exists.1 known
      have state : reg.userState (⟨user, package⟩ : RowKey).ref = .ok r :=
        Registry.userState_eq_ok_iff.2 found
      subst names
      refine persist_step consistent state fun other apart => ?_
      exact only.shows_same fun same => apart (congrArg RowKey.ref same.symm)

/-- A change after which nothing is known under the covered keys, and then the removal of their
rows. -/
theorem written_step {reg : Registry} {db? : Except StoreFault Database}
    (consistent : reg.Consistent)
    (shows : ∀ key, ¬ within key → sv.registry.ShowsSame key reg)
    (unknown : ∀ key : RowKey, within key → ∀ r, reg.userState key.ref ≠ .ok r)
    (erased : ∀ db, db? = .ok db → ∀ key : RowKey,
      (within key → db.table[key]? = none) ∧
        (¬ within key → db.table[key]? = sv.database.table[key]?)) :
    Step within sv (Call.apply.plain (written { sv with registry := reg } db?)) := by
  cases db? with
  | error fault => exact step_failed consistent shows fault
  | ok db =>
      refine step_written consistent shows (fun key => (erased db rfl key).2) ?_
        fun _ answered => nomatch answered
      intro key covered
      refine ⟨fun r state => absurd state (unknown key covered r), fun _ _ => ?_⟩
      exact (erased db rfl key).1 covered

theorem removePackage_step (before : sv.registry.Consistent) (ref : PackageRef) :
    Step (fun key => ref = key.ref) sv (Call.apply.plain (sv.removePackage ref)) := by
  have edits := Registry.removePackage_edits before ref
  unfold removePackage
  generalize sv.registry.removePackage ref = change at edits
  cases edits with
  | rejected why => exact step_rejected before why
  | made a names only consistent known =>
      rename_i reg user package
      replace names : ref = (⟨user, package⟩ : RowKey).ref := names
      subst names
      refine written_step consistent ?_ ?_ ?_
      · intro other apart
        exact only.shows_same fun same => apart (congrArg RowKey.ref same.symm)
      · intro key covered r state
        obtain rfl : ⟨user, package⟩ = key := RowKey.ref_inj.1 covered
        rw [Registry.userState_eq_ok_iff.1 state] at known
        cases known
      · intro db removed key
        obtain ⟨_, _, rfl⟩ := Database.delete_eq_ok_iff.1 removed
        refine ⟨fun covered => ?_, fun apart => ?_⟩
        · obtain rfl : ⟨user, package⟩ = key := RowKey.ref_inj.1 covered
          exact (getElem?_erase_if ..).trans (if_pos rfl)
        · exact (getElem?_erase_if ..).trans
            (if_neg fun same => apart (congrArg RowKey.ref same.symm))

theorem removeUser_step (before : sv.registry.Consistent) (user : Option Int) :
    Step (fun key => user = some key.user) sv (Call.apply.plain (sv.removeUser user)) := by
  cases user with
  | none =>
      refine written_step before (fun _ _ => ⟨rfl, rfl⟩) (fun _ covered => nomatch covered) ?_
      intro db reached key
      obtain ⟨_, rfl⟩ := Database.connect_map_eq_ok_iff.1 reached
      exact ⟨fun covered => absurd covered (Option.some_ne_none _).symm, fun _ => rfl⟩
  | some user =>
      refine written_step (before.removeUser (some user)) ?_ ?_ ?_
      · intro key other
        exact Registry.shows_same_removeUser fun same => other (congrArg some same.symm)
      · intro key covered r
        exact Registry.userState_removeUser (Option.some.inj covered).symm r
      · intro db removed key
        obtain ⟨_, rfl⟩ := Database.deleteUser_eq_ok_iff.1 removed
        refine ⟨fun covered => ?_, fun other => ?_⟩
        · exact (Table.getElem?_eraseUser ..).trans (if_pos (Option.some.inj covered).symm)
        · exact (Table.getElem?_eraseUser ..).trans
            (if_neg fun same => other (congrArg some same.symm))

/-- Whether a call is about the row of a key: it names the package, or it removes the user. -/
def Call.covers (key : RowKey) : Call → Bool
  | .addPackage ref _ _ => ref = key.ref
  | .setVerified ref _ => ref = key.ref
  | .setSelected ref _ => ref = key.ref
  | .clearSelected ref _ => ref = key.ref
  | .setLinkHandlingAllowed ref _ => ref = key.ref
  | .removePackage ref => ref = key.ref
  | .removeUser user => user = some key.user

theorem apply_step (c : Call) (before : sv.registry.Consistent) :
    Step (fun key => c.covers key = true) sv (c.apply sv) := by
  cases c <;> simp only [Call.covers, decide_eq_true_eq]
  case addPackage ref identifier hosts =>
      exact persistAfter_step before
        (Registry.addPackage_edits before ref identifier hosts (some true))
  case setVerified ref host =>
      exact persistAfter_step before (Registry.setVerified_edits before ref host)
  case setSelected ref host =>
      exact persistAfter_step before (Registry.setSelected_edits before ref host)
  case clearSelected ref host =>
      exact persistAfter_step before (Registry.clearSelected_edits before ref host)
  case setLinkHandlingAllowed ref allowed =>
      exact persistAfter_step before (Registry.setLinkHandlingAllowed_edits before ref allowed)
  case removePackage ref => exact removePackage_step before ref
  case removeUser user => exact removeUser_step before user

/-! ## Runs -/

/-- The calls among events. -/
def callsIn : List Event → List Call
  | [] => []
  | .outage _ :: rest => callsIn rest
  | .call c :: rest => c :: callsIn rest

/-- The calls of a run, each with its answer. -/
def history (sv : Service) (events : List Event) : List (Call × Except Fault Answer) :=
  (callsIn events).zip (sv.run events).1

/-- The fault of the store that kept a call from being written. -/
def storeFault? : Except Fault Answer → Option StoreFault
  | .error (.store fault) => some fault
  | _ => none

/-- Whether the last write to the row of a key has failed, when `failed` says so of the time before
the calls.  A call that answers has written its rows, a fault of the store says that the write
failed, and a call that was turned down has not tried to write. -/
def lastWriteFailed (key : RowKey) (failed : Bool) : List (Call × Except Fault Answer) → Bool
  | [] => failed
  | (c, answer) :: rest =>
      lastWriteFailed key
        (if c.covers key then
          match answer with
          | .ok _ => false
          | .error (.store _) => true
          | .error _ => failed
        else failed) rest

/-- A run keeps the registry consistent and the rows whose last write did not fail like it. -/
theorem run_mirrors (sv : Service) (events : List Event) (before : sv.registry.Consistent)
    (failed : RowKey → Bool) (mirrors : ∀ key, failed key = false → sv.Mirrors key) :
    (sv.run events).2.registry.Consistent ∧
      ∀ key, lastWriteFailed key (failed key) (sv.history events) = false →
        (sv.run events).2.Mirrors key := by
  induction events generalizing sv failed with
  | nil => exact ⟨before, mirrors⟩
  | cons event rest ih =>
      cases event with
      | outage down =>
          exact ih (sv.setDown down) before failed
            fun key kept => (mirrors key kept).of_sameAt ⟨⟨rfl, rfl⟩, rfl⟩
      | call c =>
          have step := apply_step c before
          refine ih (c.apply sv).2 step.consistent
            (fun key => if c.covers key then
              match (c.apply sv).1 with
              | .ok _ => false
              | .error (.store _) => true
              | .error _ => failed key
            else failed key) fun key kept => ?_
          split at kept
          · rename_i covered
            split at kept
            · rename_i answer made
              exact step.written answer made key covered
            · cases kept
            · rename_i why unstored turnedDown
              rw [step.turnedDown why turnedDown fun fault same => unstored fault (same ▸ rfl)]
              exact mirrors key kept
          · rename_i other
            exact (mirrors key kept).of_sameAt (step.others key other)

theorem mirrors_start (e : Engine) (down : Bool) (key : RowKey) :
    (start ⟨e, ∅, down⟩).Mirrors key where
  known r known := by
    rw [start, Registry.userState_eq_ok_iff] at known
    simp [Registry.empty, Registry.scopeOrEmpty, Scope.empty] at known
  unknown _ _ := Std.ExtTreeMap.getElem?_empty

/-- After any run of calls on an empty service, outages in between, the row of a key mirrors the
registry unless the last write to it failed.  A call that answers a record has left a row that is
read as this record, and a call that is turned down changes no row. -/
theorem rows_mirror_registry (e : Engine) (down : Bool) (events : List Event) :
    (∀ key, lastWriteFailed key false ((start ⟨e, ∅, down⟩).history events) = false →
      ((start ⟨e, ∅, down⟩).run events).2.Mirrors key) ∧
    ∀ (c : Call) (answer : Except Fault Answer) (sv : Service),
      c.apply ((start ⟨e, ∅, down⟩).run events).2 = (answer, sv) →
        (∀ r, answer = .ok (.record r) →
          ∃ key row, c.covers key = true ∧ sv.database.table[key]? = some row ∧
            Record.decode row.record = .ok r) ∧
        ∀ why, answer = .error (.rejected why) →
          sv.database.table = ((start ⟨e, ∅, down⟩).run events).2.database.table := by
  obtain ⟨consistent, mirrors⟩ := run_mirrors (start ⟨e, ∅, down⟩) events
    Registry.consistent_empty (fun _ => false) fun key _ => mirrors_start e down key
  refine ⟨mirrors, ?_⟩
  intro c answer sv applied
  have step := apply_step c consistent
  rw [applied] at step
  refine ⟨?_, ?_⟩
  · rintro r rfl
    obtain ⟨key, covered, known⟩ := step.answers r rfl
    obtain ⟨bytes, hosts, put, _, _, found⟩ := (step.written _ rfl key covered).known r known
    exact ⟨key, _, covered, found,
      Record.decode_of_encode (step.consistent.own_of_known known).2 put⟩
  · rintro why rfl
    have kept : sv = ((start ⟨e, ∅, down⟩).run events).2 :=
      step.turnedDown _ rfl fun fault same => nomatch same
    rw [kept]

/-- The write of a verified host's selection fails, and is made again once the database is back. -/
def retriedSelection : List Event :=
  [.call (.addPackage ⟨some 1, some "p"⟩ (.ofNat 7) [some "a", some "b"]),
    .call (.setVerified ⟨some 1, some "p"⟩ (some "a")),
    .outage true, .call (.setSelected ⟨some 1, some "p"⟩ (some "a")),
    .outage false, .call (.setSelected ⟨some 1, some "p"⟩ (some "a"))]

/-- The row is behind until then, and has the host as an approved one afterwards. -/
theorem rows_mirror_registry_retried :
    let db : Database := ⟨.byCodePoint, ∅, false⟩
    lastWriteFailed ⟨1, "p"⟩ false ((start db).history (retriedSelection.take 5)) = true ∧
      lastWriteFailed ⟨1, "p"⟩ false ((start db).history retriedSelection) = false ∧
        ((start db).run retriedSelection).2.Mirrors ⟨1, "p"⟩ ∧
          (((start db).run retriedSelection).2.database.table[(⟨1, "p"⟩ : RowKey)]?).map
            Row.approved = some [some ("a" : LooseString)] := by
  intro db
  have failed : lastWriteFailed ⟨1, "p"⟩ false
      ((start db).history (retriedSelection.take 5)) = true := by
    decide +kernel
  have kept : lastWriteFailed ⟨1, "p"⟩ false ((start db).history retriedSelection) = false := by
    decide +kernel
  have approved : (((start db).run retriedSelection).2.database.table[(⟨1, "p"⟩ : RowKey)]?).map
      Row.approved = some [some ("a" : LooseString)] := by
    decide +kernel
  exact ⟨failed, kept, (rows_mirror_registry .byCodePoint false retriedSelection).1 ⟨1, "p"⟩ kept,
    approved⟩

end Service

end LinkOwnership
