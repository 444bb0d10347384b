/-
# LinkOwnership.Proofs.Restart -- what a restart brings back

Restoring takes the rows of a table one after the other.  `Registry.Part` says that a registry is
the part of an old one that a list of keys picks out, and restoring one more of the old packages
makes it the part of one more key (`Registry.Part.restore`): in a consistent registry no package
stands in another's way, so none does in a part of it, whatever the order.

A table all of whose rows mirror the registry therefore brings back the registry, but for the scopes
of users without packages (`Service.restart_transparent`).
-/
import LinkOwnership.Proofs.WriteThrough

namespace LinkOwnership

set_option autoImplicit false

open LinkOwnership.Text (LooseString)

namespace Registry

def rowKeys (reg : Registry) : List RowKey :=
  reg.scopes.toList.flatMap fun entry => entry.2.packages.keys.map fun package => ⟨entry.1, package⟩

/-- The number of packages, those of all users together. -/
def packageCount (reg : Registry) : Nat :=
  reg.scopes.foldl (fun count _ s => count + s.packages.size) 0

/-- The registry without the scopes of users who have no package. -/
def withoutEmptyScopes (reg : Registry) : Registry :=
  ⟨reg.scopes.filter fun _ s => !s.packages.isEmpty⟩

/-- The registry is the part of an old one that the keys pick out. -/
structure Part (old : Registry) (picked : List RowKey) (reg : Registry) : Prop where
  consistent : reg.Consistent
  records : ∀ key : RowKey, (reg.scopeOrEmpty key.user).packages[key.package]? =
    if key ∈ picked then (old.scopeOrEmpty key.user).packages[key.package]? else none
  approvals : ∀ (key : RowKey) (host : LooseString),
    key.package ∈ (reg.scopeOrEmpty key.user).approvedFor host ↔
      key ∈ picked ∧ key.package ∈ (old.scopeOrEmpty key.user).approvedFor host
  /-- Only a package makes a scope. -/
  peopled : ∀ (user : Int) (s : Scope), reg.scopes[user]? = some s → s.packages.isEmpty = false

variable {old reg : Registry} {picked : List RowKey} {key : RowKey}

theorem part_empty (old : Registry) : Part old [] empty where
  consistent := consistent_empty
  records key := by simp [empty, scopeOrEmpty, Scope.empty]
  approvals key host := by simp [empty, scopeOrEmpty, Scope.empty, Scope.mem_approvedFor_iff]
  peopled user s found := by simp [empty] at found

/-- A state of a host in the part is its state in the old registry. -/
theorem Part.stateOf? (part : Part old picked reg) {user : Int} {package : String}
    {host : LooseString} {state : LinkState}
    (has : (reg.scopeOrEmpty user).stateOf? package host = some state) :
    (old.scopeOrEmpty user).stateOf? package host = some state := by
  obtain ⟨r, known, declared⟩ := Scope.stateOf?_eq_some_iff.1 has
  rw [part.records ⟨user, package⟩] at known
  split at known
  · exact Scope.stateOf?_eq_some_iff.2 ⟨r, known, declared⟩
  · cases known

/-- No package in a part stands in the way of another package of the old registry. -/
theorem Part.room (whole : old.Consistent) (part : Part old picked reg) {r : Record}
    {approvals : List LooseString}
    (known : (old.scopeOrEmpty r.user).packages[r.packageName]? = some r)
    (approved : ∀ host ∈ approvals, r.packageName ∈ (old.scopeOrEmpty r.user).approvedFor host) :
    (reg.scopeOrEmpty r.user).conflict? r approvals = none := by
  have scope := whole.scopeOrEmpty r.user
  have held {host : LooseString} {q : String}
      (holds : (reg.scopeOrEmpty r.user).exclusive[host]? = some q) :
      (old.scopeOrEmpty r.user).exclusive[host]? = some q := by
    rw [(part.consistent.scopeOrEmpty r.user).slot_iff] at holds
    exact (scope.slot_iff host q).2 (part.stateOf? holds)
  refine Scope.conflict?_eq_none_iff.2 ⟨fun host selected => ?_, fun host member => ?_⟩
  · have own : (old.scopeOrEmpty r.user).exclusive[host]? = some r.packageName :=
      (scope.slot_iff host r.packageName).2 (Scope.stateOf?_eq_some_iff.2 ⟨r, known, selected⟩)
    refine ⟨fun q holds => ?_, fun q sharing => ?_⟩
    · exact Option.some.inj ((held holds).symm.trans own)
    · have shared := ((part.approvals ⟨r.user, q⟩ host).1 sharing).2
      exact absurd shared (scope.approvedFor_eq_empty own q)
  · intro q holds
    have free := scope.no_holder_of_approved (approved host member)
    rw [held holds] at free
    cases free

/-- Hosts are normalized one by one, and the first that is missing stops it. -/
theorem mapM_normalize? (hosts : List (Option LooseString)) :
    hosts.mapM Host.normalize? =
      if none ∈ hosts then .error (.missing .host)
      else .ok ((hosts.filterMap id).map Host.normalize) := by
  induction hosts with
  | nil => rfl
  | cons host rest ih =>
      rw [List.mapM_cons, ih]
      cases host with
      | none =>
          rw [if_pos (List.mem_cons_self ..)]
          rfl
      | some h =>
          have others : none ∈ some h :: rest ↔ none ∈ rest := by
            simp only [List.mem_cons, reduceCtorEq, false_or]
          simp only [others]
          split <;> rfl

/-- A record that can be built, with none of its approved hosts missing, is taken over unless somebody
stands in the way. -/
theorem restore_of_build {draft : Draft} {r : Record} (built : draft.build = .ok r)
    {approved : List (Option LooseString)} (given : none ∉ approved) :
    let approvals := approvalsOf r ((approved.filterMap id).map Host.normalize)
    reg.restore draft approved =
      match (reg.scopeOrEmpty r.user).conflict? r approvals with
      | some why => (.error why, reg)
      | none => (.ok (), reg.putScope r.user ((reg.scopeOrEmpty r.user).install r approvals)) := by
  intro approvals
  have same : approvalsOf r ((approved.filterMap id).map Host.normalize) = approvals := rfl
  simp only [restore, Draft.copy_eq_ok_iff.2 built, normalizeAll?, mapM_normalize?, if_neg given, same]
  cases conflict : (reg.scopeOrEmpty r.user).conflict? r approvals with
  | none => rfl
  | some why => simp only [putScope_self (scope_of_conflict conflict)]

/-- Hosts in normal form are taken as they are given. -/
theorem normalize_given {hosts : List LooseString} (normal : ∀ host ∈ hosts, Host.IsNormal host) :
    ((hosts.map some).filterMap id).map Host.normalize = hosts := by
  rw [List.filterMap_map, Function.id_comp, List.filterMap_some]
  exact (List.map_congr_left normal).trans (List.map_id' hosts)

/-- A record in normal form that nobody stands in the way of is taken over as it is. -/
theorem restore_of_room {r : Record} {hosts : List LooseString} (normal : r.Normal)
    (normalHosts : ∀ host ∈ hosts, Host.IsNormal host)
    (room : (reg.scopeOrEmpty r.user).conflict? r (approvalsOf r hosts) = none) :
    reg.restore r.toDraft (hosts.map some) =
      (.ok (), reg.putScope r.user ((reg.scopeOrEmpty r.user).install r (approvalsOf r hosts))) := by
  have given : none ∉ hosts.map some := by simp
  rw [restore_of_build (Record.build_toDraft normal) given, normalize_given normalHosts, room]

/-- What the old registry lists for a package are the approvals that the record bears out. -/
theorem mem_approvalsOf_approvedHosts (whole : old.Consistent) {r : Record}
    (known : (old.scopeOrEmpty r.user).packages[r.packageName]? = some r) (host : LooseString) :
    host ∈ approvalsOf r ((old.scopeOrEmpty r.user).approvedHosts r.packageName) ↔
      r.packageName ∈ (old.scopeOrEmpty r.user).approvedFor host := by
  rw [mem_approvalsOf, Scope.mem_approvedHosts_iff]
  refine ⟨fun both => both.1, fun member => ⟨member, ?_⟩⟩
  have verified := (whole.scopeOrEmpty r.user).verified host r.packageName member
  rwa [Scope.stateOf?_of_record known] at verified

theorem scopeOrEmpty_putScope_of_ne (reg : Registry) {user v : Int} (s : Scope) (ne : v ≠ user) :
    (reg.putScope user s).scopeOrEmpty v = reg.scopeOrEmpty v :=
  scopeOrEmpty_congr (by rw [getElem?_putScope, if_neg ne])

/-- One more package of the old registry is restored. -/
theorem Part.restore (whole : old.Consistent) (part : Part old picked reg) {r : Record}
    (known : (old.scopeOrEmpty r.user).packages[r.packageName]? = some r) :
    ∃ reg', reg.restore r.toDraft
        (((old.scopeOrEmpty r.user).approvedHosts r.packageName).map some) = (.ok (), reg') ∧
      Part old (⟨r.user, r.packageName⟩ :: picked) reg' := by
  have scope := whole.scopeOrEmpty r.user
  have normal : r.Normal := scope.normal r.packageName r known
  have approved := mem_approvalsOf_approvedHosts whole known
  have room := part.room whole known fun host member => (approved host).1 member
  refine ⟨_, restore_of_room normal (scope.normal_approvedHosts r.packageName) room, ?_⟩
  generalize approvalsOf r _ = approvals at approved room ⊢
  have verified : ∀ host ∈ approvals, r.hosts.get? host = some .verified := by
    intro host member
    have has := scope.verified host r.packageName ((approved host).1 member)
    rwa [Scope.stateOf?_of_record known] at has
  have own := (part.consistent.scopeOrEmpty r.user).own_install r approvals
  obtain ⟨only, consistent⟩ := (part.consistent.scopeOrEmpty r.user).install normal rfl room verified
  refine ⟨part.consistent.putScope consistent, ?_, ?_, ?_⟩
  · rintro ⟨user, package⟩
    by_cases here : user = r.user
    · subst here
      simp only [scopeOrEmpty_putScope, Scope.getElem?_install, List.mem_cons, RowKey.mk.injEq,
        true_and]
      by_cases here : package = r.packageName
      · simp only [here, true_or, if_true, known]
      · simp only [here, false_or, if_false]
        exact part.records ⟨r.user, package⟩
    · simp only [scopeOrEmpty_putScope_of_ne reg _ here, List.mem_cons, RowKey.mk.injEq, here,
        false_and, false_or]
      exact part.records ⟨user, package⟩
  · rintro ⟨user, package⟩ host
    by_cases here : user = r.user
    · subst here
      simp only [scopeOrEmpty_putScope, List.mem_cons, RowKey.mk.injEq, true_and]
      by_cases here : package = r.packageName
      · simp only [here, (own host).2, approved host, true_or, true_and]
      · simp only [here, false_or]
        exact (only.approval host package here).trans (part.approvals ⟨r.user, package⟩ host)
    · simp only [scopeOrEmpty_putScope_of_ne reg _ here, List.mem_cons, RowKey.mk.injEq, here,
        false_and, false_or]
      exact part.approvals ⟨user, package⟩ host
  · intro user s found
    rw [getElem?_putScope] at found
    split at found
    · cases found
      rw [Std.ExtTreeMap.isEmpty_eq_false_iff]
      intro none
      have own := Scope.getElem?_install (reg.scopeOrEmpty r.user) r approvals r.packageName
      rw [none, if_pos rfl, Std.ExtTreeMap.getElem?_empty] at own
      cases own
    · exact part.peopled user s found

/-- The part that has all packages is the registry itself, but for scopes without packages. -/
theorem Part.eq_withoutEmptyScopes (whole : old.Consistent) (part : Part old picked reg)
    (all : ∀ (key : RowKey) (r : Record),
      (old.scopeOrEmpty key.user).packages[key.package]? = some r → key ∈ picked) :
    reg = old.withoutEmptyScopes := by
  have records (user : Int) (package : String) :
      (reg.scopeOrEmpty user).packages[package]? = (old.scopeOrEmpty user).packages[package]? := by
    rw [part.records ⟨user, package⟩]
    split
    · rfl
    · rename_i unpicked
      refine (Option.eq_none_iff_forall_ne_some.2 fun r known => ?_).symm
      exact unpicked (all ⟨user, package⟩ r known)
  have same (user : Int) : reg.scopeOrEmpty user = old.scopeOrEmpty user := by
    have here := part.consistent.scopeOrEmpty user
    have there := whole.scopeOrEmpty user
    refine Scope.eq_of_holdings here.full there.full (records user) ?_ ?_
    · intro host package
      rw [here.slot_iff, there.slot_iff, Scope.stateOf?, Scope.stateOf?, records]
    · intro host package
      refine (part.approvals ⟨user, package⟩ host).trans ⟨fun both => both.2, fun member => ?_⟩
      obtain ⟨r, known, _⟩ := Scope.stateOf?_eq_some_iff.1 (there.verified host package member)
      exact ⟨all ⟨user, package⟩ r known, member⟩
  obtain ⟨scopes⟩ := reg
  refine congrArg Registry.mk (Std.ExtTreeMap.ext_getElem? fun user => ?_)
  rw [Std.ExtTreeMap.getElem?_filter']
  have peopled := part.peopled user
  have alike := same user
  rw [scopeOrEmpty_eq, scopeOrEmpty_eq] at alike
  cases restored : scopes[user]? with
  | none =>
      cases found : old.scopes[user]? with
      | none => rfl
      | some s =>
          rw [restored, found, Option.getD_none, Option.getD_some] at alike
          subst alike
          simp [Option.filter_some, Scope.empty]
  | some s =>
      have some_package := peopled s restored
      cases found : old.scopes[user]? with
      | none =>
          rw [restored, found, Option.getD_none, Option.getD_some] at alike
          subst alike
          simp [Scope.empty] at some_package
      | some t =>
          rw [restored, found, Option.getD_some, Option.getD_some] at alike
          subst alike
          simp [Option.filter_some, some_package]

/-! ## How many packages there are -/

theorem mem_rowKeys_iff {key : RowKey} :
    key ∈ old.rowKeys ↔
      ∃ r, (old.scopeOrEmpty key.user).packages[key.package]? = some r := by
  obtain ⟨user, package⟩ := key
  simp only [rowKeys, List.mem_flatMap, List.mem_map, RowKey.mk.injEq, Prod.exists,
    Std.ExtTreeMap.mem_toList_iff_getElem?_eq_some, Std.ExtTreeMap.mem_keys]
  constructor
  · rintro ⟨_, s, found, _, known, rfl, rfl⟩
    rw [scopeOrEmpty_of_some found, ← Option.isSome_iff_exists]
    exact Std.ExtTreeMap.mem_iff_isSome_getElem?.1 known
  · rintro ⟨r, known⟩
    rw [scopeOrEmpty_eq] at known
    cases found : old.scopes[user]? with
    | none => simp [found, Scope.empty] at known
    | some s =>
        rw [found, Option.getD_some] at known
        refine ⟨user, s, found, package, ?_, rfl, rfl⟩
        rw [Std.ExtTreeMap.mem_iff_isSome_getElem?, known, Option.isSome_some]

theorem nodup_rowKeys (old : Registry) : old.rowKeys.Nodup := by
  refine List.pairwise_flatMap.2 ⟨fun entry _ => ?_, ?_⟩
  · refine List.pairwise_map.2 (Std.ExtTreeMap.nodup_keys.imp fun ne same => ?_)
    exact ne (RowKey.mk.inj same).2
  · refine Std.ExtTreeMap.distinct_keys_toList.imp fun {a b} apart x left y right same => ?_
    obtain ⟨_, _, rfl⟩ := List.mem_map.1 left
    obtain ⟨_, _, rfl⟩ := List.mem_map.1 right
    rw [(RowKey.mk.inj same).1] at apart
    exact apart (Std.ReflOrd.compare_self)

theorem length_rowKeys (old : Registry) : old.rowKeys.length = old.packageCount := by
  have counted (entries : List (Int × Scope)) (n : Nat) :
      entries.foldl (fun count entry => count + entry.2.packages.size) n =
        n + (entries.flatMap fun entry =>
          entry.2.packages.keys.map fun package => RowKey.mk entry.1 package).length := by
    induction entries generalizing n with
    | nil => rfl
    | cons entry rest ih =>
        rw [List.foldl_cons, ih, List.flatMap_cons, List.length_append, List.length_map,
          Std.ExtTreeMap.length_keys, Nat.add_assoc]
  rw [rowKeys, packageCount, Std.ExtTreeMap.foldl_eq_foldl_toList, counted, Nat.zero_add]

end Registry

/-! ## Restoring a table -/

/-- Every row is read once. -/
theorem Table.perm_rows (t : Table) (e : Engine) : (t.rows e).Perm t.toList :=
  List.mergeSort_perm _ _

namespace Service

open Registry (Part)

/-- Rows each of which is taken over, whatever was taken over before, are all taken over and counted.
What holds after the rows of some keys is said by `Taken`. -/
theorem restoreEach_taken {Taken : List RowKey → Registry → Prop} {entries : List (RowKey × Row)}
    (takes : ∀ entry ∈ entries, ∃ stored, entry.2.load entry.1 = .ok stored ∧
      ∀ done reg, Taken done reg → ∃ reg',
        reg.restore stored.record.toDraft stored.approved = (.ok (), reg') ∧
          Taken (entry.1 :: done) reg')
    (done : List RowKey) (n : Nat) {reg : Registry} (taken : Taken done reg) :
    ∃ reg', restoreEach n reg (entries.map fun entry => entry.2.load entry.1) =
        (.ok (n + entries.length), [], reg') ∧
      Taken ((entries.map Prod.fst).reverse ++ done) reg' := by
  induction entries generalizing done n reg with
  | nil => exact ⟨reg, rfl, taken⟩
  | cons entry rest ih =>
      obtain ⟨stored, loaded, take⟩ := takes entry List.mem_cons_self
      obtain ⟨middle, restored, grown⟩ := take done reg taken
      obtain ⟨reg', others, all⟩ :=
        ih (fun e member => takes e (List.mem_cons_of_mem _ member)) (entry.1 :: done) (n + 1) grown
      refine ⟨reg', ?_, ?_⟩
      · simp only [List.map_cons, loaded, restoreEach, restored, others, List.length_cons,
          Except.ok.injEq, Prod.mk.injEq, and_true]
        omega
      · rwa [List.map_cons, List.reverse_cons, List.append_assoc, List.singleton_append]

/-- Rows of packages of an old registry are all taken over, whatever their order, and also when one of
them comes twice. -/
theorem restoreEach_part {old : Registry} (whole : old.Consistent) {entries : List (RowKey × Row)}
    (loads : ∀ entry ∈ entries, ∃ r hosts, old.userState entry.1.ref = .ok r ∧
      old.approvedHosts entry.1.ref = .ok hosts ∧ entry.2.load entry.1 = .ok ⟨r, hosts.map some⟩)
    {picked : List RowKey} (n : Nat) {reg : Registry} (part : Part old picked reg) :
    ∃ reg', restoreEach n reg (entries.map fun entry => entry.2.load entry.1) =
        (.ok (n + entries.length), [], reg') ∧
      Part old ((entries.map Prod.fst).reverse ++ picked) reg' := by
  refine restoreEach_taken (fun entry member => ?_) picked n part
  obtain ⟨key, row⟩ := entry
  obtain ⟨r, hosts, known, approved, loaded⟩ := loads (key, row) member
  have listed := Registry.approvedHosts_of_known known
  obtain ⟨rfl, _⟩ := whole.own_of_known known
  obtain rfl := Except.ok.inj (approved.symm.trans listed)
  exact ⟨_, loaded, fun done reg part => part.restore whole (Registry.userState_eq_ok_iff.1 known)⟩

variable {sv : Service}

/-- In a table that mirrors the registry each row is read as what the registry has. -/
theorem load_of_mirrors (consistent : sv.registry.Consistent) (mirrors : ∀ key, sv.Mirrors key)
    {key : RowKey} {row : Row} (found : sv.database.table[key]? = some row) :
    ∃ r hosts, sv.registry.userState key.ref = .ok r ∧
      sv.registry.approvedHosts key.ref = .ok hosts ∧ row.load key = .ok ⟨r, hosts.map some⟩ := by
  cases known : sv.registry.userState key.ref with
  | error why =>
      rw [(mirrors key).unknown why known] at found
      cases found
  | ok r =>
      obtain ⟨row', hosts, found', approved, loaded⟩ := (mirrors key).load_row consistent known
      obtain rfl := Option.some.inj (found.symm.trans found')
      exact ⟨r, hosts, rfl, approved, loaded⟩

/-- A table that mirrors the registry has one row for each package. -/
theorem keys_perm_rowKeys (mirrors : ∀ key, sv.Mirrors key) :
    (sv.database.table.toList.map Prod.fst).Perm sv.registry.rowKeys := by
  rw [Std.ExtTreeMap.map_fst_toList_eq_keys]
  have once := Registry.nodup_rowKeys sv.registry
  refine (List.perm_ext_iff_of_nodup Std.ExtTreeMap.nodup_keys once).2 fun key => ?_
  rw [Std.ExtTreeMap.mem_keys, Registry.mem_rowKeys_iff, Std.ExtTreeMap.mem_iff_isSome_getElem?]
  cases known : sv.registry.userState key.ref with
  | error why =>
      have unknown (r : Record) :
          (sv.registry.scopeOrEmpty key.user).packages[key.package]? ≠ some r := by
        rw [Ne, ← Registry.userState_eq_ok_iff, known]
        exact nofun
      simp [(mirrors key).unknown why known, unknown]
  | ok r =>
      obtain ⟨bytes, hosts, _, _, _, found⟩ := (mirrors key).known r known
      simp [found, Registry.userState_eq_ok_iff.1 known]

/-- A table that mirrors the registry brings it back, in whatever order its rows are taken. -/
theorem restoreEach_of_mirrors (consistent : sv.registry.Consistent)
    (mirrors : ∀ key, sv.Mirrors key) {entries : List (RowKey × Row)}
    (rows : entries.Perm sv.database.table.toList) :
    restoreEach 0 .empty (entries.map fun entry => entry.2.load entry.1) =
      (.ok sv.registry.packageCount, [], sv.registry.withoutEmptyScopes) := by
  have keys := (rows.map Prod.fst).trans (keys_perm_rowKeys mirrors)
  have loads (entry : RowKey × Row) (member : entry ∈ entries) :=
    load_of_mirrors consistent mirrors
      (Std.ExtTreeMap.mem_toList_iff_getElem?_eq_some.1 (rows.mem_iff.1 member))
  obtain ⟨reg, restored, part⟩ :=
    restoreEach_part consistent loads 0 (Registry.part_empty sv.registry)
  have count : entries.length = sv.registry.packageCount := by
    rw [← Registry.length_rowKeys, ← keys.length_eq, List.length_map]
  have back := part.eq_withoutEmptyScopes consistent fun key r known => by
    rw [List.append_nil, List.mem_reverse, keys.mem_iff, Registry.mem_rowKeys_iff]
    exact ⟨r, known⟩
  rw [restored, count, Nat.zero_add, back]

/-- When no write of a run fails, the last one has not failed. -/
theorem lastWriteFailed_of_made {key : RowKey} {log : List (Call × Except Fault Answer)}
    (made : ∀ entry ∈ log, storeFault? entry.2 = none) :
    lastWriteFailed key false log = false := by
  induction log with
  | nil => rfl
  | cons entry rest ih =>
      obtain ⟨c, answer⟩ := entry
      have here := made (c, answer) (List.mem_cons_self ..)
      have behind := ih fun e member => made e (List.mem_cons_of_mem _ member)
      unfold lastWriteFailed
      split
      · split
        · exact behind
        · cases here
        · exact behind
      · exact behind

/-- After a run of calls on an empty service, none of whose writes failed, a restart brings the
registry back: nothing is passed over, all packages are counted, and only scopes of users without
packages are gone.  The same comes back in whatever order the rows are taken. -/
theorem restart_transparent (e : Engine) (down : Bool) (events : List Event)
    (made : ∀ answer ∈ ((start ⟨e, ∅, down⟩).run events).1, storeFault? answer = none) :
    let sv := ((start ⟨e, ∅, down⟩).run events).2.setDown false
    let count := sv.registry.packageCount
    sv.restart = (.ok count, [.info ("Restored " ++ toString count ++ " package state(s)")],
        ⟨sv.registry.withoutEmptyScopes, sv.database⟩) ∧
      ∀ entries : List (RowKey × Row), entries.Perm sv.database.table.toList →
        restoreEach 0 .empty (entries.map fun entry => entry.2.load entry.1) =
          (.ok count, [], sv.registry.withoutEmptyScopes) := by
  intro sv count
  obtain ⟨consistent, mirrors⟩ := run_mirrors (start ⟨e, ∅, down⟩) events
    Registry.consistent_empty (fun _ => false) fun key _ => mirrors_start e down key
  have kept (key : RowKey) : sv.Mirrors key := by
    refine (mirrors key (lastWriteFailed_of_made ?_)).of_sameAt ⟨⟨rfl, rfl⟩, rfl⟩
    intro entry member
    exact made entry.2 (List.of_mem_zip member).2
  have whole : sv.registry.Consistent := consistent
  have anyOrder (entries : List (RowKey × Row)) (rows : entries.Perm sv.database.table.toList) :=
    restoreEach_of_mirrors whole kept rows
  refine ⟨?_, anyOrder⟩
  have inOrder := anyOrder (sv.database.table.rows sv.database.engine) (Table.perm_rows ..)
  have reached : sv.database.connect = .ok sv.database.table := rfl
  simp only [restart, restoreAll, start, reached, Table.load, inOrder, List.nil_append]
  rfl

/-- Two packages share a host, a call is turned down, and a second user's only package goes. -/
def sharedHost : List Event :=
  [.call (.addPackage ⟨some 1, some "p"⟩ (.ofNat 7) [some "b", some "a"]),
    .call (.addPackage ⟨some 1, some "q"⟩ (.ofNat 8) [some "a"]),
    .call (.setVerified ⟨some 1, some "p"⟩ (some "a")),
    .call (.setVerified ⟨some 1, some "q"⟩ (some "a")),
    .call (.setSelected ⟨some 1, some "p"⟩ (some "a")),
    .call (.setSelected ⟨some 1, some "q"⟩ (some "a")),
    .call (.setSelected ⟨some 1, some "p"⟩ (some "c")),
    .call (.addPackage ⟨some 2, some "p"⟩ (.ofNat 9) []),
    .call (.removePackage ⟨some 2, some "p"⟩)]

theorem restart_transparent_sharedHost :
    let db : Database := ⟨.byCodePoint, ∅, false⟩
    (∀ answer ∈ ((start db).run sharedHost).1, storeFault? answer = none) ∧
      ∃ restored, (((start db).run sharedHost).2.setDown false).restart =
        (.ok 2, [.info "Restored 2 package state(s)"], restored) := by
  have made : ∀ answer ∈ ((start ⟨.byCodePoint, ∅, false⟩).run sharedHost).1,
      storeFault? answer = none := by
    decide +kernel
  have two : (((start ⟨.byCodePoint, ∅, false⟩).run sharedHost).2.setDown false).registry.packageCount =
      2 := by
    decide +kernel
  have transparent := (restart_transparent .byCodePoint false sharedHost made).1
  simp only [two] at transparent
  exact ⟨made, _, transparent⟩

end Service

end LinkOwnership
