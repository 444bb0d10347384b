/-
# LinkOwnership.Proofs.LoadIsolation -- which rows a restore takes over

A table may hold anything: bytes that are no record, records under other keys, approved hosts that
are missing, and rows that stand in each other's way.  `Registry.Loaded` says what a registry is
after some of the rows: it knows nothing but rows that it `Holds`, and it holds each row but those
that an earlier one clashes with.  One more row keeps this (`Registry.Loaded.restore`).

A missing approved host is the one thing that stops a restore; without it every row is taken over
that no earlier one clashes with (`Service.restoreAll_isolated`).
-/
import LinkOwnership.Proofs.Restart

namespace LinkOwnership

set_option autoImplicit false

open LinkOwnership.Text (LooseString)

/-! ## The order of rows -/

namespace Engine

variable {e : Engine} {a b c : RowKey}

theorem keyLe_iff :
    e.keyLe a b = true ↔ a.user < b.user ∨ a.user = b.user ∧ e.le a.package b.package = true := by
  simp only [keyLe, Bool.or_eq_true, Bool.and_eq_true, decide_eq_true_eq]

theorem keyLe_trans (first : e.keyLe a b = true) (second : e.keyLe b c = true) :
    e.keyLe a c = true := by
  rw [keyLe_iff] at first second ⊢
  rcases first with less | ⟨same, before⟩
  · rcases second with less' | ⟨same', _⟩
    · exact .inl (Int.lt_trans less less')
    · exact .inl (same' ▸ less)
  · rcases second with less' | ⟨same', before'⟩
    · exact .inl (same ▸ less')
    · exact .inr ⟨same.trans same', e.le_trans _ _ _ before before'⟩

theorem keyLe_total (a b : RowKey) : (e.keyLe a b || e.keyLe b a) = true := by
  rw [Bool.or_eq_true, keyLe_iff, keyLe_iff]
  rcases Int.lt_trichotomy a.user b.user with less | same | more
  · exact .inl (.inl less)
  · refine (Bool.or_eq_true_iff.1 (e.le_total a.package b.package)).imp ?_ ?_
    · exact fun before => .inr ⟨same, before⟩
    · exact fun behind => .inr ⟨same.symm, behind⟩
  · exact .inr (.inl more)

theorem keyLe_antisymm (before : e.keyLe a b = true) (behind : e.keyLe b a = true) : a = b := by
  obtain ⟨user, package⟩ := a
  obtain ⟨user', package'⟩ := b
  rw [keyLe_iff] at before behind
  have same : user = user' := by
    rcases before with less | ⟨same, _⟩
    · rcases behind with more | ⟨same, _⟩
      · exact absurd more (Int.not_lt.2 (Int.le_of_lt less))
      · exact same.symm
    · exact same
  subst same
  have names := (before.resolve_left (Int.lt_irrefl _)).2
  have names' := (behind.resolve_left (Int.lt_irrefl _)).2
  exact congrArg (RowKey.mk user) (e.le_antisymm package package' names names')

theorem Precedes.not_precedes (before : e.Precedes a b) : ¬ e.Precedes b a :=
  fun behind => before.2 (keyLe_antisymm before.1 behind.1)

end Engine

/-- The rows are read in the order of their keys. -/
theorem Table.ordered_rows (t : Table) (e : Engine) :
    (t.rows e).Pairwise fun entry entry' => e.Precedes entry.1 entry'.1 := by
  have sorted : (t.rows e).Pairwise fun entry entry' => e.keyLe entry.1 entry'.1 = true :=
    List.pairwise_mergeSort (fun a b c => Engine.keyLe_trans (b := b.1))
      (fun a b => Engine.keyLe_total a.1 b.1) t.toList
  have distinct : (t.rows e).Pairwise fun entry entry' => entry.1 ≠ entry'.1 := by
    refine ((t.perm_rows e).pairwise_iff fun ne => ne.symm).2 ?_
    exact Std.ExtTreeMap.distinct_keys_toList.imp fun apart same =>
      apart (Std.compare_eq_iff_eq.2 same)
  exact sorted.imp₂ (fun _ _ before apart => ⟨before, apart⟩) distinct

/-! ## Rows and what they claim -/

namespace Stored

def key (s : Stored) : RowKey := ⟨s.record.user, s.record.packageName⟩

def Selects (s : Stored) (host : LooseString) : Prop := s.record.hosts.get? host = some .selected

/-- The hosts that a stored record is approved for and has as verified. -/
def approvals (s : Stored) : List LooseString :=
  Registry.approvalsOf s.record ((s.approved.filterMap id).map Host.normalize)

/-- Two records of a user claim a host that they cannot share: one has selected it, and the other
has selected it or is approved for it. -/
def Clashes (s t : Stored) : Prop :=
  s.record.user = t.record.user ∧ ∃ host,
    s.Selects host ∧ (t.Selects host ∨ host ∈ t.approvals) ∨ host ∈ s.approvals ∧ t.Selects host

end Stored

/-- A row is read when its bytes are a record that belongs under its key. -/
theorem Row.load_eq_ok_iff {key : RowKey} {row : Row} {s : Stored} :
    row.load key = .ok s ↔
      Record.decode row.record = .ok s.record ∧ s.key = key ∧ s.approved = row.approved := by
  unfold Row.load
  cases read : Record.decode row.record with
  | error fault => simp only [reduceCtorEq, false_and]
  | ok record =>
      obtain ⟨r, approved⟩ := s
      obtain ⟨user, package⟩ := key
      simp only [Stored.key, RowKey.mk.injEq, Except.ok.injEq]
      split
      · rename_i own
        simp only [Except.ok.injEq, Stored.mk.injEq]
        constructor
        · rintro ⟨rfl, rfl⟩
          exact ⟨rfl, own, rfl⟩
        · rintro ⟨rfl, _, rfl⟩
          exact ⟨rfl, rfl⟩
      · rename_i other
        simp only [reduceCtorEq, false_iff]
        rintro ⟨rfl, own, _⟩
        exact other own

/-- The table has the record in a row that can be read. -/
def Table.Lists (t : Table) (s : Stored) : Prop := ∃ row, t[s.key]? = some row ∧ row.load s.key = .ok s

theorem Table.ok_mem_load_iff {t : Table} {e : Engine} {s : Stored} :
    .ok s ∈ t.load e ↔ t.Lists s := by
  simp only [Table.load, List.mem_map, (t.perm_rows e).mem_iff, Prod.exists,
    Std.ExtTreeMap.mem_toList_iff_getElem?_eq_some]
  constructor
  · rintro ⟨key, row, found, read⟩
    obtain ⟨_, rfl, _⟩ := Row.load_eq_ok_iff.1 read
    exact ⟨row, found, read⟩
  · rintro ⟨row, found, read⟩
    exact ⟨s.key, row, found, read⟩

theorem Table.mem_filterMap_load_iff {t : Table} {e : Engine} {s : Stored} :
    s ∈ (t.load e).filterMap Except.toOption ↔ t.Lists s := by
  rw [← Table.ok_mem_load_iff (e := e), List.mem_filterMap]
  constructor
  · rintro ⟨row, member, read⟩
    cases row with
    | error warning => cases read
    | ok s' =>
        cases read
        exact member
  · exact fun member => ⟨.ok s, member, rfl⟩

/-- The records that are read come in the order of their keys. -/
theorem Table.ordered_load (t : Table) (e : Engine) :
    ((t.load e).filterMap Except.toOption).Pairwise fun s s' => e.Precedes s.key s'.key := by
  rw [Table.load, List.filterMap_map, List.pairwise_filterMap]
  refine (t.ordered_rows e).imp fun {a b} before s read s' read' => ?_
  have row {entry : RowKey × Row} {s : Stored}
      (read : (Except.toOption ∘ fun entry : RowKey × Row => entry.2.load entry.1) entry = some s) :
      s.key = entry.1 := by
    cases loaded : entry.2.load entry.1 with
    | error warning =>
        rw [Function.comp_apply, loaded] at read
        cases read
    | ok s' =>
        rw [Function.comp_apply, loaded] at read
        cases read
        exact (Row.load_eq_ok_iff.1 loaded).2.1
  rw [row read, row read']
  exact before

/-! ## What the registry holds -/

namespace Registry

variable {e : Engine} {reg reg' : Registry} {s : Stored}

/-- The registry has the record, and the approvals that the record bears out. -/
structure Holds (reg : Registry) (s : Stored) : Prop where
  record : reg.userState s.key.ref = .ok s.record
  approved : reg.approvedHosts s.key.ref = .ok s.approvals

theorem ShowsSame.holds_iff (same : ShowsSame s.key reg reg') : reg'.Holds s ↔ reg.Holds s := by
  constructor
  · rintro ⟨record, approved⟩
    exact ⟨same.record ▸ record, same.approved ▸ approved⟩
  · rintro ⟨record, approved⟩
    exact ⟨same.record.symm ▸ record, same.approved.symm ▸ approved⟩

/-- A record that is held has the slots of the hosts that it has selected. -/
theorem Holds.slot (holds : reg.Holds s) (consistent : reg.Consistent) {host : LooseString}
    (selects : s.Selects host) :
    (reg.scopeOrEmpty s.record.user).exclusive[host]? = some s.record.packageName := by
  rw [(consistent.scopeOrEmpty s.record.user).slot_iff]
  exact Scope.stateOf?_eq_some_iff.2 ⟨s.record, userState_eq_ok_iff.1 holds.record, selects⟩

/-- A record that is held shares the hosts that it is approved for. -/
theorem Holds.mem_approvedFor_iff (holds : reg.Holds s) {host : LooseString} :
    s.record.packageName ∈ (reg.scopeOrEmpty s.record.user).approvedFor host ↔
      host ∈ s.approvals := by
  have listed := Except.ok.inj ((approvedHosts_of_known holds.record).symm.trans holds.approved)
  rw [← listed, Scope.mem_approvedHosts_iff]
  rfl

/-- What a registry is after rows were taken over in the order of their keys: it knows nothing but
rows that it holds, and these are all but those that an earlier one clashes with. -/
structure Loaded (e : Engine) (done : List Stored) (reg : Registry) : Prop where
  consistent : reg.Consistent
  known : ∀ (key : RowKey) (r : Record), reg.userState key.ref = .ok r →
    ∃ s ∈ done, s.key = key ∧ s.record = r ∧ reg.Holds s
  fair : ∀ s ∈ done, reg.Holds s ↔
    ¬ ∃ t ∈ done, e.Precedes t.key s.key ∧ reg.Holds t ∧ t.Clashes s

variable {done : List Stored}

theorem loaded_empty : Loaded e [] empty where
  consistent := consistent_empty
  known key r known := by
    rw [userState_eq_ok_iff] at known
    simp [empty, scopeOrEmpty, Scope.empty] at known
  fair s member := absurd member List.not_mem_nil

/-- The holder of a slot is a row that selects the host. -/
theorem Loaded.holder (loaded : Loaded e done reg) {user : Int} {host : LooseString} {q : String}
    (held : (reg.scopeOrEmpty user).exclusive[host]? = some q) :
    ∃ t ∈ done, reg.Holds t ∧ t.record.user = user ∧ t.Selects host := by
  rw [(loaded.consistent.scopeOrEmpty user).slot_iff, Scope.stateOf?_eq_some_iff] at held
  obtain ⟨r, known, selected⟩ := held
  obtain ⟨t, member, same, rfl, holds⟩ :=
    loaded.known ⟨user, q⟩ r (userState_eq_ok_iff.2 known)
  exact ⟨t, member, holds, (RowKey.mk.inj same).1, selected⟩

/-- Who shares a host is a row that is approved for it. -/
theorem Loaded.sharer (loaded : Loaded e done reg) {user : Int} {host : LooseString} {q : String}
    (shared : q ∈ (reg.scopeOrEmpty user).approvedFor host) :
    ∃ t ∈ done, reg.Holds t ∧ t.record.user = user ∧ host ∈ t.approvals := by
  have verified := (loaded.consistent.scopeOrEmpty user).verified host q shared
  obtain ⟨r, known, _⟩ := Scope.stateOf?_eq_some_iff.1 verified
  obtain ⟨t, member, same, rfl, holds⟩ :=
    loaded.known ⟨user, q⟩ r (userState_eq_ok_iff.2 known)
  obtain ⟨rfl, rfl⟩ := RowKey.mk.inj same
  exact ⟨t, member, holds, rfl, holds.mem_approvedFor_iff.1 shared⟩

/-- Nobody stands in the way of the next row exactly when no row that is held clashes with it. -/
theorem Loaded.room_iff (loaded : Loaded e done reg) (new : ∀ t ∈ done, t.key ≠ s.key) :
    (reg.scopeOrEmpty s.record.user).conflict? s.record s.approvals = none ↔
      ¬ ∃ t ∈ done, reg.Holds t ∧ t.Clashes s := by
  rw [Scope.conflict?_eq_none_iff]
  constructor
  · rintro ⟨bySelected, byApproved⟩ ⟨t, member, holds, sameUser, host, clash⟩
    have own (same : t.record.packageName = s.record.packageName) : False :=
      new t member (by rw [Stored.key, Stored.key, sameUser, same])
    rcases clash with ⟨selects, selected | approved⟩ | ⟨approved, selected⟩
    · have slot := holds.slot loaded.consistent selects
      rw [sameUser] at slot
      exact own ((bySelected host selected).1 _ slot)
    · have slot := holds.slot loaded.consistent selects
      rw [sameUser] at slot
      exact own (byApproved host approved _ slot)
    · have shared := holds.mem_approvedFor_iff.2 approved
      rw [sameUser] at shared
      exact own ((bySelected host selected).2 _ shared)
  · intro free
    refine ⟨fun host selected => ⟨fun q held => ?_, fun q shared => ?_⟩, fun host approved q held => ?_⟩
    · obtain ⟨t, member, holds, user, selects⟩ := loaded.holder held
      exact absurd ⟨t, member, holds, user, host, Or.inl ⟨selects, Or.inl selected⟩⟩ free
    · obtain ⟨t, member, holds, user, shares⟩ := loaded.sharer shared
      exact absurd ⟨t, member, holds, user, host, Or.inr ⟨shares, selected⟩⟩ free
    · obtain ⟨t, member, holds, user, selects⟩ := loaded.holder held
      exact absurd ⟨t, member, holds, user, host, Or.inl ⟨selects, Or.inr approved⟩⟩ free

/-- One more row was looked at, behind all others: it is held or not, and the others are as before. -/
theorem Loaded.extend (loaded : Loaded e done reg) (consistent : reg'.Consistent)
    (last : ∀ t ∈ done, e.Precedes t.key s.key)
    (others : ∀ key : RowKey, key ≠ s.key → ShowsSame key reg reg')
    (own : ∀ r, reg'.userState s.key.ref = .ok r → s.record = r ∧ reg'.Holds s)
    (fair : reg'.Holds s ↔ ¬ ∃ t ∈ done, reg.Holds t ∧ t.Clashes s) :
    Loaded e (done ++ [s]) reg' := by
  have apart : ∀ t ∈ done, t.key ≠ s.key := fun t member => (last t member).2
  have kept : ∀ t ∈ done, reg'.Holds t ↔ reg.Holds t :=
    fun t member => (others t.key (apart t member)).holds_iff
  refine ⟨consistent, fun key r known => ?_, fun u member => ?_⟩
  · by_cases here : key = s.key
    · subst here
      obtain ⟨same, holds⟩ := own r known
      exact ⟨s, List.mem_append_right _ (List.mem_singleton_self s), rfl, same, holds⟩
    · rw [(others key here).record] at known
      obtain ⟨t, member, same, record, holds⟩ := loaded.known key r known
      exact ⟨t, List.mem_append_left _ member, same, record, (kept t member).2 holds⟩
  · rcases List.mem_append.1 member with old | new
    · -- The new row comes behind the old one, so it is not among those before it.
      rw [kept u old, loaded.fair u old]
      refine not_congr ⟨?_, ?_⟩
      · rintro ⟨t, before, less, holds, clash⟩
        exact ⟨t, List.mem_append_left _ before, less, (kept t before).2 holds, clash⟩
      · rintro ⟨t, before, less, holds, clash⟩
        rcases List.mem_append.1 before with before | new
        · exact ⟨t, before, less, (kept t before).1 holds, clash⟩
        · obtain rfl := List.mem_singleton.1 new
          exact absurd less (last u old).not_precedes
    · obtain rfl := List.mem_singleton.1 new
      rw [fair]
      refine not_congr ⟨?_, ?_⟩
      · rintro ⟨t, before, holds, clash⟩
        exact ⟨t, List.mem_append_left _ before, last t before, (kept t before).2 holds, clash⟩
      · rintro ⟨t, before, less, holds, clash⟩
        rcases List.mem_append.1 before with before | same
        · exact ⟨t, before, (kept t before).1 holds, clash⟩
        · exact absurd (congrArg Stored.key (List.mem_singleton.1 same)) less.2

/-! ## Taking one row over -/

/-- A record in normal form with a missing approved host is turned down. -/
theorem restore_of_missing (normal : s.record.Normal) (missing : none ∈ s.approved) :
    reg.restore s.record.toDraft s.approved = (.error (.missing .host), reg) := by
  simp only [restore, Draft.copy_eq_ok_iff.2 (Record.build_toDraft normal), normalizeAll?,
    mapM_normalize?, if_pos missing]

/-- Without one it is taken over, unless somebody stands in the way. -/
theorem restore_of_given (normal : s.record.Normal) (given : none ∉ s.approved) :
    reg.restore s.record.toDraft s.approved =
      match (reg.scopeOrEmpty s.record.user).conflict? s.record s.approvals with
      | some why => (.error why, reg)
      | none => (.ok (), reg.putScope s.record.user
          ((reg.scopeOrEmpty s.record.user).install s.record s.approvals)) :=
  restore_of_build (Record.build_toDraft normal) given

/-- A row that was taken over is held. -/
theorem holds_install (consistent : reg.Consistent) :
    (reg.putScope s.record.user
      ((reg.scopeOrEmpty s.record.user).install s.record s.approvals)).Holds s := by
  have record : (reg.putScope s.record.user
      ((reg.scopeOrEmpty s.record.user).install s.record s.approvals)).userState s.key.ref =
        .ok s.record := by
    rw [userState_eq_ok_iff]
    show ((reg.putScope s.record.user _).scopeOrEmpty s.record.user).packages[_]? = _
    rw [scopeOrEmpty_putScope, Scope.getElem?_install]
    exact if_pos rfl
  refine ⟨record, ?_⟩
  rw [approvedHosts_of_known record]
  refine congrArg Except.ok (eq_of_ordered (Scope.ordered_approvedHosts _ _)
    (Std.ExtTreeSet.ordered_toList.filter _) fun host => ?_)
  rw [Scope.mem_approvedHosts_iff]
  show s.record.packageName ∈
    ((reg.putScope s.record.user _).scopeOrEmpty s.record.user).approvedFor host ↔ host ∈ s.approvals
  rw [scopeOrEmpty_putScope]
  exact ((consistent.scopeOrEmpty s.record.user).own_install s.record s.approvals host).2

/-- A row none of whose approved hosts is missing is taken over, or somebody stands in the way. -/
theorem restore_stored (consistent : reg.Consistent) (normal : s.record.Normal)
    (given : none ∉ s.approved) :
    let conflict := (reg.scopeOrEmpty s.record.user).conflict? s.record s.approvals
    (∃ reg', reg.restore s.record.toDraft s.approved = (.ok (), reg') ∧ conflict = none ∧
      reg'.Consistent ∧ reg'.Holds s ∧ ∀ key : RowKey, key ≠ s.key → ShowsSame key reg reg') ∨
    ∃ host owner, reg.restore s.record.toDraft s.approved = (.error (.hostOwned host owner), reg) ∧
      conflict ≠ none := by
  intro conflict
  have edits := restore_edits consistent s.record.toDraft s.approved
  rw [restore_of_given normal given] at edits ⊢
  cases found : (reg.scopeOrEmpty s.record.user).conflict? s.record s.approvals with
  | some why =>
      obtain ⟨host, owner, rfl⟩ := Scope.conflict?_eq_some found
      exact Or.inr ⟨host, owner, rfl, fun none => nomatch found.symm.trans none⟩
  | none =>
      rw [found] at edits
      cases edits with
      | made _ names only after _ =>
          cases names
          exact Or.inl ⟨_, rfl, found, after, holds_install consistent,
            fun key other => only.shows_same other⟩

/-- One more row, behind those that were looked at, is taken over or stands in the way. -/
theorem Loaded.restore (loaded : Loaded e done reg) (last : ∀ t ∈ done, e.Precedes t.key s.key)
    (normal : s.record.Normal) (given : none ∉ s.approved) :
    (∃ reg', reg.restore s.record.toDraft s.approved = (.ok (), reg') ∧
        Loaded e (done ++ [s]) reg') ∨
      ∃ host owner, reg.restore s.record.toDraft s.approved = (.error (.hostOwned host owner), reg) ∧
        Loaded e (done ++ [s]) reg := by
  have new : ∀ t ∈ done, t.key ≠ s.key := fun t member => (last t member).2
  have unknown (r : Record) : reg.userState s.key.ref ≠ .ok r := by
    intro known
    obtain ⟨t, member, same, _⟩ := loaded.known s.key r known
    exact new t member same
  have room := loaded.room_iff (s := s) new
  rcases restore_stored loaded.consistent normal given with
    ⟨reg', made, clear, consistent, holds, others⟩ | ⟨host, owner, refused, rival⟩
  · refine Or.inl ⟨reg', made, loaded.extend consistent last others (fun r known => ?_) ?_⟩
    · exact ⟨Except.ok.inj (holds.record.symm.trans known), holds⟩
    · exact iff_of_true holds (room.1 clear)
  · refine Or.inr ⟨host, owner, refused, loaded.extend loaded.consistent last
      (fun key _ => ⟨rfl, rfl⟩) (fun r known => absurd known (unknown r)) ?_⟩
    exact iff_of_false (fun holds => unknown _ holds.record) (mt room.2 rival)

end Registry

/-! ## Taking all rows over -/

namespace Service

open Registry (Loaded)

variable {e : Engine} {reg : Registry} {rows : List (Except LogEntry Stored)}

/-- When no row is without an approved host, all rows are looked at. -/
theorem restoreEach_loaded {done : List Stored} (loaded : Loaded e done reg)
    (normal : ∀ s, .ok s ∈ rows → s.record.Normal) (given : ∀ s, .ok s ∈ rows → none ∉ s.approved)
    (ordered : (done ++ rows.filterMap Except.toOption).Pairwise
      fun s s' => e.Precedes s.key s'.key) (n : Nat) :
    ∃ n' logs reg', restoreEach n reg rows = (.ok n', logs, reg') ∧
      Loaded e (done ++ rows.filterMap Except.toOption) reg' := by
  induction rows generalizing done reg n with
  | nil =>
      rw [List.filterMap_nil, List.append_nil]
      exact ⟨n, [], reg, rfl, loaded⟩
  | cons row rest ih =>
      have normalRest (s : Stored) (member : .ok s ∈ rest) := normal s (List.mem_cons_of_mem _ member)
      have givenRest (s : Stored) (member : .ok s ∈ rest) := given s (List.mem_cons_of_mem _ member)
      cases row with
      | error skipped =>
          obtain ⟨n', logs, reg', others, all⟩ := ih loaded normalRest givenRest ordered n
          exact ⟨n', skipped :: logs, reg', by simp only [restoreEach, others], all⟩
      | ok s =>
          have split : done ++ (.ok s :: rest).filterMap Except.toOption =
              (done ++ [s]) ++ rest.filterMap Except.toOption := by
            rw [List.append_assoc]
            rfl
          rw [split] at ordered ⊢
          have last : ∀ t ∈ done, e.Precedes t.key s.key := by
            intro t member
            have front := (List.pairwise_append.1 ordered).1
            exact (List.pairwise_append.1 front).2.2 t member s (List.mem_singleton_self s)
          have here := loaded.restore last (normal s (List.mem_cons_self ..))
            (given s (List.mem_cons_self ..))
          obtain ⟨middle, restored, grown⟩ | ⟨host, owner, refused, grown⟩ := here
          · obtain ⟨n', logs, reg', others, all⟩ := ih grown normalRest givenRest ordered (n + 1)
            exact ⟨n', logs, reg', by simp only [restoreEach, restored, others], all⟩
          · obtain ⟨n', logs, reg', others, all⟩ := ih grown normalRest givenRest ordered n
            exact ⟨n', conflictWarning s.record (.hostOwned host owner) :: logs, reg',
              by simp only [restoreEach, refused, others], all⟩

/-- A row without one of its approved hosts stops the rest. -/
theorem restoreEach_stops (normal : ∀ s, .ok s ∈ rows → s.record.Normal)
    (missing : ∃ s, .ok s ∈ rows ∧ none ∈ s.approved) (n : Nat) :
    (restoreEach n reg rows).1 = .error (.missing .host) := by
  induction rows generalizing reg n with
  | nil => exact absurd missing.choose_spec.1 List.not_mem_nil
  | cons row rest ih =>
      have normalRest (s : Stored) (member : .ok s ∈ rest) := normal s (List.mem_cons_of_mem _ member)
      cases row with
      | error skipped =>
          obtain ⟨s, member, absent⟩ := missing
          rw [restoreEach]
          refine ih normalRest ⟨s, (List.mem_cons.1 member).resolve_left fun same => ?_, absent⟩ n
          cases same
      | ok s =>
          have own := normal s (List.mem_cons_self ..)
          by_cases absent : none ∈ s.approved
          · simp only [restoreEach, Registry.restore_of_missing own absent]
          · have behind : ∃ s, .ok s ∈ rest ∧ none ∈ s.approved := by
              obtain ⟨s', member, absent'⟩ := missing
              refine ⟨s', (List.mem_cons.1 member).resolve_left fun same => ?_, absent'⟩
              cases same
              exact absent absent'
            simp only [restoreEach, Registry.restore_of_given own absent]
            cases conflict : (reg.scopeOrEmpty s.record.user).conflict? s.record s.approvals with
            | none => exact ih normalRest behind (n + 1)
            | some why =>
                obtain ⟨host, owner, rfl⟩ := Scope.conflict?_eq_some conflict
                exact ih normalRest behind n

/-- Restoring a table that can be reached stops only for a missing approved host in a row that can
be read.  Otherwise every such row is taken over, but for those that an earlier row of the user that
was taken over clashes with. -/
theorem restoreAll_isolated (e : Engine) (table : Table) :
    let outcome := (start ⟨e, table, false⟩).restoreAll
    ((∃ n, outcome.1 = .ok n) ↔ ∀ s, table.Lists s → none ∉ s.approved) ∧
      (∀ why, outcome.1 = .error why → why = .rejected (.missing .host)) ∧
      ∀ n, outcome.1 = .ok n → ∀ s, table.Lists s →
        (outcome.2.2.registry.Holds s ↔
          ¬ ∃ t, table.Lists t ∧ e.Precedes t.key s.key ∧ outcome.2.2.registry.Holds t ∧
            t.Clashes s) := by
  intro outcome
  have normal : ∀ s, .ok s ∈ table.load e → s.record.Normal := by
    intro s member
    obtain ⟨row, _, read⟩ := Table.ok_mem_load_iff.1 member
    exact Record.normal_of_decode (Row.load_eq_ok_iff.1 read).1
  by_cases given : ∀ s, table.Lists s → none ∉ s.approved
  · obtain ⟨n, logs, reg, restored, loaded⟩ := restoreEach_loaded Registry.loaded_empty normal
      (fun s member => given s (Table.ok_mem_load_iff.1 member)) (table.ordered_load e) 0
    have answer : outcome.1 = .ok n := by
      simp only [outcome, restoreAll, start, Database.connect, Bool.false_eq_true, if_false, restored]
    have after : outcome.2.2.registry = reg := by
      simp only [outcome, restoreAll, start, Database.connect, Bool.false_eq_true, if_false, restored]
    refine ⟨iff_of_true ⟨n, answer⟩ given, fun why failed => ?_, fun n' _ s listed => ?_⟩
    · rw [answer] at failed
      cases failed
    · have fair := loaded.fair s (Table.mem_filterMap_load_iff.2 listed)
      simp only [List.nil_append, Table.mem_filterMap_load_iff] at fair
      rw [after]
      exact fair
  · have missing : ∃ s, .ok s ∈ table.load e ∧ none ∈ s.approved := by
      obtain ⟨s, both⟩ := Classical.not_forall.1 given
      obtain ⟨listed, absent⟩ := Classical.not_imp.1 both
      exact ⟨s, Table.ok_mem_load_iff.2 listed, Classical.not_not.1 absent⟩
    have stopped : (restoreEach 0 .empty (table.load e)).1 = _ := restoreEach_stops normal missing 0
    have answer : outcome.1 = .error (.rejected (.missing .host)) := by
      simp only [outcome, restoreAll, start, Database.connect, Bool.false_eq_true, if_false]
      cases restored : restoreEach 0 .empty (table.load e) with
      | mk answer rest =>
          rw [restored] at stopped
          cases stopped
          rfl
    refine ⟨iff_of_false (fun restored => ?_) given, fun why failed => ?_, fun n made => ?_⟩
    · obtain ⟨n, made⟩ := restored
      rw [answer] at made
      cases made
    · rw [answer] at failed
      cases failed
      rfl
    · rw [answer] at made
      cases made

end Service

end LinkOwnership
