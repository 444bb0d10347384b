/-
# LinkOwnership.Proofs.TableRestore -- what comes of any table

A table may hold anything, but for approved hosts that are missing.  Rows that cannot be read are of
no consequence: without them the same registry comes of it and the same number is answered
(`Service.restoreEach_readable`).  The number is that of the packages in the registry, since each row
that is taken over brings one package that was not there before (`Service.restoreEach_counts`).

Each package has what its own row says, and a row that can be read is left out exactly when a row
before it that was taken over clashes with it (`Service.restoreAll_of_any_table`).
-/
import LinkOwnership.Proofs.LoadIsolation
import LinkOwnership.Proofs.Takeover

namespace LinkOwnership

set_option autoImplicit false

open LinkOwnership.Text (LooseString)

/-! ## Rows that can be read -/

/-- The bytes of a row are a record, and the record belongs under the key. -/
def Row.isIntact (key : RowKey) (row : Row) : Bool :=
  match Record.decode row.record with
  | .ok r => r.user = key.user ∧ r.packageName = key.package
  | .error _ => false

theorem Row.isIntact_eq (key : RowKey) (row : Row) : row.isIntact key = (row.load key).isOk := by
  unfold isIntact load
  cases Record.decode row.record with
  | error fault => rfl
  | ok r =>
      simp only
      split
      · rename_i own
        exact decide_eq_true own
      · rename_i other
        exact decide_eq_false other

namespace Table

variable {t : Table} {s s' : Stored}

/-- The table without the rows that cannot be read. -/
def intact (t : Table) : Table := t.filter Row.isIntact

/-- Without the rows that cannot be read, the others come in the same order. -/
theorem rows_intact (t : Table) (e : Engine) :
    t.intact.rows e = (t.rows e).filter fun entry => entry.2.isIntact entry.1 := by
  have kept : t.intact.toList = t.toList.filter fun entry => entry.2.isIntact entry.1 :=
    Std.ExtTreeMap.toList_filter
  have perm := ((t.perm_rows e).filter fun entry => entry.2.isIntact entry.1).symm
  rw [← kept] at perm
  refine ((t.intact.perm_rows e).trans perm).eq_of_pairwise (fun a b _ _ before behind => ?_)
    (t.intact.ordered_rows e) ((t.ordered_rows e).filter _)
  exact absurd behind before.not_precedes

theorem load_intact (t : Table) (e : Engine) : t.intact.load e = (t.load e).filter Except.isOk := by
  rw [load, rows_intact, load, List.filter_map]
  refine congrArg _ (List.filter_congr fun entry _ => ?_)
  exact Row.isIntact_eq entry.1 entry.2

theorem Lists.unique (lists : t.Lists s) (lists' : t.Lists s') (same : s.key = s'.key) : s = s' := by
  obtain ⟨row, found, read⟩ := lists
  obtain ⟨row', found', read'⟩ := lists'
  rw [same] at found read
  obtain rfl := Option.some.inj (found.symm.trans found')
  exact Except.ok.inj (read.symm.trans read')

end Table

namespace Stored

variable {s t : Stored}

theorem mem_approvals_iff {host : LooseString} :
    host ∈ s.approvals ↔ s.record.BearsOut (s.approved.filterMap id) host :=
  Registry.mem_approvalsOf_normalize

/-- Of the rows of one user, the one with the lesser name comes first. -/
theorem precedes_key_of_user {e : Engine} (sameUser : t.record.user = s.record.user) :
    e.Precedes t.key s.key ↔ e.Lesser t.record.packageName s.record.packageName := by
  have keys : t.key = s.key ↔ t.record.packageName = s.record.packageName := by
    rw [key, key, RowKey.mk.injEq, and_iff_right sameUser]
  have names : e.keyLe t.key s.key = true ↔
      e.le t.record.packageName s.record.packageName = true := by
    rw [Engine.keyLe_iff]
    refine ⟨fun before => ?_, fun before => .inr ⟨sameUser, before⟩⟩
    exact (before.resolve_left fun less => Int.ne_of_lt less sameUser).2
  exact and_congr names (not_congr keys)

end Stored

/-! ## The packages of a registry -/

namespace Registry

variable {reg reg' : Registry} {s : Stored}

theorem mem_rowKeys_iff_known {key : RowKey} :
    key ∈ reg.rowKeys ↔ ∃ r, reg.userState key.ref = .ok r := by
  simp only [mem_rowKeys_iff, userState_eq_ok_iff]

/-- A package that was not known before is one more. -/
theorem packageCount_of_new (unknown : ∀ r, reg.userState s.key.ref ≠ .ok r) (holds : reg'.Holds s)
    (others : ∀ key : RowKey, key ≠ s.key → ShowsSame key reg reg') :
    reg'.packageCount = reg.packageCount + 1 := by
  have fresh : s.key ∉ reg.rowKeys := by
    rw [mem_rowKeys_iff_known]
    exact fun ⟨r, known⟩ => unknown r known
  have keys : reg'.rowKeys.Perm (s.key :: reg.rowKeys) := by
    refine (List.perm_ext_iff_of_nodup (nodup_rowKeys reg')
      (List.nodup_cons.2 ⟨fresh, nodup_rowKeys reg⟩)).2 fun key => ?_
    rw [List.mem_cons, mem_rowKeys_iff_known, mem_rowKeys_iff_known]
    by_cases own : key = s.key
    · subst own
      exact iff_of_true ⟨_, holds.record⟩ (Or.inl rfl)
    · rw [(others key own).record, or_iff_right own]
  rw [← length_rowKeys, ← length_rowKeys, keys.length_eq, List.length_cons]

end Registry

/-! ## Taking the rows over -/

namespace Service

open Registry (Loaded)

variable {e : Engine} {reg : Registry} {rows : List (Except LogEntry Stored)}

/-- Rows that cannot be read change neither the registry nor the number that is answered. -/
theorem restoreEach_readable (rows : List (Except LogEntry Stored)) (n : Nat) (reg : Registry) :
    (restoreEach n reg (rows.filter Except.isOk)).1 = (restoreEach n reg rows).1 ∧
      (restoreEach n reg (rows.filter Except.isOk)).2.2 = (restoreEach n reg rows).2.2 := by
  induction rows generalizing n reg with
  | nil => exact ⟨rfl, rfl⟩
  | cons row rest ih =>
      cases row with
      | error skipped => exact ih n reg
      | ok stored =>
          have kept : (Except.ok stored :: rest).filter Except.isOk =
              .ok stored :: rest.filter Except.isOk := rfl
          rw [kept, restoreEach, restoreEach]
          split
          · exact ih (n + 1) _
          · split
            · exact ih n _
            · exact ⟨rfl, rfl⟩

/-- The number that is answered goes up as the packages do, when no row is about a package that is
known, and no two are about the same one. -/
theorem restoreEach_counts (consistent : reg.Consistent)
    (normal : ∀ s, .ok s ∈ rows → s.record.Normal) (given : ∀ s, .ok s ∈ rows → none ∉ s.approved)
    (unknown : ∀ s, .ok s ∈ rows → ∀ r, reg.userState s.key.ref ≠ .ok r)
    (distinct : (rows.filterMap Except.toOption).Pairwise fun s s' => s.key ≠ s'.key)
    {n n' : Nat} (restored : (restoreEach n reg rows).1 = .ok n') :
    n' + reg.packageCount = n + (restoreEach n reg rows).2.2.packageCount := by
  induction rows generalizing reg n with
  | nil =>
      cases restored
      rfl
  | cons row rest ih =>
      have normalRest (s : Stored) (member : .ok s ∈ rest) := normal s (List.mem_cons_of_mem _ member)
      have givenRest (s : Stored) (member : .ok s ∈ rest) := given s (List.mem_cons_of_mem _ member)
      have unknownRest (s : Stored) (member : .ok s ∈ rest) :=
        unknown s (List.mem_cons_of_mem _ member)
      cases row with
      | error skipped => exact ih consistent normalRest givenRest unknownRest distinct restored
      | ok s =>
          obtain ⟨apart, distinctRest⟩ := List.pairwise_cons.1 distinct
          rcases Registry.restore_stored consistent (normal s List.mem_cons_self)
              (given s List.mem_cons_self) with
            ⟨reg₁, made, _, consistent₁, holds, others⟩ | ⟨host, owner, refused, _⟩
          · -- Only the package of this row became known, and the rows behind it are about others.
            have unknown₁ (t : Stored) (member : .ok t ∈ rest) (r : Record) :
                reg₁.userState t.key.ref ≠ .ok r := by
              have other : t.key ≠ s.key :=
                (apart t (List.mem_filterMap.2 ⟨.ok t, member, rfl⟩)).symm
              rw [(others t.key other).record]
              exact unknownRest t member r
            have more := Registry.packageCount_of_new (unknown s List.mem_cons_self) holds others
            have step : restoreEach n reg (.ok s :: rest) = restoreEach (n + 1) reg₁ rest := by
              rw [restoreEach, made]
            rw [step] at restored ⊢
            have later := ih consistent₁ normalRest givenRest unknown₁ distinctRest restored
            omega
          · rw [restoreEach, refused] at restored ⊢
            exact ih consistent normalRest givenRest unknownRest distinctRest restored

/-- A service that starts over a table has what the rows give. -/
theorem restoreAll_start (e : Engine) (table : Table) :
    (start ⟨e, table, false⟩).restoreAll.1 =
        (restoreEach 0 .empty (table.load e)).1.mapError Fault.rejected ∧
      (start ⟨e, table, false⟩).restoreAll.2.2.registry = (restoreEach 0 .empty (table.load e)).2.2 := by
  have reached : (⟨e, table, false⟩ : Database).connect = .ok table := rfl
  simp only [restoreAll, start, reached]
  rcases restoreEach 0 .empty (table.load e) with ⟨answer, logs, reg⟩
  cases answer <;> exact ⟨rfl, rfl⟩

/-! ## What the registry is then -/

variable {table : Table} {s : Stored}

/-- A row that can be read was taken over when its package is known. -/
theorem known_iff_holds (loaded : Loaded e ((table.load e).filterMap Except.toOption) reg)
    (listed : table.Lists s) : (∃ r, reg.userState s.key.ref = .ok r) ↔ reg.Holds s := by
  constructor
  · rintro ⟨r, known⟩
    obtain ⟨t, member, same, _, holds⟩ := loaded.known s.key r known
    obtain rfl := (Table.mem_filterMap_load_iff.1 member).unique listed same
    exact holds
  · exact fun holds => ⟨s.record, holds.record⟩

/-- A package has what its own row says. -/
theorem row_of_known (loaded : Loaded e ((table.load e).filterMap Except.toOption) reg) {key : RowKey}
    {r : Record} (known : reg.userState key.ref = .ok r) :
    ∃ row hosts, table[key]? = some row ∧ Record.decode row.record = .ok r ∧
      reg.approvedHosts key.ref = .ok hosts ∧
        ∀ host, host ∈ hosts ↔ r.BearsOut (row.approved.filterMap id) host := by
  obtain ⟨s, member, rfl, rfl, holds⟩ := loaded.known key r known
  obtain ⟨row, found, read⟩ := Table.mem_filterMap_load_iff.1 member
  obtain ⟨decoded, _, same⟩ := Row.load_eq_ok_iff.1 read
  refine ⟨row, s.approvals, found, decoded, holds.approved, fun host => ?_⟩
  rw [← same]
  exact Stored.mem_approvals_iff

/-- A row that can be read is left out for a clash with a row before it that was taken over, and for
nothing else. -/
theorem left_out_iff (loaded : Loaded e ((table.load e).filterMap Except.toOption) reg)
    (listed : table.Lists s) :
    (∀ r, reg.userState s.key.ref ≠ .ok r) ↔
      ∃ t, table.Lists t ∧ (∃ r, reg.userState t.key.ref = .ok r) ∧
        e.Lesser t.record.packageName s.record.packageName ∧ t.Clashes s := by
  have fair := loaded.fair s (Table.mem_filterMap_load_iff.2 listed)
  rw [← not_exists, known_iff_holds loaded listed, fair, not_not]
  refine exists_congr fun t => ?_
  rw [Table.mem_filterMap_load_iff]
  constructor
  · rintro ⟨there, less, holds, clash⟩
    exact ⟨there, (known_iff_holds loaded there).2 holds,
      (Stored.precedes_key_of_user clash.1).1 less, clash⟩
  · rintro ⟨there, known, less, clash⟩
    exact ⟨there, (Stored.precedes_key_of_user clash.1).2 less,
      (known_iff_holds loaded there).1 known, clash⟩

/-- When no row is without an approved host, the rows of a table lead to a registry that has as many
packages as are counted. -/
theorem exists_loaded (e : Engine) (given : ∀ (key : RowKey) (row : Row), table[key]? = some row →
    none ∉ row.approved) :
    ∃ logs reg, restoreEach 0 .empty (table.load e) = (.ok reg.packageCount, logs, reg) ∧
      Loaded e ((table.load e).filterMap Except.toOption) reg := by
  have normal (s : Stored) (member : .ok s ∈ table.load e) : s.record.Normal := by
    obtain ⟨row, _, read⟩ := Table.ok_mem_load_iff.1 member
    exact Record.normal_of_decode (Row.load_eq_ok_iff.1 read).1
  have approved (s : Stored) (member : .ok s ∈ table.load e) : none ∉ s.approved := by
    obtain ⟨row, found, read⟩ := Table.ok_mem_load_iff.1 member
    rw [(Row.load_eq_ok_iff.1 read).2.2]
    exact given s.key row found
  have unknown (s : Stored) (_ : .ok s ∈ table.load e) (r : Record) :
      Registry.empty.userState s.key.ref ≠ .ok r := by
    intro known
    obtain ⟨_, member, _⟩ := (Registry.loaded_empty (e := e)).known s.key r known
    exact absurd member List.not_mem_nil
  have ordered := table.ordered_load e
  obtain ⟨n, logs, reg, restored, loaded⟩ :=
    restoreEach_loaded Registry.loaded_empty normal approved ordered 0
  have counted := restoreEach_counts Registry.consistent_empty normal approved unknown
    (ordered.imp And.right) (congrArg Prod.fst restored)
  have none : Registry.empty.packageCount = 0 := by cbv
  rw [restored, none, Nat.add_zero, Nat.zero_add] at counted
  exact ⟨logs, reg, counted ▸ restored, loaded⟩

/-- Restoring a table that can be reached, none of whose rows is without an approved host, answers the
number of the packages that the registry then has.  The rows that cannot be read make no difference to
either.  Each package has the record that its own row holds, and is approved for the hosts that its
row lists in some spelling and its record has as verified.  A row that can be read is left out exactly
when it clashes with a row of the user that was taken over and has a lesser name. -/
theorem restoreAll_of_any_table (e : Engine) (table : Table)
    (given : ∀ (key : RowKey) (row : Row), table[key]? = some row → none ∉ row.approved) :
    let outcome := (start ⟨e, table, false⟩).restoreAll
    let readable := (start ⟨e, table.intact, false⟩).restoreAll
    let reg := outcome.2.2.registry
    (readable.1 = outcome.1 ∧ readable.2.2.registry = reg) ∧
    outcome.1 = .ok reg.packageCount ∧
    (∀ (key : RowKey) (r : Record), reg.userState key.ref = .ok r →
      ∃ row hosts, table[key]? = some row ∧ Record.decode row.record = .ok r ∧
        reg.approvedHosts key.ref = .ok hosts ∧
          ∀ host, host ∈ hosts ↔ r.BearsOut (row.approved.filterMap id) host) ∧
    ∀ s, table.Lists s →
      ((∀ r, reg.userState s.key.ref ≠ .ok r) ↔
        ∃ t, table.Lists t ∧ (∃ r, reg.userState t.key.ref = .ok r) ∧
          e.Lesser t.record.packageName s.record.packageName ∧ t.Clashes s) := by
  intro outcome readable reg
  obtain ⟨logs, reg₁, restored, loaded⟩ := exists_loaded e given
  obtain ⟨answers, registries⟩ := restoreEach_readable (table.load e) 0 .empty
  rw [← Table.load_intact] at answers registries
  obtain ⟨answer, after⟩ := restoreAll_start e table
  obtain ⟨answer', after'⟩ := restoreAll_start e table.intact
  have readably : readable.1 = outcome.1 := by rw [answer, answer', answers]
  rw [restored] at answer after registries
  obtain rfl : reg = reg₁ := after
  exact ⟨⟨readably, after'.trans registries⟩, answer, fun key r known => row_of_known loaded known,
    fun s listed => left_out_iff loaded listed⟩

/-- A package that holds one host and shares another. -/
def keeper : Record := ⟨.ofNat 7, "a", 1, true, ⟨[("h", .selected), ("k", .verified)], by decide⟩⟩

/-- A package that claims the same slot. -/
def claimant : Record := ⟨.ofNat 8, "b", 1, true, ⟨[("h", .selected)], by decide⟩⟩

/-- A row with the stored form of a record. -/
def rowOf (r : Record) (approved : List LooseString) : Row :=
  ⟨r.encode.toOption.getD [], approved.map some⟩

/-- Two rows clash, one is no record, and one has a record that belongs elsewhere. -/
def damaged : Table :=
  ((((∅ : Table).insert ⟨1, "a"⟩ (rowOf keeper [" K ", "h"])).insert ⟨1, "b"⟩ (rowOf claimant [])).insert
    ⟨1, "c"⟩ ⟨[1], []⟩).insert ⟨1, "d"⟩ (rowOf keeper [])

/-- The first row is taken over, and the second is left out for it. -/
theorem restoreAll_of_any_table_damaged :
    let outcome := (start ⟨.byCodePoint, damaged, false⟩).restoreAll
    (∀ (key : RowKey) (row : Row), damaged[key]? = some row → none ∉ row.approved) ∧
      (start ⟨.byCodePoint, damaged.intact, false⟩).restoreAll.1 = outcome.1 ∧
        outcome.1 = .ok outcome.2.2.registry.packageCount ∧
          (∃ r, outcome.2.2.registry.userState ⟨some 1, some "a"⟩ = .ok r) ∧
            ∀ r, outcome.2.2.registry.userState ⟨some 1, some "b"⟩ ≠ .ok r := by
  have given (key : RowKey) (row : Row) (found : damaged[key]? = some row) : none ∉ row.approved := by
    have every : ∀ entry ∈ damaged.toList, none ∉ entry.2.approved := by decide +kernel
    exact every (key, row) (Std.ExtTreeMap.mem_toList_iff_getElem?_eq_some.2 found)
  have least (t : Stored) (listed : damaged.Lists t) : ¬ Engine.byCodePoint.Lesser t.record.packageName "a" := by
    obtain ⟨row, found, _⟩ := listed
    have every : ∀ entry ∈ damaged.toList,
        Engine.byCodePoint.le entry.1.package "a" = true → entry.1.package = "a" := by
      decide +kernel
    intro ⟨before, other⟩
    exact other (every (t.key, row) (Std.ExtTreeMap.mem_toList_iff_getElem?_eq_some.2 found) before)
  have listsA : damaged.Lists ⟨keeper, [some " K ", some "h"]⟩ :=
    ⟨rowOf keeper [" K ", "h"], by decide +kernel, by cbv⟩
  have listsB : damaged.Lists ⟨claimant, []⟩ := ⟨rowOf claimant [], by decide +kernel, by cbv⟩
  obtain ⟨⟨answer, _⟩, counted, _, leftOut⟩ := restoreAll_of_any_table .byCodePoint damaged given
  have known : ∃ r, (start ⟨.byCodePoint, damaged, false⟩).restoreAll.2.2.registry.userState
      ⟨some 1, some "a"⟩ = .ok r := by
    by_contra none
    obtain ⟨t, listed, _, less, _⟩ := (leftOut _ listsA).1 (not_exists.1 none)
    exact least t listed less
  refine ⟨given, answer, counted, known,
    (leftOut _ listsB).2 ⟨_, listsA, known, ⟨by decide, by decide⟩, rfl, "h", ?_⟩⟩
  exact Or.inl ⟨rfl, Or.inl rfl⟩

end Service

end LinkOwnership
