/-
# LinkOwnership.Proofs.Lifetime -- what a record keeps as long as its package is known

The record of a package lives until it is restored, or until its package or its user is removed
(`Operation.ends`).  No other call replaces it: each later record goes on from the earlier ones
(`Record.Continues`), with their identifier, their hosts in their places, and every host verified
that was verified.  One call keeps this (`Operation.goes_on`), so it holds between any two moments
of a run (`Registry.record_continues`).
-/
import LinkOwnership.Proofs.Frame
import LinkOwnership.Proofs.Located
import LinkOwnership.Proofs.WriteThrough

namespace LinkOwnership

set_option autoImplicit false

open LinkOwnership.Text (LooseString)

/-! ## Later records -/

namespace Record

variable {r r' r'' : Record} {host : LooseString} {state : LinkState}

/-- A record that goes on from an earlier one: new hosts stand behind all others, and what is
verified stays verified. -/
structure Continues (r r' : Record) : Prop where
  identifier : r'.identifier = r.identifier
  hosts : r.hosts.keys <+: r'.hosts.keys
  verified : ∀ host, r.hosts.get? host = some .verified → r'.hosts.get? host = some .verified

theorem Continues.refl (r : Record) : r.Continues r := ⟨rfl, List.prefix_rfl, fun _ => id⟩

theorem Continues.trans (first : r.Continues r') (second : r'.Continues r'') : r.Continues r'' where
  identifier := second.identifier.trans first.identifier
  hosts := first.hosts.trans second.hosts
  verified host verified := second.verified host (first.verified host verified)

/-- A host that is not verified can get any state, and a verified one can be verified again. -/
theorem continues_setState (kept : r.hosts.get? host = some .verified → state = .verified) :
    r.Continues (r.setState host state) where
  identifier := rfl
  hosts := by
    show r.hosts.keys <+: (r.hosts.insert host state).keys
    by_cases declared : host ∈ r.hosts.keys
    · exact (OrderedMap.keys_insert_of_mem state declared).symm ▸ List.prefix_rfl
    · rw [OrderedMap.keys_insert_of_not_mem state declared]
      exact List.prefix_append ..
  verified k verified := by
    rw [Scope.get?_setState]
    split
    · rename_i here
      rw [kept (here ▸ verified)]
    · exact verified

end Record

/-! ## Changes of a scope -/

namespace Scope

variable {s s' : Scope} {package : String} {r r' : Record} {host : LooseString}

/-- The scope has a record of the package, and it goes on from `r`. -/
def GoesOn (package : String) (r : Record) (s : Scope) : Prop :=
  ∃ r', s.packages[package]? = some r' ∧ r.Continues r'

theorem goesOn_of_known (known : s.packages[package]? = some r) : s.GoesOn package r :=
  ⟨r, known, .refl r⟩

theorem goesOn_putRecord (continues : r.Continues r') : (s.putRecord package r').GoesOn package r :=
  ⟨r', (getElem?_putRecord ..).trans (if_pos rfl), continues⟩

theorem goesOn_verify (known : s.packages[package]? = some r)
    (done : s.verify package r host = .ok s') : s'.GoesOn package r := by
  obtain ⟨_, rfl⟩ | ⟨_, rfl⟩ | ⟨_, rfl⟩ := verify_cases done
  · exact goesOn_of_known known
  · exact goesOn_putRecord (Record.continues_setState fun _ => rfl)
  · exact goesOn_putRecord (Record.continues_setState fun _ => rfl)

theorem goesOn_select {user : Int} (known : s.packages[package]? = some r)
    (done : s.select user package r host = .ok s') : s'.GoesOn package r := by
  obtain ⟨state, declared, ⟨_, rfl⟩ | ⟨_, _, rfl⟩ | ⟨rfl, _, _, rfl⟩⟩ := select_cases done
  · exact goesOn_of_known known
  · exact goesOn_of_known known
  · refine goesOn_putRecord (Record.continues_setState fun verified => ?_)
    rw [declared] at verified
    cases verified

theorem goesOn_clear (known : s.packages[package]? = some r) :
    (s.clear package r host).GoesOn package r := by
  simp only [GoesOn, clear, packages_release]
  split
  · rename_i selected
    refine goesOn_putRecord (Record.continues_setState fun verified => ?_)
    rw [(stateFor_eq_iff (by decide)).1 selected] at verified
    cases verified
  · exact goesOn_of_known known

end Scope

/-! ## Calls -/

/-- The calls that end the life of the record under a key: the package is restored or removed, or its
user is removed. -/
def Operation.ends (key : RowKey) : Operation → Bool
  | .restore draft _ => (⟨draft.user, draft.packageName⟩ : PackageRef) = key.ref
  | .removePackage ref => ref = key.ref
  | .removeUser user => user = some key.user
  | _ => false

namespace Registry

variable {reg reg' : Registry} {key : RowKey} {r : Record}

/-- The registry knows the package, with a record that goes on from `r`. -/
def GoesOn (key : RowKey) (r : Record) (reg : Registry) : Prop :=
  ∃ r', reg.userState key.ref = .ok r' ∧ r.Continues r'

theorem goesOn_of_known (known : reg.userState key.ref = .ok r) : reg.GoesOn key r :=
  ⟨r, known, .refl r⟩

theorem goesOn_putScope {s : Scope} (goesOn : s.GoesOn key.package r) :
    (reg.putScope key.user s).GoesOn key r := by
  obtain ⟨r', known, continues⟩ := goesOn
  refine ⟨r', userState_eq_ok_iff.2 ?_, continues⟩
  rw [scopeOrEmpty_putScope, known]

/-- A change of the scope in which the package is found. -/
theorem goesOn_changeAt {α : Type} {check : Except Rejection α}
    {next : α → Site → Except Rejection Scope} (known : reg.userState key.ref = .ok r)
    (kept : ∀ (a : α) (site : Site) (s : Scope),
      site.scope.packages[site.package]? = some site.record → next a site = .ok s →
        s.GoesOn site.package site.record) :
    (reg.changeAt check key.ref next).2.GoesOn key r := by
  rcases reg.changeAt_cases check key.ref next with
    ⟨why, rejected, _⟩ | ⟨a, site, s, _, located, changed, made⟩
  · rw [rejected]
    exact goesOn_of_known known
  · obtain ⟨names, _, found⟩ := locate_eq_ok_iff.1 located
    obtain rfl : key = ⟨site.user, site.package⟩ := RowKey.ref_inj.1 names
    rw [userState, located] at known
    cases known
    rw [made]
    exact goesOn_putScope (kept a site s found changed)

/-- A package that is added again keeps its record. -/
theorem goesOn_addPackage (known : reg.userState key.ref = .ok r) {draft : Draft}
    (own : (⟨draft.user, draft.packageName⟩ : PackageRef) = key.ref) :
    (reg.addPackage draft).2.GoesOn key r := by
  unfold addPackage
  cases built : draft.build with
  | error why => exact goesOn_of_known known
  | ok r' =>
      obtain rfl : key = ⟨r'.user, r'.packageName⟩ := RowKey.ref_inj.1 (own ▸ ref_of_build built)
      have present := userState_eq_ok_iff.1 known
      simp only [present]
      exact goesOn_putScope (Scope.goesOn_of_known present)

/-- A package that two registries show alike. -/
theorem ShowsSame.goesOn (shows : ShowsSame key reg reg') (known : reg.userState key.ref = .ok r) :
    reg'.GoesOn key r :=
  goesOn_of_known (shows.record.trans known)

end Registry

namespace Operation

variable {reg : Registry} {key : RowKey} {r : Record}

/-- A call that names the package keeps its record, unless it ends it. -/
theorem goes_on_own (op : Operation) (own : op.ref = key.ref)
    (known : reg.userState key.ref = .ok r) (lives : op.ends key = false) :
    (op.apply reg).2.GoesOn key r := by
  cases op with
  | addPackage ref identifier hosts allowed =>
      cases hosts with
      | none => exact Registry.goesOn_of_known known
      | some hosts => exact Registry.goesOn_addPackage known own
  | restore draft approved => exact absurd own (of_decide_eq_false lives)
  | setVerified ref host =>
      obtain rfl : ref = key.ref := own
      show (reg.setVerified key.ref host).2.GoesOn key r
      rw [Registry.setVerified_eq_changeAt]
      exact Registry.goesOn_changeAt known fun _ _ _ => Scope.goesOn_verify
  | setSelected ref host =>
      obtain rfl : ref = key.ref := own
      show (reg.setSelected key.ref host).2.GoesOn key r
      rw [Registry.setSelected_eq_changeAt]
      exact Registry.goesOn_changeAt known fun _ _ _ => Scope.goesOn_select
  | clearSelected ref host =>
      obtain rfl : ref = key.ref := own
      show (reg.clearSelected key.ref host).2.GoesOn key r
      rw [Registry.clearSelected_eq_changeAt]
      refine Registry.goesOn_changeAt known fun _ _ _ found cleared => ?_
      cases cleared
      exact Scope.goesOn_clear found
  | setLinkHandlingAllowed ref allowed =>
      obtain rfl : ref = key.ref := own
      show (reg.setLinkHandlingAllowed key.ref allowed).2.GoesOn key r
      rw [Registry.setLinkHandlingAllowed_eq_changeAt]
      refine Registry.goesOn_changeAt known fun _ _ _ _ set => ?_
      cases set
      exact Scope.goesOn_putRecord ⟨rfl, List.prefix_rfl, fun _ => id⟩
  | removePackage ref => exact absurd own (of_decide_eq_false lives)
  | removeUser user => cases own
  | userState ref => exact Registry.goesOn_of_known known
  | hostMap ref => exact Registry.goesOn_of_known known
  | approvedHosts ref => exact Registry.goesOn_of_known known
  | packageNames user => exact Registry.goesOn_of_known known
  | exclusiveOwner user host => exact Registry.goesOn_of_known known
  | owners user host => exact Registry.goesOn_of_known known

/-- A call about anything else leaves it the record that it has. -/
theorem shows_same_other (op : Operation) (before : reg.Consistent) (other : op.ref ≠ key.ref)
    (lives : op.ends key = false) : reg.ShowsSame key (op.apply reg).2 := by
  by_cases removes : ∃ user, op = .removeUser user
  · obtain ⟨user, rfl⟩ := removes
    have apart : user ≠ some key.user := of_decide_eq_false lives
    cases user with
    | none => exact ⟨rfl, rfl⟩
    | some user => exact Registry.shows_same_removeUser fun same => apart (congrArg some same.symm)
  · rcases op.changes_one before fun user same => removes ⟨user, same⟩ with
      same | ⟨user, package, names, only⟩
    · rw [same]
      exact ⟨rfl, rfl⟩
    · exact only.shows_same fun same => other (names.trans (congrArg RowKey.ref same).symm)

/-- So each call keeps the record or goes on from it, unless it ends it. -/
theorem goes_on (op : Operation) (before : reg.Consistent) (known : reg.userState key.ref = .ok r)
    (lives : op.ends key = false) : (op.apply reg).2.GoesOn key r := by
  by_cases own : op.ref = key.ref
  · exact op.goes_on_own own known lives
  · exact (op.shows_same_other before own lives).goesOn known

end Operation

/-! ## Runs -/

namespace Registry

variable {reg : Registry} {key : RowKey} {r : Record}

/-- So does a run in which no call ends it. -/
theorem Consistent.goesOn_run (before : reg.Consistent) (known : reg.userState key.ref = .ok r)
    (ops : List Operation) (lives : ∀ op ∈ ops, op.ends key = false) :
    (reg.run ops).2.GoesOn key r := by
  induction ops generalizing reg r with
  | nil => exact goesOn_of_known known
  | cons op rest ih =>
      obtain ⟨now, stays, first⟩ := op.goes_on before known (lives op List.mem_cons_self)
      obtain ⟨later, found, second⟩ :=
        ih (op.apply_consistent before) stays fun next member => lives next (.tail op member)
      exact ⟨later, found, first.trans second⟩

/-- Take any run and a part of it that starts where a package is known and in which no call ends
the life of its record.  Then the package is known at every moment of that part, and at any two of
them the record is the earlier one gone on: its identifier is the same, its hosts have only grown at
their end, and what was verified is verified. -/
theorem record_continues (ops segment : List Operation) (key : RowKey) {r : Record}
    (known : (empty.run ops).2.userState key.ref = .ok r)
    (lives : ∀ op ∈ segment, op.ends key = false) (i j : Nat) (order : i ≤ j) :
    ∃ earlier later,
      (empty.run (ops ++ segment.take i)).2.userState key.ref = .ok earlier ∧
        (empty.run (ops ++ segment.take j)).2.userState key.ref = .ok later ∧
          earlier.Continues later := by
  have start := consistent_empty.run ops
  obtain ⟨earlier, atFirst, _⟩ := start.goesOn_run known (segment.take i)
    fun op member => lives op (List.mem_of_mem_take member)
  obtain ⟨between, parts⟩ : ∃ between, segment.take j = segment.take i ++ between :=
    (List.take_prefix_take_left order).elim fun between parts => ⟨between, parts.symm⟩
  obtain ⟨later, atLast, continues⟩ := (start.run (segment.take i)).goesOn_run atFirst between
    fun op member => lives op (List.mem_of_mem_take (parts ▸ List.mem_append_right _ member))
  refine ⟨earlier, later, ?_, ?_, continues⟩
  · rw [run_append]
    exact atFirst
  · rw [run_append, parts, run_append]
    exact atLast

/-- A package is verified for one of its two hosts. -/
def firstVerified : List Operation :=
  [.addPackage ⟨some 1, some "p"⟩ (.ofNat 7) (some [some "b", some "a"]) (some true),
    .setVerified ⟨some 1, some "p"⟩ (some "b")]

/-- It is added again with another host, another package takes over the host, and it is verified for
a host that it has not declared. -/
def unsettled : List Operation :=
  [.addPackage ⟨some 1, some "p"⟩ (.ofNat 8) (some [some "c"]) (some false),
    .addPackage ⟨some 1, some "q"⟩ (.ofNat 9) (some [some "b"]) (some true),
    .setVerified ⟨some 1, some "q"⟩ (some "b"),
    .setSelected ⟨some 1, some "q"⟩ (some "b"),
    .clearSelected ⟨some 1, some "p"⟩ (some "b"),
    .setVerified ⟨some 1, some "p"⟩ (some "a.example")]

theorem record_continues_unsettled :
    let key : RowKey := ⟨1, "p"⟩
    let r : Record := ⟨.ofNat 7, "p", 1, true, ⟨[("b", .verified), ("a", .unclaimed)], by decide⟩⟩
    (empty.run firstVerified).2.userState key.ref = .ok r ∧
      (∀ op ∈ unsettled, op.ends key = false) ∧
        ∃ later, (empty.run (firstVerified ++ unsettled)).2.userState key.ref = .ok later ∧
          r.Continues later := by
  intro key r
  have known : (empty.run firstVerified).2.userState key.ref = .ok r :=
    userState_eq_ok_iff.2 (by decide +kernel)
  have lives : ∀ op ∈ unsettled, op.ends key = false := by decide
  obtain ⟨earlier, later, atFirst, atLast, continues⟩ :=
    record_continues firstVerified unsettled key known lives 0 unsettled.length (Nat.zero_le _)
  obtain rfl : r = earlier := Except.ok.inj (known.symm.trans atFirst)
  exact ⟨known, lives, later, atLast, continues⟩

end Registry

end LinkOwnership
