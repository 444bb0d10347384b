/-
# LinkOwnership.Proofs.Selection -- who may select a host, and what giving it back leaves

The rule of selection is about what the packages of a user have.  A package that has no selection of
a host is barred from it by another package that has the host as selected, and, unless it has
verified the host itself, by any other package that is approved for it (`Scope.Barred`).  A scope
decides by its indexes instead, and names the package that it finds there; between calls both come to
the same (`Scope.Consistent.barred_of_select`, `Scope.Consistent.not_barred_of_select`), so a selection
is granted exactly when the rule allows it (`Registry.selection_follows_rule`).

A selection adds one claim to one index, and in one of two cases a state to one record.  Giving it
back takes out the same claim and puts the same state back, so the registry is what it was, the sets
that others share included (`Registry.selection_undone`).
-/
import Mathlib
import LinkOwnership.Proofs.Located
import LinkOwnership.Proofs.Retry

namespace LinkOwnership

set_option autoImplicit false

open LinkOwnership.Text (LooseString)

namespace Scope

variable {user : Int} {s s' : Scope} {package q : String} {r : Record} {host : LooseString}

/-! ## The rule -/

/-- The package has the user's selection of a host: the host is selected for it, or it is approved. -/
def HasSelection (s : Scope) (package : String) (host : LooseString) : Prop :=
  s.stateOf? package host = some .selected ∨ package ∈ s.approvedFor host

instance (s : Scope) (package : String) (host : LooseString) :
    Decidable (s.HasSelection package host) := inferInstanceAs (Decidable (_ ∨ _))

/-- The other package `q` keeps a package from selecting a host. -/
def Bars (s : Scope) (q package : String) (host : LooseString) : Prop :=
  q ≠ package ∧ (s.stateOf? q host = some .selected ∨
    s.stateOf? package host ≠ some .verified ∧ q ∈ s.approvedFor host)

/-- The package does not have the selection of a host, and some other package keeps it from it. -/
def Barred (s : Scope) (package : String) (host : LooseString) : Prop :=
  ¬ s.HasSelection package host ∧ ∃ q, s.Bars q package host

/-- What a package is left with when it has selected a host. -/
structure Chosen (package : String) (host : LooseString) (s s' : Scope) : Prop where
  selected : s.stateOf? package host ≠ some .verified → s'.stateOf? package host = some .selected
  approved : s.stateOf? package host = some .verified →
    s'.stateOf? package host = some .verified ∧ package ∈ s'.approvedFor host
  others : ∀ k, k ≠ host → s'.stateOf? package k = s.stateOf? package k

theorem Bars.hasSelection (bars : s.Bars q package host) : s.HasSelection q host :=
  bars.2.imp_right And.right

namespace Consistent

/-- A package with a selection has the host as selected or as verified. -/
theorem known_of_hasSelection (consistent : s.Consistent user) (has : s.HasSelection package host) :
    ∃ r, s.packages[package]? = some r := by
  rcases has with selected | approved
  · obtain ⟨r, known, _⟩ := stateOf?_eq_some_iff.1 selected
    exact ⟨r, known⟩
  · obtain ⟨r, known, _⟩ := stateOf?_eq_some_iff.1 (consistent.verified host package approved)
    exact ⟨r, known⟩

/-- Without a selection of a host a package is in neither index of it. -/
theorem apart_of_no_selection (consistent : s.Consistent user)
    (unselected : ¬ s.HasSelection package host) :
    (∀ (k : LooseString) (q : String), s.exclusive[k]? = some q → ¬ (q = package ∧ k = host)) ∧
      ∀ (k : LooseString) (q : String), q ∈ s.approvedFor k → ¬ (q = package ∧ k = host) := by
  constructor
  · rintro k q held ⟨rfl, rfl⟩
    exact unselected (Or.inl ((consistent.slot_iff k q).1 held))
  · rintro k q approved ⟨rfl, rfl⟩
    exact unselected (Or.inr approved)

/-- Whoever is named in a refusal bars the package from the host. -/
theorem barred_of_select (consistent : s.Consistent user) (known : s.packages[package]? = some r)
    (listed : host ∈ r.hosts.keys) {why : Rejection}
    (failed : s.select user package r host = .error why) :
    ∃ owner, why = .hostOwned host owner ∧ ¬ s.HasSelection package host ∧
      s.Bars owner package host := by
  have here := stateOf?_of_record known host
  rcases select_error_cases failed with ⟨undeclared, _⟩ | ⟨state, declared, none, owner, rfl, named⟩
  · obtain ⟨state, declared⟩ := (OrderedMap.mem_keys_iff r.hosts host).1 listed
    rw [undeclared] at declared
    cases declared
  · have unselected : ¬ s.HasSelection package host := by
      rw [HasSelection, here, declared, Option.some.injEq]
      exact none
    obtain ⟨unheld, unapproved⟩ := consistent.apart_of_no_selection unselected
    refine ⟨owner, rfl, unselected, ?_⟩
    rcases named with held | ⟨_, unverified, least⟩
    · exact ⟨fun own => unheld host owner held ⟨own, rfl⟩,
        Or.inl ((consistent.slot_iff host owner).1 held)⟩
    · have shared : owner ∈ s.approvedFor host := Std.ExtTreeSet.min?_mem least
      refine ⟨fun own => unapproved host owner shared ⟨own, rfl⟩, Or.inr ⟨?_, shared⟩⟩
      rw [here, declared, Ne, Option.some.injEq]
      exact unverified

/-- Nobody bars a package from a host that it was given. -/
theorem not_barred_of_select (consistent : s.Consistent user)
    (known : s.packages[package]? = some r) (done : s.select user package r host = .ok s') :
    ¬ s.Barred package host := by
  rintro ⟨unselected, q, _, rival⟩
  obtain ⟨state, declared, cases⟩ := select_cases done
  have here : s.stateOf? package host = some state :=
    (stateOf?_of_record known host).trans declared
  rcases cases with ⟨has, _⟩ | ⟨rfl, free, _⟩ | ⟨rfl, free, nobody, _⟩
  · exact unselected (has.imp_left fun selected => by rw [here, selected])
  · rcases rival with selected | ⟨unverified, _⟩
    · exact consistent.unselected_of_free free q selected
    · exact unverified here
  · rcases rival with selected | ⟨_, shared⟩
    · exact consistent.unselected_of_free free q selected
    · rw [nobody] at shared
      exact Std.ExtTreeSet.not_mem_empty shared

theorem chosen_of_select (consistent : s.Consistent user) (known : s.packages[package]? = some r)
    (done : s.select user package r host = .ok s') : Chosen package host s s' := by
  obtain ⟨state, declared, cases⟩ := select_cases done
  have here : s.stateOf? package host = some state :=
    (stateOf?_of_record known host).trans declared
  rcases cases with ⟨has, rfl⟩ | ⟨rfl, _, rfl⟩ | ⟨rfl, _, _, rfl⟩
  · -- The selection was there before.
    refine ⟨fun unverified => ?_, fun verified => ⟨verified, ?_⟩, fun _ _ => rfl⟩
    · rcases has with rfl | approved
      · exact here
      · exact absurd (consistent.verified host package approved) unverified
    · refine has.resolve_left ?_
      rintro rfl
      rw [here] at verified
      cases verified
  · exact ⟨absurd here, fun verified => ⟨verified, (mem_approvedFor_approve ..).2 (Or.inl ⟨rfl, rfl⟩)⟩,
      fun _ _ => rfl⟩
  · refine ⟨fun _ => ?_, fun verified => ?_, fun k ne => ?_⟩
    · rw [stateOf?_putRecord, if_pos rfl, get?_setState, if_pos rfl]
    · rw [here] at verified
      cases verified
    · rw [stateOf?_putRecord, if_pos rfl, get?_setState, if_neg ne, stateOf?_of_record known]

end Consistent

/-! ## Giving a selection back -/

/-- Giving back the claim to a host leads to the scope with the same records and all other claims. -/
theorem release_eq (full : s.NoEmptySet) (full' : s'.NoEmptySet) (records : s.packages = s'.packages)
    (slots : ∀ (k : LooseString) (q : String),
      s.exclusive[k]? = some q ∧ ¬ (q = package ∧ k = host) ↔ s'.exclusive[k]? = some q)
    (approvals : ∀ (k : LooseString) (q : String),
      q ∈ s.approvedFor k ∧ ¬ (q = package ∧ k = host) ↔ q ∈ s'.approvedFor k) :
    s.release package [host] = s' := by
  refine eq_of_holdings (full.release package [host]) full' ?_ ?_ ?_
  · intro p
    rw [packages_release, records]
  · intro k q
    rw [holder_release, List.mem_singleton, slots]
  · intro k q
    rw [mem_approvedFor_release, List.mem_singleton, approvals]

theorem setState_setState (r : Record) (host : LooseString) (state state' : LinkState) :
    (r.setState host state).setState host state' = r.setState host state' :=
  congrArg (fun hosts => { r with hosts := hosts }) (r.hosts.insert_insert host state state')

theorem setState_of_get? {state : LinkState} (declared : r.hosts.get? host = some state) :
    r.setState host state = r :=
  congrArg (fun hosts => { r with hosts := hosts }) (OrderedMap.insert_of_get? declared)

theorem packages_putRecord_of_known (known : s.packages[package]? = some r) :
    (s.putRecord package r).packages = s.packages := by
  refine Std.ExtTreeMap.ext_getElem? fun p => ?_
  rw [getElem?_putRecord]
  exact (getElem?_of_known known p).symm

namespace Consistent

/-- Without a selection there is nothing to give back. -/
theorem clear_of_no_selection (consistent : s.Consistent user)
    (known : s.packages[package]? = some r) (unselected : ¬ s.HasSelection package host) :
    s.clear package r host = s := by
  obtain ⟨unheld, unapproved⟩ := consistent.apart_of_no_selection unselected
  have state : r.stateFor host ≠ .selected := by
    rw [Ne, stateFor_eq_iff (by decide), ← stateOf?_of_record known]
    exact fun selected => unselected (Or.inl selected)
  rw [clear_of_unselected state]
  exact release_eq consistent.full consistent.full rfl
    (fun k q => and_iff_left_of_imp (unheld k q)) (fun k q => and_iff_left_of_imp (unapproved k q))

/-- A selection that was granted is given back, and everything is as before. -/
theorem clear_of_select (consistent : s.Consistent user) (known : s.packages[package]? = some r)
    (unselected : ¬ s.HasSelection package host)
    (done : s.select user package r host = .ok s') :
    ∃ r', s'.packages[package]? = some r' ∧ s'.clear package r' host = s := by
  obtain ⟨unheld, unapproved⟩ := consistent.apart_of_no_selection unselected
  obtain ⟨state, declared, cases⟩ := select_cases done
  have here : s.stateOf? package host = some state :=
    (stateOf?_of_record known host).trans declared
  rcases cases with ⟨has, _⟩ | ⟨rfl, free, rfl⟩ | ⟨rfl, free, nobody, rfl⟩
  · exact absurd (has.imp_left fun selected => by rw [here, selected]) unselected
  · -- The package leaves the approved ones again, and the others stay.
    have state : r.stateFor host ≠ .selected := by
      rw [Ne, stateFor_eq_iff (by decide), declared]
      decide
    refine ⟨r, known, ?_⟩
    rw [clear_of_unselected state]
    refine release_eq (consistent.full.approve package host) consistent.full rfl
      (fun k q => and_iff_left_of_imp (unheld k q)) ?_
    intro k q
    rw [mem_approvedFor_approve, or_and_right, and_not_self_iff, false_or]
    exact and_iff_left_of_imp (unapproved k q)
  · -- The package gives the slot up again, and its record has the state that it had.
    refine ⟨_, (getElem?_putRecord ..).trans (if_pos rfl), ?_⟩
    rw [clear_of_selected (stateFor_setState ..), setState_setState, setState_of_get? declared,
      putRecord_putRecord]
    refine release_eq consistent.full consistent.full (packages_putRecord_of_known known) ?_
      (fun k q => and_iff_left_of_imp (unapproved k q))
    intro k q
    rw [exclusive_putRecord, getElem?_insert_if]
    by_cases there : k = host
    · subst there
      simp [free, eq_comm]
    · simp [there]

end Consistent

end Scope

namespace Registry

variable {reg : Registry} {user : Int} {package : String} {r : Record}

/-! ## Calls -/

theorem setSelected_of_unknown {ref : PackageRef} (unknown : ∀ r, reg.userState ref ≠ .ok r)
    (spelling : LooseString) :
    reg.setSelected ref (some spelling) = (.error ref.unknown, reg) :=
  (reg.setSelected_eq_changeAt _ _).trans (changeAt_of_unknown rfl unknown _)

theorem clearSelected_of_unknown {ref : PackageRef} (unknown : ∀ r, reg.userState ref ≠ .ok r)
    (spelling : LooseString) :
    reg.clearSelected ref (some spelling) = (.error ref.unknown, reg) :=
  (reg.clearSelected_eq_changeAt _ _).trans (changeAt_of_unknown rfl unknown _)

/-- A selection for a known package is up to the scope of its user. -/
theorem setSelected_of_known (known : (reg.scopeOrEmpty user).packages[package]? = some r)
    (spelling : LooseString) :
    reg.setSelected ⟨some user, some package⟩ (some spelling) =
      match (reg.scopeOrEmpty user).select user package r (Host.normalize spelling) with
      | .ok s => (.ok (), reg.putScope user s)
      | .error why => (.error why, reg) :=
  (reg.setSelected_eq_changeAt _ _).trans (changeAt_of_known rfl known _)

theorem clearSelected_of_known (known : (reg.scopeOrEmpty user).packages[package]? = some r)
    (spelling : LooseString) :
    reg.clearSelected ⟨some user, some package⟩ (some spelling) =
      (.ok (), reg.putScope user
        ((reg.scopeOrEmpty user).clear package r (Host.normalize spelling))) :=
  (reg.clearSelected_eq_changeAt _ _).trans (changeAt_of_known rfl known _)

/-- A known package is turned down when it asks for a host that it does not list. -/
theorem setSelected_of_unlisted (known : (reg.scopeOrEmpty user).packages[package]? = some r)
    {spelling : LooseString} (unlisted : Host.normalize spelling ∉ r.hosts.keys) :
    reg.setSelected ⟨some user, some package⟩ (some spelling) =
      (.error (Rejection.undeclaredHost user package (Host.normalize spelling)).raised, reg) := by
  rw [setSelected_of_known known, Scope.select, OrderedMap.get?_eq_none_of_not_mem unlisted]

/-- What a known package is answered that asks for a host of its own. -/
theorem setSelected_cases (consistent : reg.Consistent)
    (known : (reg.scopeOrEmpty user).packages[package]? = some r) {spelling : LooseString}
    (listed : Host.normalize spelling ∈ r.hosts.keys) :
    let host := Host.normalize spelling
    let before := reg.scopeOrEmpty user
    (∃ s, reg.setSelected ⟨some user, some package⟩ (some spelling) = (.ok (), reg.putScope user s) ∧
      ¬ before.Barred package host ∧ Scope.Chosen package host before s) ∨
    ∃ owner, reg.setSelected ⟨some user, some package⟩ (some spelling) =
        (.error (.hostOwned host owner), reg) ∧
      ¬ before.HasSelection package host ∧ before.Bars owner package host := by
  intro host before
  have scope := consistent.scopeOrEmpty user
  rw [setSelected_of_known known]
  cases selected : before.select user package r host with
  | ok s =>
      exact Or.inl ⟨s, rfl, scope.not_barred_of_select known selected,
        scope.chosen_of_select known selected⟩
  | error why =>
      obtain ⟨owner, rfl, unselected, bars⟩ := scope.barred_of_select known listed selected
      exact Or.inr ⟨owner, rfl, unselected, bars⟩

/-- After any run, a selection is turned down for a package that is not known and for one that does
not list the host, in words if the user's number can be written.  Any other package is given the
selection unless it is barred from the host, and is refused it if it is; the refusal names another
package, one that has a selection of the host.  A package that has the selection has the host as
selected, or as verified and approved if it had verified it, and all its other hosts are as
before. -/
theorem selection_follows_rule (ops : List Operation) (spelling : LooseString) :
    let reg := (empty.run ops).2
    let host := Host.normalize spelling
    (∀ ref : PackageRef, (∀ r, reg.userState ref ≠ .ok r) →
      (reg.setSelected ref (some spelling)).1 = .error
        (if ref.user.all Text.Integer.fits then .unknownPackage ref.user ref.package
          else .longNumeral)) ∧
    ∀ (user : Int) (package : String) (r : Record),
      reg.userState ⟨some user, some package⟩ = .ok r →
      let before := reg.scopeOrEmpty user
      let call := reg.setSelected ⟨some user, some package⟩ (some spelling)
      (host ∉ r.hosts.keys → call.1 = .error
        (if Text.Integer.fits user then .undeclaredHost user package host else .longNumeral)) ∧
      (host ∈ r.hosts.keys →
        (call.1 = .ok () ↔ ¬ before.Barred package host) ∧
        ((∃ owner, call.1 = .error (.hostOwned host owner)) ↔ before.Barred package host)) ∧
      (∀ owner, call.1 = .error (.hostOwned host owner) →
        owner ≠ package ∧ (∃ r', reg.userState ⟨some user, some owner⟩ = .ok r') ∧
          before.HasSelection owner host) ∧
      (call.1 = .ok () → Scope.Chosen package host before (call.2.scopeOrEmpty user)) := by
  intro reg host
  have consistent : reg.Consistent := consistent_empty.run ops
  refine ⟨fun ref unknown => ?_, fun user package r known => ?_⟩
  · exact congrArg Prod.fst (setSelected_of_unknown unknown spelling)
  intro before call
  rw [userState_mk_eq_ok_iff] at known
  by_cases listed : host ∈ r.hosts.keys
  · rcases setSelected_cases consistent known listed with
      ⟨s, made, free, chosen⟩ | ⟨owner, refused, unselected, bars⟩
    · have answer : call.1 = .ok () := congrArg Prod.fst made
      refine ⟨absurd listed, fun _ => ⟨iff_of_true answer free, iff_of_false ?_ free⟩, ?_, fun _ => ?_⟩
      · rintro ⟨owner, refused⟩
        cases answer.symm.trans refused
      · intro owner refused
        cases answer.symm.trans refused
      · rw [show call.2 = reg.putScope user s from congrArg Prod.snd made, scopeOrEmpty_putScope]
        exact chosen
    · have answer : call.1 = .error (.hostOwned host owner) := congrArg Prod.fst refused
      have barred : before.Barred package host := ⟨unselected, owner, bars⟩
      have failed : call.1 ≠ .ok () := fun made => nomatch answer.symm.trans made
      refine ⟨absurd listed, fun _ => ⟨iff_of_false failed (not_not_intro barred),
        iff_of_true ⟨owner, answer⟩ barred⟩, ?_, fun made => absurd made failed⟩
      intro named same
      cases answer.symm.trans same
      obtain ⟨r', known'⟩ :=
        (consistent.scopeOrEmpty user).known_of_hasSelection bars.hasSelection
      exact ⟨bars.1, ⟨r', userState_mk_eq_ok_iff.2 known'⟩, bars.hasSelection⟩
  · have answer : call.1 = .error (Rejection.undeclaredHost user package host).raised :=
      congrArg Prod.fst (setSelected_of_unlisted known listed)
    refine ⟨fun _ => answer, fun there => absurd there listed, ?_, ?_⟩
    · intro owner refused
      have same := Except.error.inj (answer.symm.trans refused)
      rcases (Rejection.undeclaredHost user package host).raised_cases with told | ⟨_, told⟩
      · cases told.symm.trans same
      · cases told.symm.trans same
    · intro made
      cases answer.symm.trans made

/-- One package holds a host and is approved for another one, which both have verified. -/
def rivals : List Operation :=
  [.addPackage ⟨some 1, some "p"⟩ (.ofNat 7) (some [some "a", some "b"]) (some true),
    .addPackage ⟨some 1, some "q"⟩ (.ofNat 8) (some [some "a", some "b", some "c"]) (some true),
    .setSelected ⟨some 1, some "p"⟩ (some "a"),
    .setVerified ⟨some 1, some "p"⟩ (some "b"),
    .setVerified ⟨some 1, some "q"⟩ (some "b"),
    .setSelected ⟨some 1, some "p"⟩ (some "b")]

/-- The other package is barred from the one host, and joins the first for the other host. -/
theorem selection_follows_rule_rivals :
    let reg := (empty.run rivals).2
    let q : PackageRef := ⟨some 1, some "q"⟩
    ∃ r, reg.userState q = .ok r ∧
      Host.normalize " A " ∈ r.hosts.keys ∧ Host.normalize "b" ∈ r.hosts.keys ∧
      (reg.setSelected q (some " A ")).1 = .error (.hostOwned (Host.normalize " A ") "p") ∧
      (reg.scopeOrEmpty 1).Barred "q" (Host.normalize " A ") ∧
      (reg.scopeOrEmpty 1).HasSelection "p" (Host.normalize " A ") ∧
      (reg.setSelected q (some "b")).1 = .ok () ∧
      ¬ (reg.scopeOrEmpty 1).Barred "q" (Host.normalize "b") ∧
      Scope.Chosen "q" (Host.normalize "b") (reg.scopeOrEmpty 1)
        ((reg.setSelected q (some "b")).2.scopeOrEmpty 1) := by
  have refused : ((empty.run rivals).2.setSelected ⟨some 1, some "q"⟩ (some " A ")).1 =
    .error (.hostOwned (Host.normalize " A ") "p") := by cbv
  have granted : ((empty.run rivals).2.setSelected ⟨some 1, some "q"⟩ (some "b")).1 = .ok () := by
    cbv
  have unclaimed : ((empty.run rivals).2.scopeOrEmpty 1).stateOf? "q" (Host.normalize " A ") =
    some .unclaimed := by cbv
  have verified : ((empty.run rivals).2.scopeOrEmpty 1).stateOf? "q" (Host.normalize "b") =
    some .verified := by cbv
  obtain ⟨r, known, declared⟩ := Scope.stateOf?_eq_some_iff.1 unclaimed
  have listed : Host.normalize " A " ∈ r.hosts.keys := (r.hosts.mem_keys_iff _).2 ⟨_, declared⟩
  have listed' : Host.normalize "b" ∈ r.hosts.keys :=
    (r.hosts.mem_keys_iff _).2 ⟨_, (Scope.stateOf?_of_record known _).symm.trans verified⟩
  replace known := userState_mk_eq_ok_iff.2 known
  obtain ⟨_, rule, named, _⟩ := (selection_follows_rule rivals " A ").2 1 "q" r known
  obtain ⟨_, rule', _, chosen⟩ := (selection_follows_rule rivals "b").2 1 "q" r known
  exact ⟨r, known, listed, listed', refused, (rule listed).2.1 ⟨"p", refused⟩,
    (named "p" refused).2.2, granted, (rule' listed').1.1 granted, chosen granted⟩

/-- A user whose number has a digit too many is not told that the package is unknown. -/
theorem unknown_without_words :
    let ref : PackageRef := ⟨some (10 ^ 4300), some "p"⟩
    (∀ r, empty.userState ref ≠ .ok r) ∧
      (empty.setSelected ref (some "h")).1 = .error .longNumeral ∧
        ∀ user package, Rejection.longNumeral ≠ .unknownPackage user package := by
  have unknown (user : Int) (r : Record) : empty.userState ⟨some user, some "p"⟩ ≠ .ok r := by
    rw [Ne, userState_mk_eq_ok_iff, scopeOrEmpty_eq]
    nofun
  have told (user : Int) (long : Text.Integer.fits user = false) :
      (empty.setSelected ⟨some user, some "p"⟩ (some "h")).1 = .error .longNumeral := by
    rw [setSelected_of_unknown (unknown user), PackageRef.unknown,
      Rejection.raised_of_long (.unknownPackage (some user) (some "p")) long]
  exact ⟨unknown _, told _ (by decide +kernel), nofun⟩

/-- After any run, a selection that was granted to a package without one can be given back in any
spelling of the host, and the registry is as it was before both calls.  A package that has no
selection of a host has nothing to give back: the call changes nothing. -/
theorem selection_undone (ops : List Operation) {user : Int} {package : String}
    {spelling : LooseString}
    (unselected : ¬ ((empty.run ops).2.scopeOrEmpty user).HasSelection package
      (Host.normalize spelling)) :
    let reg := (empty.run ops).2
    let ref : PackageRef := ⟨some user, some package⟩
    (∀ reg', reg.setSelected ref (some spelling) = (.ok (), reg') →
      ∀ again, Host.normalize again = Host.normalize spelling →
        reg'.clearSelected ref (some again) = (.ok (), reg)) ∧
    (∀ r, reg.userState ref = .ok r → reg.clearSelected ref (some spelling) = (.ok (), reg)) ∧
    (reg.clearSelected ref (some spelling)).2 = reg := by
  intro reg ref
  have consistent : reg.Consistent := consistent_empty.run ops
  have scope := consistent.scopeOrEmpty user
  cases known : (reg.scopeOrEmpty user).packages[package]? with
  | none =>
      have unknown (r : Record) : reg.userState ref ≠ .ok r := by
        rw [Ne, userState_mk_eq_ok_iff, known]
        nofun
      refine ⟨fun reg' made => ?_, fun r found => absurd found (unknown r), ?_⟩
      · cases made.symm.trans (setSelected_of_unknown unknown spelling)
      · exact congrArg Prod.snd (clearSelected_of_unknown unknown spelling)
  | some r =>
      have found := scope_of_known known
      have cleared : reg.clearSelected ref (some spelling) = (.ok (), reg) := by
        rw [clearSelected_of_known known, scope.clear_of_no_selection known unselected,
          putScope_self found]
      refine ⟨fun reg' made again same => ?_, fun _ _ => cleared, congrArg Prod.snd cleared⟩
      rw [setSelected_of_known known] at made
      cases selected : (reg.scopeOrEmpty user).select user package r (Host.normalize spelling) with
      | error why =>
          rw [selected] at made
          cases made
      | ok s =>
          rw [selected] at made
          cases made
          obtain ⟨r', known', undone⟩ := scope.clear_of_select known unselected selected
          rw [← scopeOrEmpty_putScope reg user s] at known'
          rw [clearSelected_of_known known', scopeOrEmpty_putScope, same, undone, putScope_putScope,
            putScope_self found]

/-- The package that has verified the shared host joins the other one and leaves it again, and a host
of its own is taken and given up. -/
theorem selection_undone_rivals :
    let reg := (empty.run rivals).2
    let q : PackageRef := ⟨some 1, some "q"⟩
    (∀ host ∈ ["a", "b", "c"], ¬ (reg.scopeOrEmpty 1).HasSelection "q" (Host.normalize host)) ∧
      (reg.setSelected q (some "b")).1 = .ok () ∧ (reg.setSelected q (some "c")).1 = .ok () ∧
      (reg.setSelected q (some "b")).2.clearSelected q (some " B ") = (.ok (), reg) ∧
      (reg.setSelected q (some "c")).2.clearSelected q (some "c") = (.ok (), reg) ∧
      reg.clearSelected q (some "a") = (.ok (), reg) := by
  have joined : ((empty.run rivals).2.setSelected ⟨some 1, some "q"⟩ (some "b")).1 = .ok () := by
    cbv
  have taken : ((empty.run rivals).2.setSelected ⟨some 1, some "q"⟩ (some "c")).1 = .ok () := by
    cbv
  have unselected : ∀ host ∈ ["a", "b", "c"],
      ¬ ((empty.run rivals).2.scopeOrEmpty 1).HasSelection "q" (Host.normalize host) := by
    rw [List.forall_mem_cons, List.forall_mem_cons, List.forall_mem_singleton]
    exact ⟨of_decide_eq_false (by cbv), of_decide_eq_false (by cbv), of_decide_eq_false (by cbv)⟩
  have unclaimed : ((empty.run rivals).2.scopeOrEmpty 1).stateOf? "q" "a" = some .unclaimed := by
    cbv
  obtain ⟨r, known, _⟩ := Scope.stateOf?_eq_some_iff.1 unclaimed
  exact ⟨unselected, joined, taken,
    (selection_undone rivals (unselected "b" (by decide))).1 _ (Prod.ext joined rfl) " B "
      (by decide +kernel),
    (selection_undone rivals (unselected "c" (by decide))).1 _ (Prod.ext taken rfl) "c" rfl,
    (selection_undone rivals (unselected "a" (by decide))).2.1 r (userState_mk_eq_ok_iff.2 known)⟩

end Registry

end LinkOwnership
