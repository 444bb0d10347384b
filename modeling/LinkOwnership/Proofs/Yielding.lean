/-
# LinkOwnership.Proofs.Yielding -- a refused package can always come to its host

A refusal names an owner, and the owner is a package that has the selection of the host.  When it
gives the selection up, the package that was refused has one competitor less (`Scope.competitors`),
and giving up makes nobody else a competitor.  So a package that asks, and asks again after each owner
that was named has given up (`Registry.insist`), is refused at most once for each competitor that it
had at first, and then has the host.

`Scope.Conceded` says all that has changed by then: the package has the host, those that were named
have lost their selection of it but not their verification, and nothing else is different.
-/
import Mathlib
import LinkOwnership.Proofs.Verification

namespace LinkOwnership

set_option autoImplicit false

open LinkOwnership.Text (LooseString)

/-- The record of a package that gave up the selection of a host: a verified host stays so. -/
def Record.yielded (r : Record) (host : LooseString) : Record :=
  if r.hosts.get? host = some .selected then r.setState host .unclaimed else r

namespace Scope

variable {user : Int} {s s' t : Scope} {package owner q : String} {r : Record} {host : LooseString}

/-! ## Competitors -/

/-- The other packages that have the selection of a host. -/
def competitors (s : Scope) (package : String) (host : LooseString) : List String :=
  s.packages.keys.filter fun q => q ≠ package ∧ s.HasSelection q host

theorem mem_competitors_iff (consistent : s.Consistent user) :
    q ∈ s.competitors package host ↔ q ≠ package ∧ s.HasSelection q host := by
  rw [competitors, List.mem_filter, decide_eq_true_eq, and_iff_right_iff_imp]
  rintro ⟨-, has⟩
  obtain ⟨r, known⟩ := consistent.known_of_hasSelection has
  rw [Std.ExtTreeMap.mem_keys, Std.ExtTreeMap.mem_iff_isSome_getElem?, known, Option.isSome_some]

theorem nodup_competitors (s : Scope) (package : String) (host : LooseString) :
    (s.competitors package host).Nodup :=
  Std.ExtTreeMap.nodup_keys.filter _

/-! ## Giving up -/

/-- The package `owner` gave up the selection of a host, and nothing else has changed. -/
structure GivenUpBy (owner : String) (host : LooseString) (s s' : Scope) : Prop where
  record : s'.packages[owner]? = s.packages[owner]?.map (·.yielded host)
  others : ∀ q : String, q ≠ owner → s'.packages[q]? = s.packages[q]?
  slots : ∀ (k : LooseString) (q : String), s'.exclusive[k]? = some q ↔
    s.exclusive[k]? = some q ∧ ¬ (q = owner ∧ k = host)
  approvals : ∀ (k : LooseString) (q : String), q ∈ s'.approvedFor k ↔
    q ∈ s.approvedFor k ∧ ¬ (q = owner ∧ k = host)

theorem givenUpBy_clear (known : s.packages[owner]? = some r) (host : LooseString) :
    GivenUpBy owner host s (s.clear owner r host) := by
  by_cases selected : r.hosts.get? host = some .selected
  · rw [clear_of_selected ((stateFor_eq_iff (by decide)).2 selected)]
    refine ⟨?_, fun q other => ?_, fun k q => ?_, fun k q => ?_⟩
    · rw [packages_release, getElem?_putRecord, if_pos rfl, known, Option.map_some, Record.yielded,
        if_pos selected]
    · rw [packages_release, getElem?_putRecord, if_neg other]
    · rw [holder_release, List.mem_singleton, exclusive_putRecord]
    · rw [mem_approvedFor_release, List.mem_singleton]
      rfl
  · rw [clear_of_unselected fun state => selected ((stateFor_eq_iff (by decide)).1 state)]
    refine ⟨?_, fun q _ => ?_, fun k q => ?_, fun k q => ?_⟩
    · rw [packages_release, known, Option.map_some, Record.yielded, if_neg selected]
    · rw [packages_release]
    · rw [holder_release, List.mem_singleton]
    · rw [mem_approvedFor_release, List.mem_singleton]

/-- Another package has what it had of the host. -/
theorem GivenUpBy.stateOf?_of_ne (givenUp : GivenUpBy owner host s s') (other : q ≠ owner)
    (k : LooseString) : s'.stateOf? q k = s.stateOf? q k := by
  rw [stateOf?, givenUp.others q other, stateOf?]

/-- Who gave up is a competitor no more, and nobody else has become one. -/
theorem GivenUpBy.hasSelection_iff (givenUp : GivenUpBy owner host s s') :
    s'.HasSelection q host ↔ s.HasSelection q host ∧ q ≠ owner := by
  unfold HasSelection
  by_cases own : q = owner
  · subst own
    have unselected : s'.stateOf? q host ≠ some .selected := by
      rw [stateOf?, givenUp.record]
      cases s.packages[q]? with
      | none => simp
      | some r =>
          rw [Option.map_some, Option.bind_some, Record.yielded]
          split
          · rw [get?_setState, if_pos rfl]
            decide
          · assumption
    simp [unselected, givenUp.approvals]
  · rw [givenUp.stateOf?_of_ne own, givenUp.approvals]
    simp [own]

theorem GivenUpBy.mem_competitors_iff (givenUp : GivenUpBy owner host s s')
    (consistent : s.Consistent user) (consistent' : s'.Consistent user) :
    q ∈ s'.competitors package host ↔ q ∈ s.competitors package host ∧ q ≠ owner := by
  rw [Scope.mem_competitors_iff consistent', Scope.mem_competitors_iff consistent,
    givenUp.hasSelection_iff, and_assoc]

/-- Each time a competitor gives up there is one less. -/
theorem GivenUpBy.length_competitors (givenUp : GivenUpBy owner host s s')
    (consistent : s.Consistent user) (consistent' : s'.Consistent user)
    (competes : owner ∈ s.competitors package host) :
    (s'.competitors package host).length < (s.competitors package host).length := by
  have left {q : String} (member : q ∈ s'.competitors package host) :=
    (givenUp.mem_competitors_iff consistent consistent').1 member
  have once : (owner :: s'.competitors package host).Nodup :=
    List.nodup_cons.2 ⟨fun member => (left member).2 rfl, nodup_competitors ..⟩
  have among : owner :: s'.competitors package host ⊆ s.competitors package host :=
    List.cons_subset.2 ⟨competes, fun q member => (left member).1⟩
  exact (once.subperm among).length_le

/-! ## Coming to the host -/

/-- The package has come to a host, after the packages `owners` gave up their selections of it. -/
structure Conceded (package : String) (host : LooseString) (owners : List String) (s s' : Scope) :
    Prop where
  winner : s'.packages[package]? = s.packages[package]?.map (·.granted host)
  losers : ∀ o ∈ owners, s'.packages[o]? = s.packages[o]?.map (·.yielded host)
  others : ∀ q : String, q ≠ package → q ∉ owners → s'.packages[q]? = s.packages[q]?
  slots : ∀ (k : LooseString) (q : String), s'.exclusive[k]? = some q ↔
    if k = host then q = package ∧ s.stateOf? package host ≠ some .verified
    else s.exclusive[k]? = some q
  approvals : ∀ (k : LooseString) (q : String), q ∈ s'.approvedFor k ↔
    q ∈ s.approvedFor k ∧ ¬ (q ∈ owners ∧ k = host) ∨
      q = package ∧ k = host ∧ s.stateOf? package host = some .verified

/-- The package was given the host at once. -/
theorem GrantedTo.conceded (known : s.packages[package]? = some r)
    (granted : GrantedTo package r host s s') : Conceded package host [] s s' where
  winner := by rw [granted.records, if_pos rfl, known, Option.map_some]
  losers o member := absurd member List.not_mem_nil
  others q other _ := by rw [granted.records, if_neg other]
  slots k q := by rw [granted.slots, stateOf?_of_record known]
  approvals k q := by
    rw [granted.approvals, stateOf?_of_record known]
    simp only [List.not_mem_nil, false_and, not_false_eq_true, and_true]

/-- One more package gave up before. -/
theorem Conceded.cons {owners : List String} (givenUp : GivenUpBy owner host s t)
    (conceded : Conceded package host owners t s') (apart : owner ≠ package)
    (fresh : owner ∉ owners) : Conceded package host (owner :: owners) s s' where
  winner := by rw [conceded.winner, givenUp.others package apart.symm]
  losers o member := by
    rcases List.mem_cons.1 member with rfl | later
    · rw [conceded.others o apart fresh, givenUp.record]
    · have other : o ≠ owner := fun own => fresh (own ▸ later)
      rw [conceded.losers o later, givenUp.others o other]
  others q other spared := by
    rw [List.mem_cons, not_or] at spared
    obtain ⟨ne, later⟩ := spared
    rw [conceded.others q other later, givenUp.others q ne]
  slots k q := by
    rw [conceded.slots, givenUp.stateOf?_of_ne apart.symm, givenUp.slots]
    by_cases here : k = host
    · rw [if_pos here, if_pos here]
    · simp only [here, if_false, and_false, not_false_eq_true, and_true]
  approvals k q := by
    rw [conceded.approvals, givenUp.stateOf?_of_ne apart.symm, givenUp.approvals, List.mem_cons]
    tauto

namespace Conceded

variable {owners : List String}

/-- The package has what it asked for. -/
theorem hasSelection (conceded : Conceded package host owners s s')
    (known : s.packages[package]? = some r) : s'.HasSelection package host := by
  rw [HasSelection, stateOf?, conceded.winner, conceded.approvals, stateOf?_of_record known, known,
    Option.map_some, Option.bind_some, Record.granted]
  split
  · rename_i verified
    exact Or.inr (Or.inr ⟨rfl, rfl, verified⟩)
  · exact Or.inl ((get?_setState ..).trans (if_pos rfl))

/-- Whoever held the slot before has the host unclaimed. -/
theorem unclaimed (conceded : Conceded package host owners s s') (consistent : s.Consistent user)
    (consistent' : s'.Consistent user) (held : s.exclusive[host]? = some q) (other : q ≠ package) :
    s'.stateOf? q host = some .unclaimed := by
  obtain ⟨r, known, selected⟩ := stateOf?_eq_some_iff.1 ((consistent.slot_iff host q).1 held)
  -- Nobody but the package can hold the slot now, so the former holder was among those named.
  have named : q ∈ owners := by
    by_contra spared
    have kept : s'.exclusive[host]? = some q := by
      rw [consistent'.slot_iff, stateOf?, conceded.others q other spared, ← stateOf?,
        ← consistent.slot_iff]
      exact held
    exact other (((conceded.slots host q).1 kept |> (if_pos rfl).mp).1)
  rw [stateOf?, conceded.losers q named, known, Option.map_some, Option.bind_some, Record.yielded,
    if_pos selected, get?_setState, if_pos rfl]

/-- Whoever shared the host before has it verified still. -/
theorem still_verified (conceded : Conceded package host owners s s')
    (consistent : s.Consistent user) (named : q ∈ owners) (shared : q ∈ s.approvedFor host) :
    s'.stateOf? q host = some .verified := by
  obtain ⟨r, known, verified⟩ := stateOf?_eq_some_iff.1 (consistent.verified host q shared)
  have unselected : r.hosts.get? host ≠ some .selected := by
    rw [verified]
    decide
  rw [stateOf?, conceded.losers q named, known, Option.map_some, Option.bind_some, Record.yielded,
    if_neg unselected, verified]

end Conceded

end Scope

namespace Registry

variable {reg : Registry} {user : Int} {package : String} {r : Record} {spelling : LooseString}

/-! ## Asking again -/

/-- Ask for a host; when the refusal names an owner, take the owner's selection back and ask again, but
stand no more refusals than the given number.  The answer is the owners in the order in which they
were named, and the registry in which the package was given the host. -/
def insist (user : Int) (package : String) (spelling : LooseString) :
    Nat → Registry → Option (List String × Registry)
  | refusals, reg =>
      match reg.setSelected ⟨some user, some package⟩ (some spelling) with
      | (.ok (), given) => some ([], given)
      | (.error (.hostOwned _ owner), refused) =>
          match refusals with
          | 0 => none
          | refusals + 1 =>
              match refused.clearSelected ⟨some user, some owner⟩ (some spelling) with
              | (.ok (), cleared) =>
                  (insist user package spelling refusals cleared).map fun (owners, given) =>
                    (owner :: owners, given)
              | (.error _, _) => none
      | (.error _, _) => none

theorem insist_of_given {reg' : Registry} (refusals : Nat)
    (given : reg.setSelected ⟨some user, some package⟩ (some spelling) = (.ok (), reg')) :
    reg.insist user package spelling refusals = some ([], reg') := by
  unfold insist
  rw [given]

theorem insist_of_refused {host : LooseString} {owner : String} {reg' : Registry} (refusals : Nat)
    (refused : reg.setSelected ⟨some user, some package⟩ (some spelling) =
      (.error (.hostOwned host owner), reg))
    (cleared : reg.clearSelected ⟨some user, some owner⟩ (some spelling) = (.ok (), reg')) :
    reg.insist user package spelling (refusals + 1) =
      (reg'.insist user package spelling refusals).map fun answer =>
        (owner :: answer.1, answer.2) := by
  rw [insist, refused]
  simp only [cleared]

/-- A package that lists a host is given it, or is told of a competitor that can give it up. -/
theorem insist_step (consistent : reg.Consistent)
    (known : (reg.scopeOrEmpty user).packages[package]? = some r)
    (listed : Host.normalize spelling ∈ r.hosts.keys) :
    let host := Host.normalize spelling
    let before := reg.scopeOrEmpty user
    (∃ s, reg.setSelected ⟨some user, some package⟩ (some spelling) = (.ok (), reg.putScope user s) ∧
      s.Consistent user ∧ Scope.GrantedTo package r host before s) ∨
    ∃ owner t, reg.setSelected ⟨some user, some package⟩ (some spelling) =
        (.error (.hostOwned host owner), reg) ∧
      reg.clearSelected ⟨some user, some owner⟩ (some spelling) = (.ok (), reg.putScope user t) ∧
      owner ∈ before.competitors package host ∧ t.Consistent user ∧
      Scope.GivenUpBy owner host before t := by
  intro host before
  have scope := consistent.scopeOrEmpty user
  have isNormal : Host.IsNormal host := Host.normalize_normalize spelling
  rw [setSelected_of_known known]
  cases selected : before.select user package r host with
  | ok s =>
      exact Or.inl ⟨s, rfl, (scope.select known isNormal selected).2,
        scope.grantedTo known selected⟩
  | error why =>
      obtain ⟨owner, rfl, -, bars⟩ := scope.barred_of_select known listed selected
      obtain ⟨ro, holds⟩ := scope.known_of_hasSelection bars.hasSelection
      exact Or.inr ⟨owner, before.clear owner ro host, rfl, clearSelected_of_known holds spelling,
        (Scope.mem_competitors_iff scope).2 ⟨bars.1, bars.hasSelection⟩,
        (scope.clear holds isNormal).2, Scope.givenUpBy_clear holds host⟩

/-- A package that lists a host comes to it when it may be refused as often as it has competitors. -/
theorem exists_insist (refusals : Nat) (consistent : reg.Consistent)
    (known : (reg.scopeOrEmpty user).packages[package]? = some r)
    (listed : Host.normalize spelling ∈ r.hosts.keys)
    (room : ((reg.scopeOrEmpty user).competitors package (Host.normalize spelling)).length ≤
      refusals) :
    ∃ owners s, reg.insist user package spelling refusals = some (owners, reg.putScope user s) ∧
      s.Consistent user ∧ owners.Nodup ∧
      owners ⊆ (reg.scopeOrEmpty user).competitors package (Host.normalize spelling) ∧
      Scope.Conceded package (Host.normalize spelling) owners (reg.scopeOrEmpty user) s := by
  induction refusals generalizing reg r with
  | zero =>
      rcases insist_step consistent known listed with
        ⟨s, given, whole, granted⟩ | ⟨owner, t, -, -, competes, -⟩
      · exact ⟨[], s, insist_of_given 0 given, whole, List.nodup_nil, List.nil_subset _,
          granted.conceded known⟩
      · exact absurd (List.length_pos_of_mem competes) (by omega)
  | succ refusals ih =>
      rcases insist_step consistent known listed with
        ⟨s, given, whole, granted⟩ | ⟨owner, t, refused, cleared, competes, whole, givenUp⟩
      · exact ⟨[], s, insist_of_given _ given, whole, List.nodup_nil, List.nil_subset _,
          granted.conceded known⟩
      · have scope := consistent.scopeOrEmpty user
        have apart : owner ≠ package := ((Scope.mem_competitors_iff scope).1 competes).1
        have fewer := givenUp.length_competitors scope whole competes
        obtain ⟨owners, s, asked, whole', once, among, conceded⟩ :=
          ih (consistent.putScope whole)
            (by rw [scopeOrEmpty_putScope, givenUp.others package apart.symm, known]) listed
            (by rw [scopeOrEmpty_putScope]; omega)
        rw [scopeOrEmpty_putScope] at among conceded
        -- Those that are named later compete still, and the owner does not.
        have left {q : String} (member : q ∈ owners) := (givenUp.mem_competitors_iff scope whole).1
          (among member)
        refine ⟨owner :: owners, s, ?_, whole', ?_, ?_, ?_⟩
        · rw [insist_of_refused refusals refused cleared, asked, putScope_putScope, Option.map_some]
        · exact List.nodup_cons.2 ⟨fun again => (left again).2 rfl, once⟩
        · exact List.cons_subset.2 ⟨competes, fun q member => (left member).1⟩
        · exact conceded.cons givenUp apart fun again => (left again).2 rfl

/-- After any run, a package that lists a host and goes on asking for it comes to it.  It is refused
at most once for each other package that had a selection of the host at first, and each refusal names
one of these.  In the end the package has the selection, who held the slot has the host unclaimed, who
shared the host has it verified still, and nothing else has changed. -/
theorem refusals_lead_to_selection (ops : List Operation) (user : Int) (package : String)
    (spelling : LooseString) (r : Record)
    (known : (empty.run ops).2.userState ⟨some user, some package⟩ = .ok r)
    (listed : Host.normalize spelling ∈ r.hosts.keys) :
    let reg := (empty.run ops).2
    let host := Host.normalize spelling
    let before := reg.scopeOrEmpty user
    let competitors := before.competitors package host
    ∃ owners last, reg.insist user package spelling competitors.length = some (owners, last) ∧
      let after := last.scopeOrEmpty user
      owners.length ≤ competitors.length ∧
      (∀ o ∈ owners, o ≠ package ∧ before.HasSelection o host ∧
        ∃ r', reg.userState ⟨some user, some o⟩ = .ok r') ∧
      after.HasSelection package host ∧
      (∀ q, before.exclusive[host]? = some q → q ≠ package →
        after.stateOf? q host = some .unclaimed) ∧
      (∀ o ∈ owners, o ∈ before.approvedFor host → after.stateOf? o host = some .verified) ∧
      Scope.Conceded package host owners before after ∧
      ∀ v, v ≠ user → last.scopes[v]? = reg.scopes[v]? := by
  intro reg host before competitors
  have consistent : reg.Consistent := consistent_empty.run ops
  have scope := consistent.scopeOrEmpty user
  rw [userState_mk_eq_ok_iff] at known
  obtain ⟨owners, s, asked, whole, once, among, conceded⟩ :=
    exists_insist competitors.length consistent known listed le_rfl
  refine ⟨owners, reg.putScope user s, asked, ?_⟩
  rw [scopeOrEmpty_putScope]
  refine ⟨(once.subperm among).length_le, fun o member => ?_, conceded.hasSelection known,
    fun q held other => conceded.unclaimed scope whole held other,
    fun o member shared => conceded.still_verified scope member shared, conceded, fun v ne => ?_⟩
  · obtain ⟨apart, has⟩ := (Scope.mem_competitors_iff scope).1 (among member)
    obtain ⟨r', known'⟩ := scope.known_of_hasSelection has
    exact ⟨apart, has, r', userState_mk_eq_ok_iff.2 known'⟩
  · rw [getElem?_putScope, if_neg ne]

/-- Two packages share a host of which one of them holds another, and a third comes after them. -/
def latecomer : List Operation :=
  rivals ++ [.setSelected ⟨some 1, some "q"⟩ (some "b"),
    .addPackage ⟨some 1, some "s"⟩ (.ofNat 9) (some [some "a", some "b"]) (some true)]

/-- The third package comes to the held host after one refusal, and to the shared one after two. -/
theorem refusals_lead_to_selection_latecomer :
    let reg := (empty.run latecomer).2
    let asked (host : LooseString) (owners : List String) : Prop :=
      ∃ last, reg.insist 1 "s" host owners.length = some (owners, last) ∧
        (last.scopeOrEmpty 1).HasSelection "s" (Host.normalize host)
    asked " A " ["p"] ∧ asked "b" ["p", "q"] := by
  have lists : ∃ r, (empty.run latecomer).2.userState ⟨some 1, some "s"⟩ = .ok r ∧
      r.hosts.keys = ["a", "b"] := ⟨_, by cbv, by cbv⟩
  obtain ⟨r, known, keys⟩ := lists
  have comes (host : LooseString) (owners : List String) (listed : Host.normalize host ∈ r.hosts.keys)
      (count : (((empty.run latecomer).2.scopeOrEmpty 1).competitors "s"
        (Host.normalize host)).length = owners.length)
      (named : ((empty.run latecomer).2.insist 1 "s" host owners.length).map Prod.fst =
        some owners) :
      ∃ last, (empty.run latecomer).2.insist 1 "s" host owners.length = some (owners, last) ∧
        (last.scopeOrEmpty 1).HasSelection "s" (Host.normalize host) := by
    obtain ⟨found, last, asked, _, _, has, _⟩ :=
      refusals_lead_to_selection latecomer 1 "s" host r known listed
    rw [count] at asked
    rw [asked, Option.map_some, Option.some.injEq] at named
    exact ⟨last, named ▸ asked, has⟩
  exact ⟨comes " A " ["p"] (by rw [keys]; decide +kernel) (by cbv) (by cbv),
    comes "b" ["p", "q"] (by rw [keys]; decide +kernel) (by cbv) (by cbv)⟩

end Registry
end LinkOwnership
