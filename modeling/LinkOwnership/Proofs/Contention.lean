/-
# LinkOwnership.Proofs.Contention -- packages that ask for a host nobody has

A host that nobody holds and nobody is approved for is decided by the first package that asks for
it, whatever the others do and in whatever order (`Registry.contended_host`).  A package that has
not verified the host takes its slot: the same package may ask again, and every other one is told
who holds it.  A package that has verified it is approved, and so is every other one that has; the
rest are told the least of those that are approved by then.

A request for a held host leaves the registry as it is (`request_held`), and a request of a
verified package for one that is not held approves the package (`request_verified`).  The
former says all about a run whose first package takes the slot (`run_taken`); for the other runs
`Shared` is what each request keeps.
-/
import Mathlib
import LinkOwnership.Proofs.Located

namespace LinkOwnership

set_option autoImplicit false

open LinkOwnership.Text (LooseString)

/-! ## What a scope answers -/

namespace Scope

/-- Approving a package that is approved changes nothing. -/
theorem approve_of_mem {s : Scope} {package : String} {host : LooseString} (full : s.NoEmptySet)
    (member : package ∈ s.approvedFor host) : s.approve package host = s := by
  refine eq_of_holdings (full.approve package host) full (fun _ => rfl) (fun _ _ => Iff.rfl) ?_
  intro k q
  rw [mem_approvedFor_approve]
  constructor
  · rintro (⟨rfl, rfl⟩ | there)
    · exact member
    · exact there
  · exact Or.inr

namespace Consistent

variable {user : Int} {s : Scope} {package : String} {r : Record} {host : LooseString}
  {state : LinkState}

/-- Whoever holds the slot keeps it. -/
theorem select_own (consistent : s.Consistent user) (known : s.packages[package]? = some r)
    (held : s.exclusive[host]? = some package) : s.select user package r host = .ok s := by
  have selected : r.hosts.get? host = some .selected := (consistent.own known host).1.1 held
  exact select_of_selected selected (Or.inl rfl)

/-- Everyone else is refused a held host. -/
theorem select_rival (consistent : s.Consistent user) (known : s.packages[package]? = some r)
    (declared : r.hosts.get? host = some state) {holder : String}
    (held : s.exclusive[host]? = some holder) (other : package ≠ holder) :
    s.select user package r host = .error (.hostOwned host holder) := by
  have unselected : state ≠ .selected := by
    rintro rfl
    have own := (consistent.own known host).1.2 declared
    exact other (Option.some.inj (own.symm.trans held))
  have unapproved := consistent.approvedFor_eq_empty held package
  simp only [Scope.select, declared, held, unselected, unapproved, or_self, if_false]

/-- A verified package is approved for a host that nobody holds. -/
theorem select_verified (consistent : s.Consistent user)
    (declared : r.hosts.get? host = some .verified) (free : s.exclusive[host]? = none) :
    s.select user package r host = .ok (s.approve package host) := by
  by_cases member : package ∈ s.approvedFor host
  · rw [approve_of_mem consistent.full member]
    exact select_of_selected declared (Or.inr member)
  · simp only [Scope.select, declared, free, member, reduceCtorEq, or_self, if_false, if_true]

/-- What anyone else makes of a host that nobody holds: it goes to the package, or is refused in
favour of the least of the approved ones. -/
theorem select_unverified (consistent : s.Consistent user)
    (known : s.packages[package]? = some r) (declared : r.hosts.get? host = some state)
    (unverified : s.stateOf? package host ≠ some .verified) (free : s.exclusive[host]? = none) :
    s.select user package r host =
      match (s.approvedFor host).min? with
      | some least => .error (.hostOwned host least)
      | none => .ok (({ s with exclusive := s.exclusive.insert host package }).putRecord package
          (r.setState host .selected)) := by
  have unselected : state ≠ .selected := by
    rintro rfl
    exact consistent.unselected_of_free free package ((stateOf?_of_record known host).trans declared)
  have unapproved : package ∉ s.approvedFor host := fun member =>
    unverified (consistent.verified host package member)
  have other : state ≠ .verified := by
    rintro rfl
    exact unverified ((stateOf?_of_record known host).trans declared)
  cases least : (s.approvedFor host).min? <;>
    simp only [Scope.select, declared, free, unselected, unapproved, other, least, or_self,
      if_false]

end Consistent

end Scope

namespace Registry

variable {reg reg' : Registry} {user : Int} {host : LooseString}

/-! ## Requests -/

def request (user : Int) (host : LooseString) (package : String) : Operation :=
  .setSelected ⟨some user, some package⟩ (some host)

/-- Packages of a user ask for a host, one after the other. -/
def requests (user : Int) (host : LooseString) (packages : List String) : List Operation :=
  packages.map (request user host)

/-- The package is known to the user, and its record lists the host. -/
def Lists (reg : Registry) (user : Int) (host : LooseString) (package : String) : Prop :=
  ∃ state, (reg.scopeOrEmpty user).stateOf? package host = some state

def Verifies (reg : Registry) (user : Int) (host : LooseString) (package : String) : Prop :=
  (reg.scopeOrEmpty user).stateOf? package host = some .verified

instance (reg : Registry) (user : Int) (host : LooseString) (package : String) :
    Decidable (reg.Verifies user host package) := inferInstanceAs (Decidable (_ = _))

/-- No package of the user holds the host or is approved for it. -/
structure Available (reg : Registry) (user : Int) (host : LooseString) : Prop where
  free : (reg.scopeOrEmpty user).exclusive[host]? = none
  nobody : (reg.scopeOrEmpty user).approvedFor host = ∅

/-- The first of some packages, if there is one, has verified the host. -/
def VerifierLeads (reg : Registry) (user : Int) (host : LooseString) (packages : List String) :
    Prop :=
  ∀ p, packages.head? = some p → reg.Verifies user host p

theorem VerifierLeads.before {packages later : List String}
    (leads : reg.VerifierLeads user host (packages ++ later)) :
    reg.VerifierLeads user host packages := fun p head =>
  leads p (by rw [List.head?_append, head, Option.some_or])

/-- A request for a host that the package lists is up to the scope of the user. -/
theorem apply_request (consistent : reg.Consistent) {package : String} {state : LinkState}
    (lists : (reg.scopeOrEmpty user).stateOf? package host = some state) :
    ∃ r, (reg.scopeOrEmpty user).packages[package]? = some r ∧ r.hosts.get? host = some state ∧
      reg.scopes[user]? = some (reg.scopeOrEmpty user) ∧
      (request user host package).apply reg =
        match (reg.scopeOrEmpty user).select user package r host with
        | .ok s => (.ok .done, reg.putScope user s)
        | .error why => (.error why, reg) := by
  obtain ⟨r, known, declared⟩ := Scope.stateOf?_eq_some_iff.1 lists
  have normal : Host.normalize host = host :=
    Scope.normal_of_stateOf? ((consistent.scopeOrEmpty user).normal package) lists
  refine ⟨r, known, declared, scope_of_known known, ?_⟩
  have normalized : Host.normalize? (some host) = .ok host := congrArg Except.ok normal
  simp only [request, Operation.apply, setSelected_eq_changeAt, changeAt_of_known normalized known]
  cases (reg.scopeOrEmpty user).select user package r host <;> rfl

/-- A request for a held host changes nothing, and only the holder is not refused. -/
theorem request_held (consistent : reg.Consistent) {package holder : String}
    (lists : reg.Lists user host package)
    (held : (reg.scopeOrEmpty user).exclusive[host]? = some holder) :
    (request user host package).apply reg =
      (if package = holder then .ok .done else .error (.hostOwned host holder), reg) := by
  obtain ⟨state, lists⟩ := lists
  obtain ⟨r, known, declared, found, applied⟩ := apply_request consistent lists
  have scope := consistent.scopeOrEmpty user
  rw [applied]
  by_cases own : package = holder
  · rw [own] at known
    rw [if_pos own, own, scope.select_own known held]
    exact congrArg (Prod.mk _) (putScope_self found)
  · rw [if_neg own, scope.select_rival known declared held own]

/-- A verified package is approved for a host that nobody holds. -/
theorem request_verified (consistent : reg.Consistent) {package : String}
    (verifies : reg.Verifies user host package)
    (free : (reg.scopeOrEmpty user).exclusive[host]? = none) :
    (request user host package).apply reg =
      (.ok .done, reg.putScope user ((reg.scopeOrEmpty user).approve package host)) := by
  obtain ⟨r, _, declared, _, applied⟩ := apply_request consistent verifies
  rw [applied, (consistent.scopeOrEmpty user).select_verified declared free]

/-- Any other package is refused a shared host in favour of the least that shares it. -/
theorem request_shared (consistent : reg.Consistent) {package least : String}
    (lists : reg.Lists user host package) (unverified : ¬ reg.Verifies user host package)
    (free : (reg.scopeOrEmpty user).exclusive[host]? = none)
    (shared : ((reg.scopeOrEmpty user).approvedFor host).min? = some least) :
    (request user host package).apply reg = (.error (.hostOwned host least), reg) := by
  obtain ⟨state, lists⟩ := lists
  obtain ⟨r, known, declared, _, applied⟩ := apply_request consistent lists
  rw [applied, (consistent.scopeOrEmpty user).select_unverified known declared unverified free,
    shared]

/-! ## Runs of requests -/

/-- Only what the packages of a user have of one host may have changed in the indexes. -/
structure Elsewhere (user : Int) (host : LooseString) (reg reg' : Registry) : Prop where
  users : ∀ v, v ≠ user → reg'.scopes[v]? = reg.scopes[v]?
  slots : ∀ k, k ≠ host →
    (reg'.scopeOrEmpty user).exclusive[k]? = (reg.scopeOrEmpty user).exclusive[k]?
  approvals : ∀ k, k ≠ host →
    (reg'.scopeOrEmpty user).approved[k]? = (reg.scopeOrEmpty user).approved[k]?

namespace Elsewhere

theorem refl (user : Int) (host : LooseString) (reg : Registry) : Elsewhere user host reg reg :=
  ⟨fun _ _ => rfl, fun _ _ => rfl, fun _ _ => rfl⟩

theorem trans {mid : Registry} (first : Elsewhere user host reg mid)
    (second : Elsewhere user host mid reg') : Elsewhere user host reg reg' where
  users v ne := (second.users v ne).trans (first.users v ne)
  slots k ne := (second.slots k ne).trans (first.slots k ne)
  approvals k ne := (second.approvals k ne).trans (first.approvals k ne)

theorem putScope {s : Scope}
    (slots : ∀ k, k ≠ host → s.exclusive[k]? = (reg.scopeOrEmpty user).exclusive[k]?)
    (approvals : ∀ k, k ≠ host → s.approved[k]? = (reg.scopeOrEmpty user).approved[k]?) :
    Elsewhere user host reg (reg.putScope user s) where
  users v ne := by rw [getElem?_putScope, if_neg ne]
  slots := by rw [scopeOrEmpty_putScope]; exact slots
  approvals := by rw [scopeOrEmpty_putScope]; exact approvals

end Elsewhere

/-- A host that was free has gone to one package. -/
structure Taken (user : Int) (host : LooseString) (winner : String) (reg reg' : Registry) :
    Prop where
  holder : (reg'.scopeOrEmpty user).exclusive[host]? = some winner
  nobody : (reg'.scopeOrEmpty user).approvedFor host = ∅
  record : (reg'.scopeOrEmpty user).packages[winner]? =
    (reg.scopeOrEmpty user).packages[winner]?.map (·.setState host .selected)
  /-- The records of all the others are as they were, those of the refused ones too. -/
  others : ∀ p, p ≠ winner →
    (reg'.scopeOrEmpty user).packages[p]? = (reg.scopeOrEmpty user).packages[p]?
  elsewhere : Elsewhere user host reg reg'

/-- A host that was free is shared by the packages that have asked for it and verify it. -/
structure Shared (user : Int) (host : LooseString) (asked : List String) (reg reg' : Registry) :
    Prop where
  free : (reg'.scopeOrEmpty user).exclusive[host]? = none
  unselected : ∀ p, (reg'.scopeOrEmpty user).stateOf? p host ≠ some .selected
  approved : ∀ p, p ∈ (reg'.scopeOrEmpty user).approvedFor host ↔
    p ∈ asked ∧ reg.Verifies user host p
  records : ∀ p : String,
    (reg'.scopeOrEmpty user).packages[p]? = (reg.scopeOrEmpty user).packages[p]?
  elsewhere : Elsewhere user host reg reg'

/-- The first package to ask takes the slot of a free host if it has not verified the host. -/
theorem request_taken (consistent : reg.Consistent) {package : String}
    (available : reg.Available user host) (lists : reg.Lists user host package)
    (unverified : ¬ reg.Verifies user host package) :
    ((request user host package).apply reg).1 = .ok .done ∧
      Taken user host package reg ((request user host package).apply reg).2 := by
  obtain ⟨state, lists⟩ := lists
  obtain ⟨r, known, declared, _, applied⟩ := apply_request consistent lists
  rw [applied, (consistent.scopeOrEmpty user).select_unverified known declared unverified
    available.free, available.nobody, Std.ExtTreeSet.min?_empty]
  refine ⟨rfl, ?_⟩
  constructor
  case elsewhere =>
    exact .putScope (fun k ne => (getElem?_insert_if ..).trans (if_neg ne)) fun _ _ => rfl
  all_goals rw [scopeOrEmpty_putScope]
  case holder => exact (getElem?_insert_if ..).trans (if_pos rfl)
  case nobody => exact available.nobody
  case record => rw [Scope.getElem?_putRecord, if_pos rfl, known, Option.map_some]
  case others =>
    intro p ne
    rw [Scope.getElem?_putRecord, if_neg ne]

/-- A request is answered where those before it have led. -/
theorem answer_requests (reg : Registry) (earlier : List String) (p : String)
    (later : List String) :
    (reg.run (requests user host (earlier ++ p :: later))).1[earlier.length]? =
      some ((request user host p).apply (reg.run (requests user host earlier)).2).1 := by
  simpa only [requests, List.map_append, List.map_cons, List.length_map] using
    reg.getElem?_run (requests user host earlier) (request user host p) (requests user host later)

/-- While a host is held, requests for it change nothing. -/
theorem run_held (consistent : reg.Consistent) {holder : String}
    (held : (reg.scopeOrEmpty user).exclusive[host]? = some holder) (packages : List String)
    (lists : ∀ p ∈ packages, reg.Lists user host p) :
    reg.run (requests user host packages) =
      (packages.map fun p => if p = holder then .ok .done else .error (.hostOwned host holder),
        reg) := by
  induction packages with
  | nil => rfl
  | cons p rest ih =>
      have first := request_held consistent (lists p List.mem_cons_self) held
      have others := ih fun q member => lists q (List.mem_cons_of_mem p member)
      simp only [requests, List.map_cons, run, first] at others ⊢
      rw [others]

theorem Taken.lists {winner p : String} (taken : Taken user host winner reg reg')
    (lists : reg.Lists user host p) : reg'.Lists user host p := by
  obtain ⟨state, found⟩ := lists
  obtain ⟨r, known, declared⟩ := Scope.stateOf?_eq_some_iff.1 found
  by_cases own : p = winner
  · refine ⟨.selected, Scope.stateOf?_eq_some_iff.2 ⟨r.setState host .selected, ?_, ?_⟩⟩
    · rw [own, taken.record, ← own, known, Option.map_some]
    · rw [Scope.get?_setState, if_pos rfl]
  · exact ⟨state, Scope.stateOf?_eq_some_iff.2 ⟨r, (taken.others p own).trans known, declared⟩⟩

/-- Requests of which the first is that of a package that has not verified the host. -/
theorem run_taken (consistent : reg.Consistent) (available : reg.Available user host)
    {first : String} {rest : List String} (lists : ∀ p ∈ first :: rest, reg.Lists user host p)
    (unverified : ¬ reg.Verifies user host first) :
    (reg.run (requests user host (first :: rest))).1 = (first :: rest).map (fun p =>
        if p = first then .ok .done else .error (.hostOwned host first)) ∧
      Taken user host first reg (reg.run (requests user host (first :: rest))).2 := by
  obtain ⟨answered, taken⟩ :=
    request_taken consistent available (lists first List.mem_cons_self) unverified
  have later := run_held ((request user host first).apply_consistent consistent) taken.holder rest
    fun p member => taken.lists (lists p (List.mem_cons_of_mem first member))
  have whole : reg.run (requests user host (first :: rest)) =
      (((request user host first).apply reg).1 ::
        (((request user host first).apply reg).2.run (requests user host rest)).1,
        (((request user host first).apply reg).2.run (requests user host rest)).2) := rfl
  rw [whole, later, answered, List.map_cons, if_pos rfl]
  exact ⟨rfl, taken⟩

namespace Shared

variable {asked : List String}

/-- Before anyone has asked. -/
theorem start (consistent : reg.Consistent) (available : reg.Available user host) :
    Shared user host [] reg reg where
  free := available.free
  unselected := (consistent.scopeOrEmpty user).unselected_of_free available.free
  approved p := by
    rw [available.nobody]
    exact iff_of_false Std.ExtTreeSet.not_mem_empty fun both => List.not_mem_nil both.1
  records _ := rfl
  elsewhere := .refl user host reg

theorem stateOf?_eq (shared : Shared user host asked reg reg') (p : String) (k : LooseString) :
    (reg'.scopeOrEmpty user).stateOf? p k = (reg.scopeOrEmpty user).stateOf? p k := by
  rw [Scope.stateOf?, shared.records p, Scope.stateOf?]

theorem lists (shared : Shared user host asked reg reg') {p : String}
    (lists : reg.Lists user host p) : reg'.Lists user host p := by
  obtain ⟨state, found⟩ := lists
  exact ⟨state, (shared.stateOf?_eq p host).trans found⟩

theorem verifies_iff (shared : Shared user host asked reg reg') (p : String) :
    reg'.Verifies user host p ↔ reg.Verifies user host p := by
  rw [Verifies, shared.stateOf?_eq, Verifies]

/-- A verified package joins those that share the host. -/
theorem verified (shared : Shared user host asked reg reg') (consistent : reg'.Consistent)
    {p : String} (verifies : reg.Verifies user host p) :
    ((request user host p).apply reg').1 = .ok .done ∧
      Shared user host (asked ++ [p]) reg ((request user host p).apply reg').2 := by
  rw [request_verified consistent ((shared.verifies_iff p).2 verifies) shared.free]
  refine ⟨rfl, ?_⟩
  constructor
  case elsewhere =>
    refine shared.elsewhere.trans (.putScope (fun _ _ => rfl) fun k ne => ?_)
    rw [Scope.getElem?_approve, if_neg ne]
  all_goals rw [scopeOrEmpty_putScope]
  case free => exact shared.free
  case unselected => exact shared.unselected
  case records => exact shared.records
  case approved =>
    intro q
    rw [Scope.mem_approvedFor_approve, shared.approved, List.mem_append, List.mem_singleton]
    constructor
    · rintro (⟨rfl, _⟩ | ⟨member, there⟩)
      · exact ⟨Or.inr rfl, verifies⟩
      · exact ⟨Or.inl member, there⟩
    · rintro ⟨member | rfl, there⟩
      · exact Or.inr ⟨member, there⟩
      · exact Or.inl ⟨rfl, rfl⟩

/-- Once somebody shares the host, a package that has not verified it is refused. -/
theorem refused (shared : Shared user host asked reg reg') (consistent : reg'.Consistent)
    {p q : String} (lists : reg.Lists user host p) (unverified : ¬ reg.Verifies user host p)
    (member : q ∈ asked) (verifies : reg.Verifies user host q) :
    ∃ least, ((reg'.scopeOrEmpty user).approvedFor host).min? = some least ∧
      (request user host p).apply reg' = (.error (.hostOwned host least), reg') := by
  have approved : q ∈ (reg'.scopeOrEmpty user).approvedFor host :=
    (shared.approved q).2 ⟨member, verifies⟩
  cases smallest : ((reg'.scopeOrEmpty user).approvedFor host).min? with
  | none =>
      rw [Std.ExtTreeSet.min?_eq_none_iff.1 smallest] at approved
      exact absurd approved Std.ExtTreeSet.not_mem_empty
  | some least =>
      exact ⟨least, rfl, request_shared consistent (shared.lists lists)
        (mt (shared.verifies_iff p).1 unverified) shared.free smallest⟩

/-- A package that has not verified the host does not change who shares it by asking. -/
theorem snoc (shared : Shared user host asked reg reg') {p : String}
    (unverified : ¬ reg.Verifies user host p) : Shared user host (asked ++ [p]) reg reg' where
  free := shared.free
  unselected := shared.unselected
  records := shared.records
  elsewhere := shared.elsewhere
  approved q := by
    rw [shared.approved, List.mem_append, List.mem_singleton]
    constructor
    · rintro ⟨member, there⟩
      exact ⟨Or.inl member, there⟩
    · rintro ⟨member | rfl, there⟩
      · exact ⟨member, there⟩
      · exact absurd there unverified

/-- What one more request does, when the first of them all was that of a verified package. -/
theorem request (shared : Shared user host asked reg reg') (consistent : reg'.Consistent)
    {p : String} (lists : reg.Lists user host p)
    (leads : reg.VerifierLeads user host (asked ++ [p])) :
    (reg.Verifies user host p → ((request user host p).apply reg').1 = .ok .done) ∧
      (¬ reg.Verifies user host p → ∃ least,
        ((reg'.scopeOrEmpty user).approvedFor host).min? = some least ∧
          ((request user host p).apply reg').1 = .error (.hostOwned host least)) ∧
      Shared user host (asked ++ [p]) reg ((request user host p).apply reg').2 := by
  by_cases verifies : reg.Verifies user host p
  · obtain ⟨answered, next⟩ := shared.verified consistent verifies
    exact ⟨fun _ => answered, absurd verifies, next⟩
  · cases asked with
    | nil => exact absurd (leads p rfl) verifies
    | cons q others =>
        obtain ⟨least, smallest, applied⟩ := shared.refused consistent lists verifies
          List.mem_cons_self (leads q rfl)
        rw [applied]
        exact ⟨fun there => absurd there verifies, fun _ => ⟨least, smallest, rfl⟩,
          shared.snoc verifies⟩

/-- Requests go on where others have led, the first of them all that of a verified package. -/
theorem run (shared : Shared user host asked reg reg') (consistent : reg'.Consistent)
    (packages : List String) (lists : ∀ p ∈ packages, reg.Lists user host p)
    (leads : reg.VerifierLeads user host (asked ++ packages)) :
    Shared user host (asked ++ packages) reg (reg'.run (requests user host packages)).2 := by
  induction packages generalizing asked reg' with
  | nil =>
      rw [List.append_nil]
      exact shared
  | cons p rest ih =>
      rw [List.append_cons] at leads ⊢
      obtain ⟨_, _, next⟩ :=
        shared.request consistent (lists p List.mem_cons_self) leads.before
      exact ih next ((Registry.request user host p).apply_consistent consistent)
        (fun q member => lists q (List.mem_cons_of_mem p member)) leads

/-- What each request is answered, when the first of them is that of a verified package. -/
theorem answers (consistent : reg.Consistent) (available : reg.Available user host)
    (earlier : List String) (p : String) (later : List String)
    (lists : ∀ q ∈ earlier ++ p :: later, reg.Lists user host q)
    (leads : reg.VerifierLeads user host (earlier ++ p :: later)) :
    let answer := (reg.run (requests user host (earlier ++ p :: later))).1[earlier.length]?
    (reg.Verifies user host p → answer = some (.ok .done)) ∧
      (¬ reg.Verifies user host p → ∃ least,
        (((reg.run (requests user host earlier)).2.scopeOrEmpty user).approvedFor host).min? =
          some least ∧ answer = some (.error (.hostOwned host least))) := by
  intro answer
  have made : answer = some _ := answer_requests reg earlier p later
  have own : reg.Lists user host p :=
    lists p (List.mem_append_right earlier List.mem_cons_self)
  have shared : Shared user host earlier reg (reg.run (requests user host earlier)).2 :=
    (start consistent available).run consistent earlier
      (fun q member => lists q (List.mem_append_left _ member)) leads.before
  rw [List.append_cons] at leads
  obtain ⟨approved, refused, _⟩ := shared.request (consistent.run _) own leads.before
  refine ⟨fun there => made.trans (congrArg some (approved there)), fun there => ?_⟩
  obtain ⟨least, smallest, refused⟩ := refused there
  exact ⟨least, smallest, made.trans (congrArg some refused)⟩

end Shared

/-- What comes of requests for a host that is available, when every package that asks lists it.  If
the first package has not verified the host, it takes the slot, and whoever else asks is told so.
If it has, those that have verified the host are approved when they ask, and everyone else is told
the least of those that were approved by then.  Nothing else changes. -/
theorem contended_host (ops : List Operation) (user : Int) (host : LooseString) (first : String)
    (rest : List String) (available : (empty.run ops).2.Available user host)
    (lists : ∀ p ∈ first :: rest, (empty.run ops).2.Lists user host p) :
    let reg := (empty.run ops).2
    let after (packages : List String) := (reg.run (requests user host packages)).2
    let answers := (reg.run (requests user host (first :: rest))).1
    (¬ reg.Verifies user host first →
      answers = (first :: rest).map (fun p =>
        if p = first then .ok .done else .error (.hostOwned host first)) ∧
      Taken user host first reg (after (first :: rest))) ∧
    (reg.Verifies user host first →
      (∀ earlier p later, first :: rest = earlier ++ p :: later →
        (reg.Verifies user host p → answers[earlier.length]? = some (.ok .done)) ∧
        (¬ reg.Verifies user host p → ∃ least,
          (((after earlier).scopeOrEmpty user).approvedFor host).min? = some least ∧
          answers[earlier.length]? = some (.error (.hostOwned host least)))) ∧
      Shared user host (first :: rest) reg (after (first :: rest))) := by
  intro reg after answers
  have consistent : reg.Consistent := consistent_empty.run ops
  refine ⟨fun unverified => run_taken consistent available lists unverified, fun verifies => ?_⟩
  have leads : reg.VerifierLeads user host (first :: rest) := fun p head =>
    Option.some.inj head ▸ verifies
  have shared : Shared user host (first :: rest) reg (after (first :: rest)) :=
    (Shared.start consistent available).run consistent _ lists leads
  refine ⟨fun earlier p later split => ?_, shared⟩
  rw [split] at lists leads
  have answered := Shared.answers consistent available earlier p later lists leads
  rw [← split] at answered
  exact answered

/-- Two packages of a user list a host, and one of them has verified it. -/
def candidates : List Operation :=
  [.addPackage ⟨some 1, some "p"⟩ (.ofNat 7) (some [some "a"]) (some true),
    .addPackage ⟨some 1, some "q"⟩ (.ofNat 8) (some [some "a"]) (some true),
    .setVerified ⟨some 1, some "q"⟩ (some "a")]

/-- Whichever asks first is not refused, and the other one is. -/
theorem contended_host_either_order :
    let reg := (empty.run candidates).2
    (reg.run (requests 1 "a" ["p", "q"])).1 = [.ok .done, .error (.hostOwned "a" "p")] ∧
      Taken 1 "a" "p" reg (reg.run (requests 1 "a" ["p", "q"])).2 ∧
      (reg.run (requests 1 "a" ["q", "p"])).1[1]? = some (.error (.hostOwned "a" "q")) ∧
      Shared 1 "a" ["q", "p"] reg (reg.run (requests 1 "a" ["q", "p"])).2 := by
  have available : (empty.run candidates).2.Available 1 "a" :=
    ⟨by cbv, Std.ExtTreeSet.isEmpty_iff.1 (by cbv)⟩
  have unverified : ¬ (empty.run candidates).2.Verifies 1 "a" "p" := by decide +kernel
  have verified : (empty.run candidates).2.Verifies 1 "a" "q" := by decide +kernel
  have lists : ∀ p ∈ ["p", "q"], (empty.run candidates).2.Lists 1 "a" p := by
    simp only [List.mem_cons, List.not_mem_nil, or_false]
    rintro p (rfl | rfl)
    · exact ⟨.unclaimed, by cbv⟩
    · exact ⟨.verified, verified⟩
  obtain ⟨answered, taken⟩ :=
    (contended_host candidates 1 "a" "p" ["q"] available lists).1 unverified
  obtain ⟨answers, shared⟩ := (contended_host candidates 1 "a" "q" ["p"] available
    fun p member => lists p ((List.Perm.swap ..).mem_iff.1 member)).2 verified
  obtain ⟨least, smallest, refused⟩ := (answers ["q"] "p" [] rfl).2 unverified
  have only : ((((empty.run candidates).2.run (requests 1 "a" ["q"])).2.scopeOrEmpty
      1).approvedFor "a").min? = some "q" := by cbv
  rw [Option.some.inj (smallest.symm.trans only)] at refused
  exact ⟨answered, taken, refused, shared⟩

end Registry

end LinkOwnership
