/-
# LinkOwnership.Proofs.LinkHandling -- who may open links at all decides nothing else

A record says whether its package may open links at all.  No call asks for this but those that
read: a registry in which every package is allowed to (`Registry.switchedOn`) takes every call the
same way (`Operation.apply_switchedOn`), each operation on a scope commuting with the switch.

So calls that allow or forbid it can be left out of a run: the other calls are answered as before,
but for what they show of it, and lead to the same hosts and holders
(`Registry.link_handling_decides_owners`).  What it does decide is who would open links: of the
packages that hold a host, those that may.
-/
import LinkOwnership.Proofs.Located

namespace LinkOwnership

set_option autoImplicit false

open LinkOwnership.Text (LooseString)

/-! ## Everything but link handling -/

/-- The record, with link handling allowed. -/
def Record.switchedOn (r : Record) : Record := { r with linkHandlingAllowed := true }

def Scope.switchedOn (s : Scope) : Scope :=
  { s with packages := s.packages.map fun _ r => r.switchedOn }

def Registry.switchedOn (reg : Registry) : Registry := ⟨reg.scopes.map fun _ s => s.switchedOn⟩

def Site.switchedOn (site : Site) : Site :=
  { site with scope := site.scope.switchedOn, record := site.record.switchedOn }

/-- Two registries differ at most in who is allowed to open links. -/
def Registry.SameButHandling (reg reg' : Registry) : Prop := reg.switchedOn = reg'.switchedOn

/-- Calls that allow or forbid a package to open links. -/
def Operation.setsHandling : Operation → Bool
  | .setLinkHandlingAllowed .. => true
  | _ => false

/-- What the answer to a call says apart from link handling: nothing of which packages would open
links, and of a record all but whether its package may. -/
def Operation.told (op : Operation) (answer : Except Rejection Outcome) : Except Rejection Outcome :=
  answer.map fun outcome => match op, outcome with
    | .owners .., _ => .done
    | _, .record r => .record r.switchedOn
    | _, outcome => outcome

theorem map_eq_map_iff {ε α β : Type} {f : α → β} {a? b? : Except ε α} :
    a?.map f = b?.map f ↔
      (∃ why, a? = .error why ∧ b? = .error why) ∨ ∃ a b, a? = .ok a ∧ b? = .ok b ∧ f a = f b := by
  cases a? <;> cases b? <;> simp [Except.map, eq_comm]

/-! ## Operations on a scope -/

namespace Scope

variable (s : Scope) (package : String) (r : Record) (host : LooseString)

theorem getElem?_switchedOn :
    s.switchedOn.packages[package]? = s.packages[package]?.map Record.switchedOn :=
  Std.ExtTreeMap.getElem?_map

theorem eq_of_records {s t : Scope}
    (records : ∀ package : String, s.packages[package]? = t.packages[package]?)
    (exclusive : s.exclusive = t.exclusive) (approved : s.approved = t.approved) : s = t := by
  cases s
  cases t
  exact Scope.mk.injEq .. ▸ ⟨Std.ExtTreeMap.ext_getElem? records, exclusive, approved⟩

theorem switchedOn_switchedOn : s.switchedOn.switchedOn = s.switchedOn := by
  refine eq_of_records (fun q => ?_) rfl rfl
  rw [getElem?_switchedOn, getElem?_switchedOn, Option.map_map]
  rfl

theorem switchedOn_putRecord :
    (s.putRecord package r).switchedOn = s.switchedOn.putRecord package r.switchedOn := by
  refine eq_of_records (fun q => ?_) rfl rfl
  rw [getElem?_switchedOn, getElem?_putRecord, getElem?_putRecord, getElem?_switchedOn]
  split <;> rfl

theorem switchedOn_setState (state : LinkState) :
    (s.putRecord package (r.setState host state)).switchedOn =
      s.switchedOn.putRecord package (r.switchedOn.setState host state) :=
  switchedOn_putRecord s package (r.setState host state)

theorem switchedOn_releaseSlot :
    (s.releaseSlot package host).switchedOn = s.switchedOn.releaseSlot package host := by
  unfold releaseSlot
  show _ = if s.exclusive[host]? = some package then _ else _
  split <;> rfl

theorem switchedOn_revoke :
    (s.revoke package host).switchedOn = s.switchedOn.revoke package host := by
  have same : s.switchedOn.approved = s.approved := rfl
  unfold revoke
  rw [same]
  cases s.approved[host]? with
  | none => rfl
  | some members => simp only; split <;> rfl

theorem switchedOn_release (hosts : List LooseString) :
    (s.release package hosts).switchedOn = s.switchedOn.release package hosts := by
  induction hosts generalizing s with
  | nil => rfl
  | cons host rest ih =>
      rw [release_cons, release_cons, ih, switchedOn_revoke, switchedOn_releaseSlot]

theorem verify_switchedOn :
    s.switchedOn.verify package r.switchedOn host = (s.verify package r host).map switchedOn := by
  have state : r.switchedOn.stateFor host = r.stateFor host := rfl
  unfold verify
  rw [state]
  cases r.stateFor host with
  | verified => rfl
  | unclaimed => exact congrArg Except.ok (s.switchedOn_setState package r host .verified).symm
  | selected =>
      let freed : Scope := { s with exclusive := s.exclusive.erase host }
      show (if host ∈ s.exclusive then _ else _) = Except.map _ (if host ∈ s.exclusive then _ else _)
      split
      · exact congrArg Except.ok
          ((freed.approve package host).switchedOn_setState package r host .verified).symm
      · rfl

theorem select_switchedOn (user : Int) :
    s.switchedOn.select user package r.switchedOn host =
      (s.select user package r host).map switchedOn := by
  have hosts : r.switchedOn.hosts = r.hosts := rfl
  have sharers : s.switchedOn.approvedFor host = s.approvedFor host := rfl
  have holders : s.switchedOn.exclusive = s.exclusive := rfl
  unfold select
  rw [hosts, sharers, holders]
  cases r.hosts.get? host with
  | none => rfl
  | some state =>
      simp only
      split
      · rfl
      · cases s.exclusive[host]? with
        | some holder => rfl
        | none =>
            simp only
            split
            · rfl
            · cases (s.approvedFor host).min? with
              | some least => rfl
              | none =>
                  let taken : Scope := { s with exclusive := s.exclusive.insert host package }
                  exact congrArg Except.ok (taken.switchedOn_setState package r host .selected).symm

theorem clear_switchedOn :
    s.switchedOn.clear package r.switchedOn host = (s.clear package r host).switchedOn := by
  have state : r.switchedOn.stateFor host = r.stateFor host := rfl
  unfold clear
  rw [state, switchedOn_release]
  split
  · rw [switchedOn_putRecord]
    rfl
  · rfl

theorem remove_switchedOn :
    s.switchedOn.remove package r.switchedOn = (s.remove package r).switchedOn := by
  have released := s.switchedOn_release package r.hosts.keys
  refine eq_of_records (fun q => ?_) (congrArg Scope.exclusive released).symm
    (congrArg Scope.approved released).symm
  simp only [remove, getElem?_switchedOn, getElem?_erase_if, packages_release]
  split <;> rfl

theorem switchedOn_withdraw :
    (s.withdraw package).switchedOn = s.switchedOn.withdraw package := by
  unfold withdraw
  rw [getElem?_switchedOn]
  cases s.packages[package]? with
  | none => rfl
  | some former => exact s.switchedOn_release package former.hosts.keys

theorem switchedOn_takeSlots (hosts : List LooseString) :
    (s.takeSlots package hosts).switchedOn = s.switchedOn.takeSlots package hosts := by
  induction hosts generalizing s with
  | nil => rfl
  | cons host rest ih =>
      rw [takeSlots_cons, takeSlots_cons, ih]
      rfl

theorem switchedOn_approveAll (hosts : List LooseString) :
    (s.approveAll package hosts).switchedOn = s.switchedOn.approveAll package hosts := by
  induction hosts generalizing s with
  | nil => rfl
  | cons host rest ih =>
      rw [approveAll_cons, approveAll_cons, ih]
      rfl

/-- A record that is taken over brings its own link handling. -/
theorem switchedOn_install (approvals : List LooseString) :
    (s.install r approvals).switchedOn = s.switchedOn.install r.switchedOn approvals := by
  rw [install_eq, install_eq, switchedOn_approveAll, switchedOn_takeSlots, switchedOn_putRecord,
    switchedOn_withdraw]
  rfl

end Scope

/-! ## Calls to a registry -/

namespace Registry

theorem getElem?_switchedOn (reg : Registry) (user : Int) :
    reg.switchedOn.scopes[user]? = reg.scopes[user]?.map Scope.switchedOn :=
  Std.ExtTreeMap.getElem?_map

theorem scope?_switchedOn (reg : Registry) (user : Option Int) :
    reg.switchedOn.scope? user = (reg.scope? user).map Scope.switchedOn := by
  cases user with
  | none => rfl
  | some user => exact reg.getElem?_switchedOn user

theorem scopeOrEmpty_switchedOn (reg : Registry) (user : Int) :
    reg.switchedOn.scopeOrEmpty user = (reg.scopeOrEmpty user).switchedOn := by
  rw [scopeOrEmpty_eq, scopeOrEmpty_eq, getElem?_switchedOn]
  cases reg.scopes[user]? with
  | none => exact Scope.eq_of_records (fun q => by simp [Scope.empty, Scope.getElem?_switchedOn]) rfl rfl
  | some s => rfl

theorem switchedOn_putScope (reg : Registry) (user : Int) (s : Scope) :
    (reg.putScope user s).switchedOn = reg.switchedOn.putScope user s.switchedOn := by
  refine eq_of_scope? fun v => ?_
  rw [scope?_switchedOn, scope?_putScope, scope?_putScope, scope?_switchedOn]
  split <;> rfl

theorem switchedOn_switchedOn (reg : Registry) : reg.switchedOn.switchedOn = reg.switchedOn := by
  refine eq_of_scope? fun user => ?_
  rw [scope?_switchedOn, scope?_switchedOn]
  cases reg.scope? (some user) with
  | none => rfl
  | some s => exact congrArg some s.switchedOn_switchedOn

theorem switchedOn_removeUser (reg : Registry) (user : Option Int) :
    (reg.removeUser user).switchedOn = reg.switchedOn.removeUser user := by
  refine eq_of_scope? fun v => ?_
  rw [scope?_switchedOn, scope?_removeUser, scope?_removeUser, scope?_switchedOn]
  split <;> rfl

theorem locate_switchedOn (reg : Registry) (ref : PackageRef) :
    reg.switchedOn.locate ref = (reg.locate ref).map Site.switchedOn := by
  obtain ⟨user, package⟩ := ref
  rw [locate_eq, locate_eq, scope?_switchedOn]
  cases user with
  | none => rfl
  | some user =>
      cases package with
      | none => rfl
      | some package =>
          cases reg.scope? (some user) with
          | none => rfl
          | some scope =>
              simp only [Option.map_some, Scope.getElem?_switchedOn]
              cases scope.packages[package]? <;> rfl

/-- A call that goes the same way whoever may open links: its answers differ at most in what `told`
leaves out. -/
def Indifferent {α : Type} (told : α → α) (call : Registry → α × Registry) : Prop :=
  ∀ reg, told (call reg.switchedOn).1 = told (call reg).1 ∧
    (call reg.switchedOn).2.switchedOn = (call reg).2.switchedOn

theorem Indifferent.map {α β : Type} {told : α → α} {told' : β → β}
    {call : Registry → α × Registry} (indifferent : Indifferent told call) (f : α → β)
    (respects : ∀ a a', told a = told a' → told' (f a) = told' (f a')) :
    Indifferent told' fun reg => (f (call reg).1, (call reg).2) :=
  fun reg => (indifferent reg).imp_left (respects _ _)

/-- A call that is answered the same to the word. -/
theorem Indifferent.of_same {α β : Type} {told : β → β} {call : Registry → α × Registry}
    (indifferent : Indifferent id call) (f : α → β) :
    Indifferent told fun reg => (f (call reg).1, (call reg).2) :=
  indifferent.map f fun _ _ same => congrArg (told ∘ f) same

/-- A call that only reads. -/
theorem indifferent_reading {α : Type} {told : α → α} {read : Registry → α}
    (same : ∀ reg : Registry, told (read reg.switchedOn) = told (read reg)) :
    Indifferent told fun reg => (read reg, reg) :=
  fun reg => ⟨same reg, reg.switchedOn_switchedOn⟩

/-- A change of the scope in which a package is found, when the scopes that it makes are the same
but for link handling. -/
theorem indifferent_changeAt {α : Type} (check : Except Rejection α) (ref : PackageRef)
    (next : α → Site → Except Rejection Scope)
    (same : ∀ a site, (next a site.switchedOn).map Scope.switchedOn =
      (next a site).map Scope.switchedOn) :
    Indifferent id fun reg : Registry => reg.changeAt check ref next := by
  intro reg
  show (reg.switchedOn.changeAt check ref next).1 = (reg.changeAt check ref next).1 ∧
    (reg.switchedOn.changeAt check ref next).2.switchedOn =
      (reg.changeAt check ref next).2.switchedOn
  unfold changeAt
  rw [locate_switchedOn]
  cases check with
  | error why => exact ⟨rfl, reg.switchedOn_switchedOn⟩
  | ok a =>
      cases reg.locate ref with
      | error why => exact ⟨rfl, reg.switchedOn_switchedOn⟩
      | ok site =>
          simp only [bind, Except.bind, Except.map]
          rcases map_eq_map_iff.1 (same a site) with ⟨why, left, right⟩ | ⟨s', s, left, right, made⟩
          · rw [left, right]
            exact ⟨rfl, reg.switchedOn_switchedOn⟩
          · rw [left, right]
            refine ⟨rfl, ?_⟩
            show (reg.switchedOn.putScope site.user s').switchedOn =
              (reg.putScope site.user s).switchedOn
            rw [switchedOn_putScope, switchedOn_putScope, switchedOn_switchedOn, made]

/-- A change whose steps commute with the switch. -/
theorem indifferent_changeAt_of_commutes {α : Type} (check : Except Rejection α) (ref : PackageRef)
    (next : α → Site → Except Rejection Scope)
    (commutes : ∀ a site, next a site.switchedOn = (next a site).map Scope.switchedOn) :
    Indifferent id fun reg : Registry => reg.changeAt check ref next := by
  refine indifferent_changeAt check ref next fun a site => ?_
  rw [commutes]
  cases next a site with
  | error why => rfl
  | ok s => exact congrArg Except.ok s.switchedOn_switchedOn

theorem indifferent_addPackage (draft : Draft) :
    Indifferent (Except.map Record.switchedOn) fun reg : Registry => reg.addPackage draft := by
  intro reg
  show (reg.switchedOn.addPackage draft).1.map _ = (reg.addPackage draft).1.map _ ∧
    (reg.switchedOn.addPackage draft).2.switchedOn = (reg.addPackage draft).2.switchedOn
  unfold addPackage
  cases draft.build with
  | error why => exact ⟨rfl, reg.switchedOn_switchedOn⟩
  | ok r =>
      simp only [scopeOrEmpty_switchedOn, Scope.getElem?_switchedOn]
      cases (reg.scopeOrEmpty r.user).packages[r.packageName]? with
      | some present =>
          refine ⟨rfl, ?_⟩
          simp only [Option.map_some, switchedOn_putScope, switchedOn_switchedOn,
            Scope.switchedOn_switchedOn]
      | none =>
          refine ⟨rfl, ?_⟩
          simp only [Option.map_none, switchedOn_putScope, switchedOn_switchedOn,
            Scope.switchedOn_putRecord, Scope.switchedOn_switchedOn]

theorem indifferent_restore (draft : Draft) (approved : Option (List (Option LooseString))) :
    Indifferent id fun reg : Registry => reg.restore draft approved := by
  intro reg
  show (reg.switchedOn.restore draft approved).1 = (reg.restore draft approved).1 ∧
    (reg.switchedOn.restore draft approved).2.switchedOn =
      (reg.restore draft approved).2.switchedOn
  unfold restore
  cases draft.copy with
  | error why => exact ⟨rfl, reg.switchedOn_switchedOn⟩
  | ok r =>
      cases normalizeAll? approved with
      | error why => exact ⟨rfl, reg.switchedOn_switchedOn⟩
      | ok hosts =>
          have conflict : (reg.scopeOrEmpty r.user).switchedOn.conflict? r (approvalsOf r hosts) =
              (reg.scopeOrEmpty r.user).conflict? r (approvalsOf r hosts) := rfl
          simp only [scopeOrEmpty_switchedOn, conflict]
          cases (reg.scopeOrEmpty r.user).conflict? r (approvalsOf r hosts) with
          | some why =>
              refine ⟨rfl, ?_⟩
              simp only [switchedOn_putScope, switchedOn_switchedOn, Scope.switchedOn_switchedOn]
          | none =>
              refine ⟨rfl, ?_⟩
              simp only [switchedOn_putScope, switchedOn_switchedOn, Scope.switchedOn_install,
                Scope.switchedOn_switchedOn]

/-- A call that sets link handling changes nothing else. -/
theorem switchedOn_setLinkHandlingAllowed (reg : Registry) (ref : PackageRef) (allowed : Bool) :
    (reg.setLinkHandlingAllowed ref allowed).2.switchedOn = reg.switchedOn := by
  rw [setLinkHandlingAllowed_eq_changeAt]
  rcases reg.changeAt_cases (.ok ()) ref fun _ site => .ok (site.scope.putRecord site.package
      { site.record with linkHandlingAllowed := allowed }) with
    ⟨why, rejected, _⟩ | ⟨_, site, _, _, located, ⟨⟩, made⟩
  · rw [rejected]
  · obtain ⟨_, found, known⟩ := locate_eq_ok_iff.1 located
    rw [made, switchedOn_putScope, Scope.switchedOn_putRecord]
    -- The record is put where it was.
    have same : site.scope.switchedOn.putRecord site.package site.record.switchedOn =
        site.scope.switchedOn := by
      refine Scope.eq_of_records (fun q => ?_) rfl rfl
      rw [Scope.getElem?_putRecord, Scope.getElem?_switchedOn]
      split
      · rename_i here
        rw [here, known]
        rfl
      · rfl
    refine putScope_self ?_
    rw [getElem?_switchedOn, found]
    exact congrArg some same.symm

end Registry

/-! ## Runs -/

namespace Operation

/-- Every call goes the same way whoever may open links. -/
theorem indifferent (op : Operation) : Registry.Indifferent op.told op.apply := by
  cases op with
  | addPackage ref identifier hosts allowed =>
      cases hosts with
      | none => exact fun reg => ⟨rfl, reg.switchedOn_switchedOn⟩
      | some hosts =>
          refine (Registry.indifferent_addPackage
            (.fresh identifier ref.package ref.user hosts allowed)).map _ fun a a' same => ?_
          rcases map_eq_map_iff.1 same with ⟨why, rfl, rfl⟩ | ⟨r, r', rfl, rfl, alike⟩
          · rfl
          · exact congrArg (Except.ok ∘ Outcome.record) alike
  | restore draft approved => exact (Registry.indifferent_restore draft approved).of_same _
  | setVerified ref host =>
      exact (Registry.indifferent_changeAt_of_commutes (Host.normalize? host) ref
        (fun host site => site.scope.verify site.package site.record host)
        fun host site => site.scope.verify_switchedOn site.package site.record host).of_same _
  | setSelected ref host =>
      exact (Registry.indifferent_changeAt_of_commutes (Host.normalize? host) ref
        (fun host site => site.scope.select site.user site.package site.record host)
        fun host site =>
          site.scope.select_switchedOn site.package site.record host site.user).of_same _
  | clearSelected ref host =>
      exact (Registry.indifferent_changeAt_of_commutes (Host.normalize? host) ref
        (fun host site => .ok (site.scope.clear site.package site.record host))
        fun host site => congrArg Except.ok
          (site.scope.clear_switchedOn site.package site.record host)).of_same _
  | setLinkHandlingAllowed ref allowed =>
      refine (Registry.indifferent_changeAt (.ok ()) ref
        (fun _ site => .ok (site.scope.putRecord site.package
          { site.record with linkHandlingAllowed := allowed }))
        fun _ site => congrArg Except.ok ?_).of_same _
      rw [Scope.switchedOn_putRecord, Scope.switchedOn_putRecord]
      exact congrArg (Scope.putRecord · _ _) site.scope.switchedOn_switchedOn
  | removePackage ref =>
      exact (Registry.indifferent_changeAt_of_commutes (.ok ()) ref
        (fun _ site => .ok (site.scope.remove site.package site.record))
        fun _ site => congrArg Except.ok
          (site.scope.remove_switchedOn site.package site.record)).of_same _
  | removeUser user =>
      intro reg
      refine ⟨rfl, ?_⟩
      show (reg.switchedOn.removeUser user).switchedOn = (reg.removeUser user).switchedOn
      rw [Registry.switchedOn_removeUser, Registry.switchedOn_removeUser,
        Registry.switchedOn_switchedOn]
  | userState ref =>
      refine Registry.indifferent_reading fun reg => ?_
      rw [Registry.userState, Registry.userState, Registry.locate_switchedOn]
      cases reg.locate ref <;> rfl
  | hostMap ref =>
      refine Registry.indifferent_reading fun reg => ?_
      rw [Registry.hostMap, Registry.hostMap, Registry.locate_switchedOn]
      cases reg.locate ref <;> rfl
  | approvedHosts ref =>
      refine Registry.indifferent_reading fun reg => ?_
      rw [Registry.approvedHosts, Registry.approvedHosts, Registry.locate_switchedOn]
      cases reg.locate ref <;> rfl
  | packageNames user =>
      refine Registry.indifferent_reading fun reg => ?_
      rw [Registry.packageNames, Registry.packageNames, Registry.scope?_switchedOn]
      cases reg.scope? user with
      | none => rfl
      | some scope => exact congrArg (Except.ok ∘ Outcome.names) Std.ExtTreeMap.keys_map
  | exclusiveOwner user host =>
      refine Registry.indifferent_reading fun reg => ?_
      rw [Registry.exclusiveOwner, Registry.exclusiveOwner, Registry.scope?_switchedOn]
      cases reg.scope? user <;> rfl
  | owners user host =>
      refine Registry.indifferent_reading fun reg => ?_
      rw [Registry.owners, Registry.owners]
      cases Host.normalize? host <;> rfl

end Operation

namespace Registry

variable {reg reg' : Registry}

/-- Registries that are the same but for link handling answer a call alike, and stay the same. -/
theorem SameButHandling.apply (same : SameButHandling reg reg') (op : Operation) :
    op.told (op.apply reg).1 = op.told (op.apply reg').1 ∧
      SameButHandling (op.apply reg).2 (op.apply reg').2 := by
  obtain ⟨answer, after⟩ := op.indifferent reg
  obtain ⟨answer', after'⟩ := op.indifferent reg'
  rw [same] at answer after
  exact ⟨answer.symm.trans answer', after.symm.trans after'⟩

/-- A call that sets link handling can be made on one side only. -/
theorem SameButHandling.apply_left (same : SameButHandling reg reg') {op : Operation}
    (sets : op.setsHandling = true) : SameButHandling (op.apply reg).2 reg' := by
  cases op with
  | setLinkHandlingAllowed ref allowed =>
      exact (reg.switchedOn_setLinkHandlingAllowed ref allowed).trans same
  | _ => cases sets

/-- What is kept of a list in which everything is marked as kept or left out. -/
def kept {α : Type} (marked : List (α × Bool)) : List α := (marked.filter Prod.snd).map Prod.fst

theorem kept_cons_true {α : Type} (a : α) (rest : List (α × Bool)) :
    kept ((a, true) :: rest) = a :: kept rest := by
  simp [kept]

theorem kept_cons_false {α : Type} (a : α) (rest : List (α × Bool)) :
    kept ((a, false) :: rest) = kept rest := by
  simp [kept]

/-- What the answers to calls say apart from link handling. -/
def toldAll (ops : List Operation) (answers : List (Except Rejection Outcome)) :
    List (Except Rejection Outcome) :=
  List.zipWith Operation.told ops answers

/-- Calls that set link handling are left out of the second of two runs. -/
theorem SameButHandling.run (same : SameButHandling reg reg') {calls : List (Operation × Bool)}
    (leftOut : ∀ call ∈ calls, call.2 = false → call.1.setsHandling = true) :
    kept ((toldAll (calls.map Prod.fst) (reg.run (calls.map Prod.fst)).1).zip
        (calls.map Prod.snd)) = toldAll (kept calls) (reg'.run (kept calls)).1 ∧
      SameButHandling (reg.run (calls.map Prod.fst)).2 (reg'.run (kept calls)).2 := by
  induction calls generalizing reg reg' with
  | nil => exact ⟨rfl, same⟩
  | cons call rest ih =>
      obtain ⟨first, others⟩ := List.forall_mem_cons.1 leftOut
      obtain ⟨op, mark⟩ := call
      cases mark with
      | false =>
          obtain ⟨answers, last⟩ := ih (same.apply_left (first rfl)) others
          rw [kept_cons_false]
          refine ⟨?_, last⟩
          rw [← answers]
          exact kept_cons_false ..
      | true =>
          obtain ⟨answer, after⟩ := same.apply op
          obtain ⟨answers, last⟩ := ih after others
          rw [kept_cons_true]
          refine ⟨?_, last⟩
          show kept ((op.told (op.apply reg).1, true) :: _) = op.told (op.apply reg').1 :: _
          rw [kept_cons_true, answer]
          exact congrArg _ answers

end Registry

/-! ## Who would open links -/

/-- Of the packages that hold a host, alone or as verified, those that may open links. -/
theorem Scope.Consistent.mem_owners_iff {user : Int} {s : Scope} (consistent : s.Consistent user)
    {host : LooseString} {package : String} :
    package ∈ s.owners host ↔ ∃ r, s.packages[package]? = some r ∧
      (s.exclusive[host]? = some package ∨ r.hosts.get? host = some .verified) ∧
      r.linkHandlingAllowed = true := by
  simp only [owners, List.mem_map, List.mem_filter, Prod.exists, exists_and_right, exists_eq_right,
    Std.ExtTreeMap.mem_toList_iff_getElem?_eq_some, Bool.and_eq_true, decide_eq_true_eq]
  refine exists_congr fun r => and_congr_right fun known => ?_
  rw [(consistent.own known host).1, and_comm, Record.stateFor]
  refine and_congr_left' ?_
  cases r.hosts.get? host with
  | none => simp
  | some state => cases state <;> simp

namespace Registry

theorem Consistent.exists_owners {reg : Registry} (consistent : reg.Consistent) (user : Option Int)
    (host : LooseString) :
    ∃ names, reg.owners user (some host) = .ok names ∧
      (names.Pairwise fun first second => compare first second = .lt) ∧
      ∀ package, package ∈ names ↔ ∃ s r, reg.scope? user = some s ∧
        s.packages[package]? = some r ∧
        (s.exclusive[Host.normalize host]? = some package ∨
          r.hosts.get? (Host.normalize host) = some .verified) ∧
        r.linkHandlingAllowed = true := by
  cases user with
  | none => exact ⟨[], rfl, .nil, fun package => by simp [scope?]⟩
  | some u =>
      cases found : reg.scope? (some u) with
      | none =>
          refine ⟨[], ?_, .nil, fun package => by simp⟩
          simp only [owners, found]
          rfl
      | some s =>
          refine ⟨s.owners (Host.normalize host), ?_,
            List.pairwise_map.2 (Std.ExtTreeMap.ordered_keys_toList.filter _), fun package => ?_⟩
          · simp only [owners, found]
            rfl
          · rw [(consistent u s found).mem_owners_iff]
            simp only [Option.some.injEq, exists_and_left, exists_eq_left']

/-- Calls that set link handling can be left out of a run, any of them: the other calls are made or
turned down as before, and say the same but for who may open links; the registry at the end is the
same but for this.  After any run, the packages that would open links to a host are the holder of its
slot and all that have it as verified, without those that may not; they are listed in order. -/
theorem link_handling_decides_owners :
    (∀ (reg : Registry) (calls : List (Operation × Bool)),
      (∀ call ∈ calls, call.2 = false → call.1.setsHandling = true) →
        let ops := calls.map Prod.fst
        let marks := calls.map Prod.snd
        kept ((toldAll ops (reg.run ops).1).zip marks) =
            toldAll (kept calls) (reg.run (kept calls)).1 ∧
          SameButHandling (reg.run ops).2 (reg.run (kept calls)).2) ∧
    ∀ (ops : List Operation) (user : Option Int) (host : LooseString),
      ∃ names, (empty.run ops).2.owners user (some host) = .ok names ∧
        (names.Pairwise fun first second => compare first second = .lt) ∧
        ∀ package, package ∈ names ↔ ∃ s r, (empty.run ops).2.scope? user = some s ∧
          s.packages[package]? = some r ∧
          (s.exclusive[Host.normalize host]? = some package ∨
            r.hosts.get? (Host.normalize host) = some .verified) ∧
          r.linkHandlingAllowed = true :=
  ⟨fun _ _ leftOut => SameButHandling.run rfl leftOut,
    fun ops => (consistent_empty.run ops).exists_owners⟩

/-- A package is verified and selected for a host while it may not open links; of the two calls that
set this, the first is left out. -/
def toggled : List (Operation × Bool) :=
  [(.addPackage ⟨some 1, some "p"⟩ (.ofNat 7) (some [some "a"]) (some true), true),
    (.setLinkHandlingAllowed ⟨some 1, some "p"⟩ false, false),
    (.setVerified ⟨some 1, some "p"⟩ (some "a"), true),
    (.userState ⟨some 1, some "p"⟩, true),
    (.owners (some 1) (some "a"), true),
    (.setLinkHandlingAllowed ⟨some 1, some "p"⟩ true, true)]

theorem link_handling_decides_owners_toggled :
    let ops := toggled.map Prod.fst
    let marks := toggled.map Prod.snd
    (∀ call ∈ toggled, call.2 = false → call.1.setsHandling = true) ∧
      kept ((toldAll ops (empty.run ops).1).zip marks) =
        toldAll (kept toggled) (empty.run (kept toggled)).1 ∧
      SameButHandling (empty.run ops).2 (empty.run (kept toggled)).2 := by
  intro ops marks
  have leftOut : ∀ call ∈ toggled, call.2 = false → call.1.setsHandling = true := by
    simp [toggled, Operation.setsHandling]
  exact ⟨leftOut, link_handling_decides_owners.1 empty toggled leftOut⟩

end Registry

end LinkOwnership
