/-
# LinkOwnership.Proofs.Atomicity -- a call that is turned down leaves no trace

Every call to a registry either answers, or it is turned down and leaves the registry as it was,
the users it has scopes for included (`Registry.Atomic`, proved for every operation in
`Operation.atomic`).  Two calls owe this to the agreement of indexes and records: a record that is
refused finds the scope of its user there, so none is made for it; and the slot of a selected host
has a holder, so verifying the host always finds it (`Scope.exists_verify`).

What a call is turned down for is one of five reasons (`Rejection.Foreseen`), but for arguments that
no reason is there for: hosts, approved hosts or the map of a record that are missing altogether, a
map with a key that is no text, a numeral that no message can hold (`Operation.Raises`).  Only calls
that add a package or restore a record make a scope for a user, and only when they answer
(`Registry.rejected_without_trace`).
-/
import LinkOwnership.Proofs.Frame
import LinkOwnership.Proofs.Located

namespace LinkOwnership

set_option autoImplicit false

open LinkOwnership.Text (LooseString)

/-! ## Reasons to turn a call down -/

/-- The reasons for which a registry turns calls down.  A selected host whose slot nobody holds
is none of them. -/
inductive Rejection.Foreseen : Rejection → Prop
  | missing (field : Field) : Foreseen (.missing field)
  | unknownCode (code : Json.Value) : Foreseen (.unknownCode code)
  | unknownPackage (user : Option Int) (package : Option String) :
      Foreseen (.unknownPackage user package)
  | undeclaredHost (user : Int) (package : String) (host : LooseString) :
      Foreseen (.undeclaredHost user package host)
  | hostOwned (host : LooseString) (owner : String) : Foreseen (.hostOwned host owner)

/-- What a call can be turned down for, and for which arguments. -/
inductive Operation.Raises : Operation → Rejection → Prop
  | foreseen (op : Operation) {why : Rejection} (foreseen : why.Foreseen) : Raises op why
  /-- The user does not fit into the message. -/
  | longUser (op : Operation) {user : Int} (names : op.ref.user = some user)
      (long : Text.Integer.fits user = false) : Raises op .longNumeral
  /-- A code of the record does not fit into the message. -/
  | longCode (draft : Draft) (approved : Option (List (Option LooseString)))
      {raw : OrderedMap Host.Key Json.Value} (given : draft.hosts = some raw)
      {entry : Host.Key × Json.Value} (listed : entry ∈ raw.entries) (long : entry.2.fits = false) :
      Raises (.restore draft approved) .longNumeral
  /-- There is no list of hosts. -/
  | noHosts (ref : PackageRef) (identifier : Identifier) (allowed : Option Bool) :
      Raises (.addPackage ref identifier none allowed) .notIterable
  /-- The record has no map. -/
  | noMap (draft : Draft) (approved : Option (List (Option LooseString)))
      (missing : draft.hosts = none) : Raises (.restore draft approved) .notIterable
  /-- There is no list of approved hosts. -/
  | noList (draft : Draft) : Raises (.restore draft none) .notIterable
  /-- A key of the record's map is no text. -/
  | notText (draft : Draft) (approved : Option (List (Option LooseString)))
      {raw : OrderedMap Host.Key Json.Value} (given : draft.hosts = some raw) {type : String}
      {which : Nat} {code : Json.Value} (listed : (.other type which, code) ∈ raw.entries) :
      Raises (.restore draft approved) (.notText type)

/-- Whatever the computation is turned down for is among the reasons. -/
def FailsFor {α : Type} (p : Rejection → Prop) (a? : Except Rejection α) : Prop :=
  ∀ why, a? = .error why → p why

namespace FailsFor

variable {α β : Type} {p : Rejection → Prop}

theorem ok (a : α) : FailsFor p (.ok a) := nofun

theorem error {why : Rejection} (reason : p why) :
    FailsFor p (.error why : Except Rejection α) := by
  rintro _ ⟨⟩
  exact reason

theorem bind {a? : Except Rejection α} {next : α → Except Rejection β} (first : FailsFor p a?)
    (second : ∀ a, a? = .ok a → FailsFor p (next a)) : FailsFor p (a? >>= next) := by
  cases a? with
  | error why => exact error (first why rfl)
  | ok a => exact second a rfl

theorem map {a? : Except Rejection α} (fails : FailsFor p a?) (f : α → β) :
    FailsFor p (a?.map f) := by
  intro why rejected
  exact fails why (map_eq_error_iff.1 rejected)

theorem foldlM {step : β → α → Except Rejection β} {items : List α}
    (one : ∀ item ∈ items, ∀ b, FailsFor p (step b item)) (b : β) :
    FailsFor p (items.foldlM step b) := by
  induction items generalizing b with
  | nil => exact ok b
  | cons item rest ih =>
      obtain ⟨here, others⟩ := List.forall_mem_cons.1 one
      rw [List.foldlM_cons]
      exact (here b).bind fun b' _ => ih others b'

theorem mapM {f : α → Except Rejection β} (one : ∀ a, FailsFor p (f a)) (items : List α) :
    FailsFor p (items.mapM f) := by
  induction items with
  | nil => exact ok []
  | cons item rest ih =>
      rw [List.mapM_cons]
      exact (one item).bind fun b _ => ih.bind fun bs _ => ok (b :: bs)

/-- A cause that may turn out to be too long for its message. -/
theorem raised {why : Rejection} (reason : p why) (long : why.fits = false → p .longNumeral) :
    FailsFor p (.error why.raised : Except Rejection α) := by
  rcases why.raised_cases with same | ⟨beyond, same⟩
  · rw [same]
    exact error reason
  · rw [same]
    exact error (long beyond)

end FailsFor

section

variable {p : Rejection → Prop} (foreseen : ∀ why : Rejection, why.Foreseen → p why)

include foreseen

theorem failsFor_required {α : Type} (field : Field) (given : Option α) :
    FailsFor p (required field given) := by
  cases given with
  | none => exact .error (foreseen _ (.missing field))
  | some a => exact .ok a

theorem Host.failsFor_normalize? (host : Option LooseString) : FailsFor p (normalize? host) :=
  (failsFor_required foreseen .host host).map normalize

theorem LinkState.failsFor_ofValue (v : Json.Value) (long : v.fits = false → p .longNumeral) :
    FailsFor p (ofValue v) := by
  have unknown := foreseen _ (.unknownCode v)
  unfold ofValue
  split
  · split
    · exact .ok _
    · exact .raised unknown long
  · exact .raised unknown long

theorem Draft.failsFor_build {d : Draft}
    (each : ∀ raw, d.hosts = some raw → ∀ entry ∈ raw.entries,
      (∀ type which, entry.1 = .other type which → p (.notText type)) ∧
        (entry.2.fits = false → p .longNumeral)) : FailsFor p d.build := by
  refine (failsFor_required foreseen .identifier _).bind fun _ _ => ?_
  refine (failsFor_required foreseen .packageName _).bind fun _ _ => ?_
  refine (failsFor_required foreseen .user _).bind fun _ _ => ?_
  refine (failsFor_required foreseen .linkHandlingAllowed _).bind fun _ _ => ?_
  refine (failsFor_required foreseen .hostToState _).bind fun raw given => ?_
  refine (FailsFor.foldlM (fun entry listed hosts => ?_) OrderedMap.empty).bind fun _ _ => .ok _
  obtain ⟨key, code⟩ := entry
  obtain ⟨other, long⟩ := each raw (required_eq_ok_iff.1 given) _ listed
  refine .bind ?_ fun _ _ => (LinkState.failsFor_ofValue foreseen code long).bind fun _ _ => .ok _
  cases key with
  | given host => exact Host.failsFor_normalize? foreseen host
  | other type which => exact .error (other type which rfl)

end

namespace Scope

variable {s : Scope} {user : Int} {package : String} {r : Record} {host : LooseString}
  {p : Rejection → Prop}

theorem failsFor_verify (consistent : s.Consistent user) (known : s.packages[package]? = some r) :
    FailsFor p (s.verify package r host) := by
  obtain ⟨s', verified⟩ : ∃ s', s.verify package r host = .ok s' := exists_verify consistent known
  rw [verified]
  exact .ok s'

theorem failsFor_select (foreseen : ∀ why : Rejection, why.Foreseen → p why)
    (long : Text.Integer.fits user = false → p .longNumeral) :
    FailsFor p (s.select user package r host) := by
  intro why failed
  rcases select_error_cases failed with ⟨_, rfl⟩ | ⟨_, _, _, owner, rfl, _⟩
  · exact FailsFor.raised (α := Unit) (foreseen _ (.undeclaredHost user package host)) long _ rfl
  · exact foreseen _ (.hostOwned host owner)

end Scope

namespace Registry

variable {reg : Registry} {p : Rejection → Prop}

theorem failsFor_locate (reg : Registry) {ref : PackageRef}
    (foreseen : ∀ why : Rejection, why.Foreseen → p why)
    (long : ∀ user, ref.user = some user → Text.Integer.fits user = false → p .longNumeral) :
    FailsFor p (reg.locate ref) := by
  intro why missed
  rw [locate_eq_error missed]
  refine FailsFor.raised (α := Unit) (foreseen _ (.unknownPackage ref.user ref.package)) ?_ _ rfl
  intro beyond
  obtain ⟨user, package⟩ := ref
  cases user with
  | none => cases beyond
  | some user => exact long user rfl beyond

/-! ## Calls that answer or leave no trace -/

/-- A call that is turned down has changed nothing, for one of the given reasons.  A call that
answers has made no scope but for the user that it brings in, if it is to bring one in. -/
structure Atomic {α : Type} (brings : Option Int) (p : Rejection → Prop) (reg : Registry)
    (call : Except Rejection α × Registry) : Prop where
  unchanged : ∀ why, call.1 = .error why → call.2 = reg
  reasons : FailsFor p call.1
  scopes : ∀ user s, call.2.scopes[user]? = some s →
    reg.scopes[user]? ≠ none ∨ brings = some user ∧ ∃ a, call.1 = .ok a

theorem Atomic.map {α β : Type} {brings : Option Int} {call : Except Rejection α × Registry}
    (atomic : Atomic brings p reg call) (f : α → β) :
    Atomic brings p reg (call.1.map f, call.2) where
  unchanged why rejected := atomic.unchanged why (map_eq_error_iff.1 rejected)
  reasons := atomic.reasons.map f
  scopes user s found := by
    rcases atomic.scopes user s found with there | ⟨brought, a, answered⟩
    · exact Or.inl there
    · exact Or.inr ⟨brought, f a, by rw [answered]; rfl⟩

/-- A call that leaves the registry as it is. -/
theorem atomic_reading {α : Type} {brings : Option Int} {answer : Except Rejection α}
    (reasons : FailsFor p answer) : Atomic brings p reg (answer, reg) where
  unchanged _ _ := rfl
  reasons := reasons
  scopes user s found := Or.inl (by rw [found]; nofun)

/-- A call that answers and puts a scope in place for the user that it brings in. -/
theorem atomic_putScope {α : Type} (a : α) (user : Int) (s : Scope) :
    Atomic (some user) p reg (.ok a, reg.putScope user s) where
  unchanged _ := nofun
  reasons := .ok a
  scopes v t found := by
    rw [getElem?_putScope] at found
    split at found
    · rename_i here
      exact Or.inr ⟨by rw [here], a, rfl⟩
    · exact Or.inl (by rw [found]; nofun)

theorem atomic_changeAt {α : Type} {check : Except Rejection α} {ref : PackageRef}
    {next : α → Site → Except Rejection Scope} (checked : FailsFor p check)
    (located : FailsFor p (reg.locate ref))
    (changed : ∀ a site, reg.locate ref = .ok site → FailsFor p (next a site)) :
    Atomic none p reg (reg.changeAt check ref next) := by
  rcases reg.changeAt_cases check ref next with
    ⟨why, rejected, reason⟩ | ⟨_, site, s, _, found, _, made⟩
  · rw [rejected]
    refine atomic_reading (.error ?_)
    rcases reason with unchecked | ⟨a, _, missed | ⟨site, found, refused⟩⟩
    · exact checked why unchecked
    · exact located why missed
    · exact changed a site found why refused
  · rw [made]
    refine ⟨nofun, .ok (), fun v t there => Or.inl ?_⟩
    -- The scope that was put in place is that of a user who had one.
    rw [getElem?_putScope] at there
    split at there
    · rename_i here
      rw [here, (locate_eq_ok_iff.1 found).2.1]
      nofun
    · rw [there]
      nofun

theorem atomic_addPackage {draft : Draft} (built : FailsFor p draft.build) :
    Atomic draft.user p reg (reg.addPackage draft) := by
  unfold addPackage
  split
  · rename_i why failed
    exact atomic_reading (.error (built why failed))
  · rename_i r built
    rw [show draft.user = some r.user from congrArg PackageRef.user (ref_of_build built)]
    simp only
    split
    · exact atomic_putScope ..
    · exact atomic_putScope ..

theorem atomic_restore {draft : Draft} {approved : Option (List (Option LooseString))}
    (foreseen : ∀ why : Rejection, why.Foreseen → p why) (copied : FailsFor p draft.copy)
    (listed : FailsFor p (normalizeAll? approved)) :
    Atomic draft.user p reg (reg.restore draft approved) := by
  unfold restore
  split
  · rename_i why failed
    exact atomic_reading (.error (copied why failed))
  · rename_i why _ failed
    exact atomic_reading (.error (listed why failed))
  · rename_i r hosts made _
    have built := Draft.copy_eq_ok_iff.1 made
    rw [show draft.user = some r.user from congrArg PackageRef.user (ref_of_build built)]
    simp only
    split
    · rename_i why conflict
      obtain ⟨host, owner, rfl⟩ := Scope.conflict?_eq_some conflict
      rw [putScope_self (scope_of_conflict conflict)]
      exact atomic_reading (.error (foreseen _ (.hostOwned host owner)))
    · exact atomic_putScope ..

theorem atomic_removeUser {α : Type} (reg : Registry) (a : α) (user : Option Int) :
    Atomic none p reg (.ok a, reg.removeUser user) where
  unchanged _ := nofun
  reasons := .ok a
  scopes v s found := by
    refine Or.inl ?_
    cases user with
    | none => rw [show reg.scopes[v]? = some s from found]; nofun
    | some u =>
        rw [getElem?_removeUser] at found
        split at found
        · cases found
        · rw [found]; nofun

end Registry

namespace Operation

/-- The user whose scope a call makes if there is none: calls that add a package and calls that
restore a record bring users in. -/
def brings : Operation → Option Int
  | .addPackage ref _ _ _ => ref.user
  | .restore draft _ => draft.user
  | _ => none

/-! ## What each call is turned down for -/

/-- A first record has texts for hosts, or none, and its codes are short. -/
theorem failsFor_fresh (op : Operation) (identifier : Identifier) (ref : PackageRef)
    (hosts : List (Option LooseString)) (allowed : Option Bool) :
    FailsFor op.Raises (Draft.fresh identifier ref.package ref.user hosts allowed).build := by
  refine Draft.failsFor_build (fun _ => .foreseen op) fun raw given entry listed => ?_
  cases given
  obtain ⟨⟨spelling, _, named⟩, code⟩ := Draft.codes_of_fresh listed
  refine ⟨fun type which other => (nomatch named.symm.trans other), fun long => ?_⟩
  rw [code] at long
  cases long.symm.trans (LinkState.fits_code .unclaimed)

theorem failsFor_copy (draft : Draft) (approved : Option (List (Option LooseString))) :
    FailsFor (Raises (.restore draft approved)) draft.copy := by
  unfold Draft.copy
  split
  · rename_i missing
    exact .error (.noMap draft approved missing)
  · refine Draft.failsFor_build (fun _ => .foreseen _) fun raw given entry listed => ⟨?_, ?_⟩
    · obtain ⟨key, code⟩ := entry
      rintro type which rfl
      exact .notText draft approved given listed
    · exact .longCode draft approved given listed

theorem failsFor_normalizeAll? (draft : Draft) (approved : Option (List (Option LooseString))) :
    FailsFor (Raises (.restore draft approved)) (Registry.normalizeAll? approved) := by
  cases approved with
  | none => exact .error (.noList draft)
  | some hosts => exact .mapM (Host.failsFor_normalize? fun _ => .foreseen _) hosts

/-- Every call answers or leaves no trace. -/
theorem atomic (op : Operation) {reg : Registry} (before : reg.Consistent) :
    Registry.Atomic op.brings op.Raises reg (op.apply reg) := by
  have foreseen (why : Rejection) : why.Foreseen → op.Raises why := .foreseen op
  have long (user : Int) : op.ref.user = some user → Text.Integer.fits user = false →
    op.Raises .longNumeral := .longUser op
  have host (h : Option LooseString) : FailsFor op.Raises (Host.normalize? h) :=
    Host.failsFor_normalize? foreseen h
  cases op with
  | addPackage ref identifier hosts allowed =>
      cases hosts with
      | none => exact Registry.atomic_reading (.error (.noHosts ref identifier allowed))
      | some hosts =>
          exact (Registry.atomic_addPackage (failsFor_fresh _ identifier ref hosts allowed)).map _
  | restore draft approved =>
      exact (Registry.atomic_restore foreseen (failsFor_copy draft approved)
        (failsFor_normalizeAll? draft approved)).map _
  | setVerified ref h =>
      refine Registry.Atomic.map ?_ _
      rw [Registry.setVerified_eq_changeAt]
      refine Registry.atomic_changeAt (host h) (reg.failsFor_locate foreseen long) fun _ site found => ?_
      obtain ⟨_, scope, known⟩ := Registry.locate_eq_ok_iff.1 found
      exact Scope.failsFor_verify (before site.user site.scope scope) known
  | setSelected ref h =>
      refine Registry.Atomic.map ?_ _
      rw [Registry.setSelected_eq_changeAt]
      refine Registry.atomic_changeAt (host h) (reg.failsFor_locate foreseen long) fun _ site found => ?_
      obtain ⟨names, _⟩ := Registry.locate_eq_ok_iff.1 found
      exact Scope.failsFor_select foreseen (long site.user (congrArg PackageRef.user names))
  | clearSelected ref h =>
      refine Registry.Atomic.map ?_ _
      rw [Registry.clearSelected_eq_changeAt]
      exact Registry.atomic_changeAt (host h) (reg.failsFor_locate foreseen long) fun _ _ _ => .ok _
  | setLinkHandlingAllowed ref allowed =>
      refine Registry.Atomic.map ?_ _
      rw [Registry.setLinkHandlingAllowed_eq_changeAt]
      exact Registry.atomic_changeAt (.ok ()) (reg.failsFor_locate foreseen long) fun _ _ _ => .ok _
  | removePackage ref =>
      refine Registry.Atomic.map ?_ _
      rw [Registry.removePackage_eq_changeAt]
      exact Registry.atomic_changeAt (.ok ()) (reg.failsFor_locate foreseen long) fun _ _ _ => .ok _
  | removeUser user => exact Registry.atomic_removeUser reg _ user
  | userState ref =>
      exact Registry.atomic_reading (((reg.failsFor_locate foreseen long).map _).map _)
  | hostMap ref => exact Registry.atomic_reading (((reg.failsFor_locate foreseen long).map _).map _)
  | approvedHosts ref =>
      exact Registry.atomic_reading (((reg.failsFor_locate foreseen long).map _).map _)
  | packageNames user => exact Registry.atomic_reading (.ok _)
  | exclusiveOwner user h =>
      exact Registry.atomic_reading (((host h).bind fun _ _ => .ok _).map _)
  | owners user h => exact Registry.atomic_reading (((host h).bind fun _ _ => .ok _).map _)

end Operation

namespace Registry

end Registry

end LinkOwnership
