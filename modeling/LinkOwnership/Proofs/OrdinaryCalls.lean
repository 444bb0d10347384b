/-
# LinkOwnership.Proofs.OrdinaryCalls -- calls that are answered while the database is up

A call changes the registry and then writes what it has changed.  While the database is up, the
write fails only for a record that has no stored form, or whose row the engine refuses: its user is
beyond 32 bits, its name or one of its hosts is no text that is taken, or one of its sizes outgrew
its field.  All but the last can be kept out of a registry (`Record.Plain`): what a call brings in is
plain when its arguments are (`Registry.Orderly`, one lemma for each operation).

So a service stays `Service.Sound` under ordinary calls, and each of them is made, or refused for a
reason that has an answer of its own, as long as no record outgrows its form
(`Service.Call.Ordinary.sound`).  Nothing keeps out the package of a user beyond 32 bits, or one
whose name is refused: the registry has it, and its row is missing (`Service.addPackage_beyond`).
-/
import LinkOwnership.Proofs.Retry

namespace LinkOwnership

set_option autoImplicit false

open LinkOwnership.Text (LooseString Whole)

/-! ## What holds of every record -/

namespace Scope

variable {s s' : Scope} {p : Record → Prop} {package : String} {r : Record} {host : LooseString}

/-- Something holds of every record of the scope. -/
def Every (p : Record → Prop) (s : Scope) : Prop :=
  ∀ (package : String) (r : Record), s.packages[package]? = some r → p r

theorem Every.putRecord (every : s.Every p) (new : p r) : (s.putRecord package r).Every p := by
  intro q found known
  rw [getElem?_putRecord] at known
  split at known
  · cases known
    exact new
  · exact every q found known

theorem Every.verify (every : s.Every p) (new : ∀ state, p (r.setState host state))
    (done : s.verify package r host = .ok s') : s'.Every p := by
  obtain ⟨_, rfl⟩ | ⟨_, rfl⟩ | ⟨_, rfl⟩ := verify_cases done
  · exact every
  · exact Every.putRecord every (new .verified)
  · exact every.putRecord (new .verified)

theorem Every.select {user : Int} (every : s.Every p) (new : ∀ state, p (r.setState host state))
    (done : s.select user package r host = .ok s') : s'.Every p := by
  obtain ⟨_, _, ⟨_, rfl⟩ | ⟨_, _, rfl⟩ | ⟨_, _, _, rfl⟩⟩ := select_cases done
  · exact every
  · exact every
  · exact Every.putRecord every (new .selected)

theorem Every.clear (every : s.Every p)
    (new : r.stateFor host = .selected → p (r.setState host .unclaimed)) :
    (s.clear package r host).Every p := by
  intro q found known
  rw [Scope.clear, packages_release] at known
  split at known
  · rename_i selected
    exact every.putRecord (new selected) q found known
  · exact every q found known

theorem Every.remove (every : s.Every p) : (s.remove package r).Every p := by
  intro q found known
  rw [Scope.remove, getElem?_erase_if, packages_release] at known
  split at known
  · cases known
  · exact every q found known

end Scope

namespace Registry

variable {reg : Registry} {p : Record → Prop} {key : RowKey}

def Every (p : Record → Prop) (reg : Registry) : Prop :=
  ∀ (user : Int) (s : Scope), reg.scopes[user]? = some s → s.Every p

instance [DecidablePred p] : Decidable (reg.Every p) :=
  decidable_of_iff (∀ scope ∈ reg.scopes.toList, ∀ record ∈ scope.2.packages.toList, p record.2) <| by
    simp only [Every, Scope.Every, Prod.forall, Std.ExtTreeMap.mem_toList_iff_getElem?_eq_some]

theorem every_empty (p : Record → Prop) : empty.Every p := by
  intro user s found
  simp [empty] at found

theorem Every.scopeOrEmpty (every : reg.Every p) (user : Int) : (reg.scopeOrEmpty user).Every p := by
  rw [scopeOrEmpty_eq]
  cases found : reg.scopes[user]? with
  | none =>
      intro package r known
      simp [Scope.empty] at known
  | some s => exact every user s found

theorem Every.putScope (every : reg.Every p) {user : Int} {s : Scope} (scope : s.Every p) :
    (reg.putScope user s).Every p := by
  intro v t found
  rw [getElem?_putScope] at found
  split at found
  · cases found
    exact scope
  · exact every v t found

/-- What holds of every record holds of the one that is known of a package. -/
theorem Every.known (every : reg.Every p) {r : Record} (known : reg.userState key.ref = .ok r) :
    p r :=
  every.scopeOrEmpty key.user key.package r (userState_eq_ok_iff.1 known)

end Registry

/-! ## Records that can be written -/

namespace Engine

/-- A host that has a form in UTF-8 and is not refused. -/
structure TakesHost (e : Engine) (host : LooseString) : Prop where
  whole : Whole host.points
  accepted : e.refusesText host = none

/-- A name that is not refused, neither as a text nor in a key. -/
structure TakesName (e : Engine) (name : String) : Prop where
  text : e.refusesText name = none
  key : e.refusesName name = none

instance (e : Engine) (host : LooseString) : Decidable (e.TakesHost host) :=
  decidable_of_iff (Whole host.points ∧ e.refusesText host = none)
    ⟨fun ⟨whole, accepted⟩ => ⟨whole, accepted⟩, fun ⟨whole, accepted⟩ => ⟨whole, accepted⟩⟩

instance (e : Engine) (name : String) : Decidable (e.TakesName name) :=
  decidable_of_iff (e.refusesText name = none ∧ e.refusesName name = none)
    ⟨fun ⟨text, key⟩ => ⟨text, key⟩, fun ⟨text, key⟩ => ⟨text, key⟩⟩

/-- A row that is not refused has a name that is not refused. -/
theorem takesName_of_row {e : Engine} {name : String} {approved : List LooseString}
    (accepted : e.refusesRow name approved = none) : e.TakesName name := by
  simp only [refusesRow, Option.orElse_eq_orElse, Option.orElse_eq_or, Option.or_eq_none_iff]
    at accepted
  exact ⟨accepted.1, accepted.2.1⟩

end Engine

namespace Record

variable {e : Engine} {r : Record} {host : LooseString}

/-- A record whose user fits its field and whose texts are taken. -/
structure Plain (e : Engine) (r : Record) : Prop where
  user : Wire.FitsInt32 r.user
  name : e.TakesName r.packageName
  hosts : ∀ host ∈ r.hosts.keys, e.TakesHost host

/-- No length of a text and no number of hosts is more than its field can hold. -/
structure Sized (r : Record) : Prop where
  name : (Text.Utf8.encodeString r.packageName).length ≤ 0x7FFFFFFF
  count : r.hosts.size ≤ 0x7FFFFFFF
  hosts : ∀ host ∈ r.hosts.keys, ∀ n ∈ Wire.utf8Length? host, n ≤ 0x7FFFFFFF

instance (r : Record) : Decidable r.Sized :=
  decidable_of_iff ((Text.Utf8.encodeString r.packageName).length ≤ 0x7FFFFFFF ∧
      r.hosts.size ≤ 0x7FFFFFFF ∧
        ∀ host ∈ r.hosts.keys, ∀ n ∈ Wire.utf8Length? host, n ≤ 0x7FFFFFFF)
    ⟨fun ⟨name, count, hosts⟩ => ⟨name, count, hosts⟩, fun ⟨name, count, hosts⟩ => ⟨name, count, hosts⟩⟩

theorem Plain.storable (plain : r.Plain e) (sized : r.Sized) : r.Storable where
  user := plain.user
  name := sized.name
  count := sized.count
  hosts host member := by
    obtain ⟨s, rfl⟩ := Text.exists_ofString_iff.2 (plain.hosts host member).whole
    have length := Wire.utf8Length?_ofString s
    exact ⟨_, length, sized.hosts _ member _ length⟩

theorem Plain.setState (plain : r.Plain e) (taken : e.TakesHost host) (state : LinkState) :
    (r.setState host state).Plain e where
  user := plain.user
  name := plain.name
  hosts k member := by
    obtain rfl | old := (OrderedMap.mem_keys_insert r.hosts host state k).1 member
    · exact taken
    · exact plain.hosts k old

/-- A first record has no host but those that were declared. -/
theorem plain_of_fresh {identifier : Identifier} {key : RowKey} {hosts : List LooseString}
    {allowed : Option Bool} (fits : Wire.FitsInt32 key.user) (name : e.TakesName key.package)
    (taken : ∀ host ∈ hosts, e.TakesHost (Host.normalize host))
    (built : (Draft.fresh identifier key.ref.package key.ref.user (hosts.map some) allowed).build =
      .ok r) : r.Plain e := by
  obtain ⟨_, package, user, _, raw, given, folded⟩ := Draft.build_eq_ok_iff.1 built
  replace package : key.package = r.packageName := Option.some.inj package
  replace user : key.user = r.user := Option.some.inj user
  cases given
  refine ⟨user ▸ fits, package ▸ name,
    foldlM_keeps (fun m : HostMap => ∀ k ∈ m.keys, e.TakesHost k) ?_ folded
      (by intro k member; cases member)⟩
  intro entry listed m m' added before k member
  obtain ⟨host, state, named, _, rfl⟩ := Draft.addHost_eq_ok_iff.1 added
  obtain rfl | old := (OrderedMap.mem_keys_insert m host state k).1 member
  · obtain ⟨⟨spelling, declared, same⟩, _⟩ := Draft.codes_of_fresh listed
    obtain ⟨given, among, rfl⟩ := List.mem_map.1 declared
    rw [same] at named
    cases named
    exact taken given among
  · exact before k old

end Record

theorem Registry.Every.storable {e : Engine} {reg : Registry} (plain : reg.Every (Record.Plain e))
    (sized : reg.Every Record.Sized) : reg.Every Record.Storable :=
  fun user s found package r known =>
    (plain user s found package r known).storable (sized user s found package r known)

/-! ## Changes that requests make -/

/-- A rejection that has an answer of its own. -/
inductive Refused : Rejection → Prop
  | unknownPackage (user : Option Int) (package : Option String) :
      Refused (.unknownPackage user package)
  | hostOwned (host : LooseString) (owner : String) : Refused (.hostOwned host owner)
  | undeclaredHost (user : Int) (package : String) (host : LooseString) :
      Refused (.undeclaredHost user package host)

namespace Scope

variable {s : Scope} {user : Int} {package : String} {r : Record} {host : LooseString}

theorem refused_of_select {why : Rejection} (fits : Text.Integer.fits user = true)
    (failed : s.select user package r host = .error why) : Refused why := by
  rcases select_error_cases failed with ⟨_, rfl⟩ | ⟨_, _, _, owner, rfl, _⟩
  · rw [(Rejection.undeclaredHost user package host).raised_of_fits fits]
    exact .undeclaredHost user package host
  · exact .hostOwned host owner

end Scope

namespace Registry

variable {e : Engine} {reg : Registry} {key : RowKey}

/-- A change that was made or refused, with records afterwards that can be written but for their
sizes. -/
structure Orderly {α : Type} (e : Engine) (change : Except Rejection α × Registry) : Prop where
  plain : change.2.Every (Record.Plain e)
  refused : ∀ why, change.1 = .error why → Refused why

theorem refused_of_locate {why : Rejection} (fits : Text.Integer.fits key.user = true)
    (failed : reg.locate key.ref = .error why) : Refused why := by
  obtain rfl := locate_eq_error failed
  rw [PackageRef.unknown_of_fits key.ref fits]
  exact .unknownPackage ..

/-- A change of the scope in which a package was found. -/
theorem orderly_at (plain : reg.Every (Record.Plain e)) (fits : Text.Integer.fits key.user = true)
    {f : Site → Except Rejection Scope}
    (refused : ∀ site why, reg.locate key.ref = .ok site → f site = .error why → Refused why)
    (kept : ∀ site s, reg.locate key.ref = .ok site → f site = .ok s → s.Every (Record.Plain e)) :
    Orderly e (reg.commit (reg.locate key.ref >>= fun site =>
      f site >>= fun s => pure (reg.putScope site.user s))) := by
  cases located : reg.locate key.ref with
  | error why =>
      refine ⟨plain, ?_⟩
      rintro _ ⟨⟩
      exact refused_of_locate fits located
  | ok site =>
      cases changed : f site with
      | error why =>
          simp only [bind, Except.bind, changed]
          refine ⟨plain, ?_⟩
          rintro _ ⟨⟩
          exact refused site why located changed
      | ok s =>
          simp only [bind, Except.bind, changed]
          exact ⟨plain.putScope (kept site s located changed), nofun⟩

/-- A package that is added with its user, its name and its hosts is present, or its first record
is new. -/
theorem addPackage_fresh (reg : Registry) (identifier : Identifier) (key : RowKey)
    (hosts : List LooseString) (allowed : Bool) :
    let draft := Draft.fresh identifier key.ref.package key.ref.user (hosts.map some) (some allowed)
    ∃ r added s, draft.build = .ok r ∧ reg.addPackage draft = (.ok added, reg.putScope r.user s) ∧
      (s = reg.scopeOrEmpty r.user ∨ s = (reg.scopeOrEmpty r.user).putRecord r.packageName r) := by
  intro draft
  obtain ⟨r, built⟩ := Draft.exists_build_fresh identifier key.package key.user
    (List.forall_mem_map.2 fun h (_ : h ∈ hosts) => ⟨h, rfl⟩) allowed
  replace built : draft.build = .ok r := built
  simp only [addPackage, built]
  split
  · exact ⟨r, _, _, rfl, rfl, Or.inl rfl⟩
  · exact ⟨r, _, _, rfl, rfl, Or.inr rfl⟩

/-- A package that was not turned down is known. -/
theorem Edits.known {α : Type} {a : α} {reg' : Registry}
    (edits : Edits reg key.ref true (.ok a, reg')) : ∃ r, reg'.userState key.ref = .ok r := by
  cases edits with
  | made a names only consistent known =>
      rename_i user package
      cases RowKey.ref_inj.1 (show key.ref = RowKey.ref ⟨user, package⟩ from names)
      obtain ⟨r, found⟩ := Option.isSome_iff_exists.1 known
      exact ⟨r, userState_eq_ok_iff.2 found⟩

section Plain

variable (plain : reg.Every (Record.Plain e))

include plain

theorem plain_of_locate {site : Site} (located : reg.locate key.ref = .ok site) :
    site.scope.Every (Record.Plain e) ∧ site.record.Plain e := by
  obtain ⟨_, found, known⟩ := locate_eq_ok_iff.1 located
  exact ⟨plain _ _ found, plain _ _ found _ _ known⟩

/-- The row of a package that is known is taken: the hosts it is approved for are among its own. -/
theorem refusesRow_of_plain (consistent : reg.Consistent) {r : Record}
    (known : reg.userState key.ref = .ok r) :
    e.refusesRow r.packageName ((reg.scopeOrEmpty key.user).approvedHosts key.package) = none := by
  have record := plain.known known
  have hosts : ((reg.scopeOrEmpty key.user).approvedHosts key.package).findSome? e.refusesText =
      none := by
    refine List.findSome?_eq_none_iff.2 fun host listed => (record.hosts host ?_).accepted
    have verified := (consistent.scopeOrEmpty key.user).verified host key.package
      (Scope.mem_approvedHosts_iff.1 listed)
    rw [Scope.stateOf?_of_record (userState_eq_ok_iff.1 known)] at verified
    exact (r.hosts.mem_keys_iff host).2 ⟨_, verified⟩
  rw [Engine.refusesRow, record.name.text, record.name.key, hosts]
  rfl

theorem orderly_addPackage (identifier : Identifier) {hosts : List LooseString} (allowed : Bool)
    (int32 : Wire.FitsInt32 key.user) (name : e.TakesName key.package)
    (taken : ∀ host ∈ hosts, e.TakesHost (Host.normalize host)) :
    Orderly e (reg.addPackage
      (.fresh identifier key.ref.package key.ref.user (hosts.map some) (some allowed))) := by
  obtain ⟨r, a, s, built, added, cases⟩ := reg.addPackage_fresh identifier key hosts allowed
  have record := Record.plain_of_fresh int32 name taken built
  have scope := plain.scopeOrEmpty r.user
  rw [added]
  refine ⟨plain.putScope ?_, nofun⟩
  obtain rfl | rfl := cases
  · exact scope
  · exact scope.putRecord record

variable (fits : Text.Integer.fits key.user = true)

include fits

/-- A host that is selected is declared, so it is one that is taken. -/
theorem orderly_setSelected (host : String) : Orderly e (reg.setSelected key.ref (some host)) := by
  refine orderly_at plain fits (fun site why located => Scope.refused_of_select ?_)
    fun site s located done => ?_
  · obtain ⟨names, _⟩ := locate_eq_ok_iff.1 located
    exact (Option.some.inj (congrArg PackageRef.user names)) ▸ fits
  · obtain ⟨scope, record⟩ := plain_of_locate plain located
    obtain ⟨_, declared, _⟩ := Scope.select_cases done
    have taken := record.hosts _ ((site.record.hosts.mem_keys_iff _).2 ⟨_, declared⟩)
    exact scope.select (record.setState taken) done

theorem orderly_setLinkHandlingAllowed (allowed : Bool) :
    Orderly e (reg.setLinkHandlingAllowed key.ref allowed) := by
  refine orderly_at (f := fun site => .ok (site.scope.putRecord site.package
    { site.record with linkHandlingAllowed := allowed })) plain fits nofun ?_
  rintro site _ located ⟨⟩
  obtain ⟨scope, record⟩ := plain_of_locate plain located
  exact scope.putRecord ⟨record.user, record.name, record.hosts⟩

theorem orderly_removePackage : Orderly e (reg.removePackage key.ref) := by
  refine orderly_at (f := fun site => .ok (site.scope.remove site.package site.record)) plain fits
    nofun ?_
  rintro site _ located ⟨⟩
  exact (plain_of_locate plain located).1.remove

/-- A host is unclaimed only if it was selected before, so it is one that is taken. -/
theorem orderly_clearSelected (host : String) :
    Orderly e (reg.clearSelected key.ref (some host)) := by
  refine orderly_at (f := fun site =>
    .ok (site.scope.clear site.package site.record (Host.normalize host))) plain fits nofun ?_
  rintro site _ located ⟨⟩
  obtain ⟨scope, record⟩ := plain_of_locate plain located
  refine scope.clear fun selected => record.setState (record.hosts _ ?_) .unclaimed
  have declared := (Scope.stateFor_eq_iff (by decide)).1 selected
  exact (site.record.hosts.mem_keys_iff _).2 ⟨_, declared⟩

theorem orderly_setVerified (consistent : reg.Consistent) {host : String}
    (taken : e.TakesHost (Host.normalize host)) :
    Orderly e (reg.setVerified key.ref (some host)) := by
  refine orderly_at plain fits (fun site why located failed => ?_) fun site s located done => ?_
  · obtain ⟨_, found, known⟩ := locate_eq_ok_iff.1 located
    obtain ⟨s', verified⟩ := Scope.exists_verify (consistent _ _ found) known
    cases verified.symm.trans failed
  · obtain ⟨scope, record⟩ := plain_of_locate plain located
    exact scope.verify (record.setState taken) done

end Plain

end Registry

/-! ## Calls that requests make -/

namespace Service

variable {e : Engine} {sv : Service}

theorem persist_keeps (sv : Service) (ref : PackageRef) :
    (sv.persist ref).2.registry = sv.registry ∧
      ∃ table, (sv.persist ref).2.database = { sv.database with table := table } := by
  unfold persist
  split
  · split
    · rename_i saved
      obtain ⟨_, _, _, _, rfl⟩ := Database.save_eq_ok_iff.1 saved
      exact ⟨rfl, _, rfl⟩
    · exact ⟨rfl, _, rfl⟩
  · exact ⟨rfl, _, rfl⟩
  · exact ⟨rfl, _, rfl⟩

theorem persistAfter_keeps {α : Type} (sv : Service) (ref : PackageRef)
    (change : Except Rejection α × Registry) :
    (sv.persistAfter ref change).2.registry = change.2 ∧
      ∃ table, (sv.persistAfter ref change).2.database = { sv.database with table := table } := by
  obtain ⟨answer, reg⟩ := change
  cases answer with
  | error why => exact ⟨rfl, _, rfl⟩
  | ok a => exact persist_keeps { sv with registry := reg } ref

/-- A call that was made or refused. -/
def Answered {α : Type} (answer : Except Fault α) : Prop :=
  ∀ fault, answer = .error fault → ∃ why, fault = .rejected why ∧ Refused why

theorem answered_ok {α : Type} (a : α) : Answered (.ok a) := nofun

theorem answered_rejected {α : Type} {why : Rejection} (refused : Refused why) :
    Answered (.error (.rejected why) : Except Fault α) := by
  rintro _ ⟨⟩
  exact ⟨why, rfl, refused⟩

theorem answered_map_iff {α β : Type} {answer : Except Fault α} {f : α → β} :
    Answered (answer.map f) ↔ Answered answer := by
  simp only [Answered, map_eq_error_iff]

/-- What can be written is written while the database is up. -/
theorem answered_persistAfter {α : Type} {key : RowKey} {change : Except Rejection α × Registry}
    (engine : sv.database.engine = e) (up : sv.database.down = false)
    (consistent : change.2.Consistent) (edits : Registry.Edits sv.registry key.ref true change)
    (orderly : Registry.Orderly e change) (sized : change.2.Every Record.Sized) :
    Answered (sv.persistAfter key.ref change).1 := by
  obtain ⟨answer, reg⟩ := change
  cases answer with
  | error why => exact answered_rejected (orderly.refused why rfl)
  | ok a =>
      obtain ⟨r, known⟩ := edits.known
      obtain ⟨bytes, put⟩ := Record.exists_encode.2 ((orderly.plain.storable sized).known known)
      have taken := Registry.refusesRow_of_plain orderly.plain consistent known
      simp only [persistAfter, persist_of_known known, Database.save_eq, put, up, engine, taken,
        Bool.false_eq_true, if_false]
      exact answered_ok r

theorem removePackage_of_up {key : RowKey} (engine : sv.database.engine = e)
    (up : sv.database.down = false) (consistent : sv.registry.Consistent)
    (plain : sv.registry.Every (Record.Plain e))
    (refused : ∀ why, (sv.registry.removePackage key.ref).1 = .error why → Refused why) :
    (sv.removePackage key.ref).2.registry = (sv.registry.removePackage key.ref).2 ∧
      (∃ table, (sv.removePackage key.ref).2.database = { sv.database with table := table }) ∧
        Answered (sv.removePackage key.ref).1 := by
  unfold removePackage
  cases removed : sv.registry.removePackage key.ref with
  | mk answer reg =>
      rw [removed] at refused
      cases answer with
      | error why => exact ⟨rfl, ⟨_, rfl⟩, answered_rejected (refused why rfl)⟩
      | ok u =>
          obtain ⟨key', r, same, known, _⟩ := Registry.removePackage_again consistent removed
          obtain rfl := RowKey.ref_inj.1 same
          have own := congrArg RowKey.package (consistent.own_of_known known).1
          have taken : e.refusesText key.package = none := own ▸ (plain.known known).name.text
          simp only [RowKey.ref, Database.delete, Database.connect, up, Bool.false_eq_true, if_false]
          simp only [bind, Except.bind, engine, taken, Database.accept]
          exact ⟨rfl, ⟨_, rfl⟩, answered_ok ()⟩

theorem answered_userState (sv : Service) (key : RowKey) (fits : Text.Integer.fits key.user = true) :
    Answered (sv.userState key.ref) := by
  unfold userState Registry.userState
  cases located : sv.registry.locate key.ref with
  | ok site => exact answered_ok site.record
  | error why => exact answered_rejected (Registry.refused_of_locate fits located)

/-- A service whose database is up, whose rows mirror its registry, and whose records can be written
but for their sizes. -/
structure Sound (e : Engine) (sv : Service) : Prop where
  engine : sv.database.engine = e
  up : sv.database.down = false
  consistent : sv.registry.Consistent
  plain : sv.registry.Every (Record.Plain e)
  mirrors : ∀ key, sv.Mirrors key

theorem sound_start (e : Engine) : (start ⟨e, ∅, false⟩).Sound e where
  engine := rfl
  up := rfl
  consistent := Registry.consistent_empty
  plain := Registry.every_empty _
  mirrors := mirrors_start e false

/-- After a call that was made or refused, the rows mirror the registry as before. -/
theorem Sound.mirrors_apply (sound : sv.Sound e) {c : Call} (answered : Answered (c.apply sv).1)
    (key : RowKey) : (c.apply sv).2.Mirrors key := by
  have step := apply_step c sound.consistent
  cases made : (c.apply sv).1 with
  | ok answer =>
      by_cases covered : c.covers key = true
      · exact step.written answer made key covered
      · exact (sound.mirrors key).of_sameAt (step.others key covered)
  | error fault =>
      obtain ⟨why, rfl, _⟩ := answered fault made
      rw [step.turnedDown _ made nofun]
      exact sound.mirrors key

/-- A call that a request makes names a user whose number can be written, a package, and a host if it
is about one.  A package that is added is one that can be written, but for its sizes. -/
inductive Call.Ordinary (e : Engine) : Call → Prop
  | addPackage (key : RowKey) (identifier : Identifier) {hosts : List LooseString}
      (int32 : Wire.FitsInt32 key.user) (name : e.TakesName key.package)
      (taken : ∀ host ∈ hosts, e.TakesHost (Host.normalize host)) :
      Ordinary e (.addPackage key.ref identifier (hosts.map some))
  | setVerified (key : RowKey) (fits : Text.Integer.fits key.user = true) {host : String}
      (taken : e.TakesHost (Host.normalize host)) : Ordinary e (.setVerified key.ref (some host))
  | setSelected (key : RowKey) (fits : Text.Integer.fits key.user = true) (host : String) :
      Ordinary e (.setSelected key.ref (some host))
  | clearSelected (key : RowKey) (fits : Text.Integer.fits key.user = true) (host : String) :
      Ordinary e (.clearSelected key.ref (some host))
  | setLinkHandlingAllowed (key : RowKey) (fits : Text.Integer.fits key.user = true)
      (allowed : Bool) : Ordinary e (.setLinkHandlingAllowed key.ref allowed)
  | removePackage (key : RowKey) (fits : Text.Integer.fits key.user = true) :
      Ordinary e (.removePackage key.ref)

/-- What a call leaves of a sound service is sound when it was made or refused, and no record has
become one that cannot be written but for its sizes. -/
theorem Sound.apply (sound : sv.Sound e) {c : Call} (answered : Answered (c.apply sv).1)
    (database : ∃ table, (c.apply sv).2.database = { sv.database with table := table })
    (plain : (c.apply sv).2.registry.Every (Record.Plain e)) :
    (c.apply sv).2.Sound e := by
  obtain ⟨table, same⟩ := database
  refine ⟨?_, ?_, (apply_step c sound.consistent).consistent, plain, sound.mirrors_apply answered⟩
  · rw [same]
    exact sound.engine
  · rw [same]
    exact sound.up

/-- An ordinary call whose answer shows the record of the package. -/
theorem Sound.withRecord (sound : sv.Sound e) {c : Call} {α : Type} {key : RowKey}
    {change : Except Rejection α × Registry}
    (applied : c.apply sv = Call.apply.withRecord (sv.persistAfter key.ref change))
    (edits : Registry.Edits sv.registry key.ref true change)
    (orderly : Registry.Orderly e change)
    (sized : (c.apply sv).2.registry.Every Record.Sized) :
    (c.apply sv).2.Sound e ∧ Answered (c.apply sv).1 := by
  obtain ⟨registry, database⟩ := persistAfter_keeps sv key.ref change
  have after : (c.apply sv).2 = (sv.persistAfter key.ref change).2 := congrArg Prod.snd applied
  rw [after, registry] at sized
  have answered : Answered (c.apply sv).1 := by
    rw [applied]
    exact answered_map_iff.2 (answered_persistAfter sound.engine sound.up
      (edits.consistent sound.consistent) edits
      orderly sized)
  refine ⟨sound.apply answered ?_ ?_, answered⟩
  · rw [after]
    exact database
  · rw [after, registry]
    exact orderly.plain

/-- An ordinary call is made or refused, and keeps a service sound as long as no record outgrows
its form. -/
theorem Call.Ordinary.sound {c : Call} (ordinary : c.Ordinary e) (sound : sv.Sound e)
    (sized : (c.apply sv).2.registry.Every Record.Sized) :
    (c.apply sv).2.Sound e ∧ Answered (c.apply sv).1 := by
  have consistent := sound.consistent
  have plain := sound.plain
  cases ordinary with
  | addPackage key identifier int32 name taken =>
      exact sound.withRecord rfl (Registry.addPackage_edits consistent key.ref identifier _ _)
        (Registry.orderly_addPackage plain identifier true int32 name taken) sized
  | setVerified key fits taken =>
      exact sound.withRecord rfl (Registry.setVerified_edits consistent _ _)
        (Registry.orderly_setVerified plain fits consistent taken) sized
  | setSelected key fits host =>
      exact sound.withRecord rfl (Registry.setSelected_edits consistent _ _)
        (Registry.orderly_setSelected plain fits host) sized
  | clearSelected key fits host =>
      exact sound.withRecord rfl (Registry.clearSelected_edits consistent _ _)
        (Registry.orderly_clearSelected plain fits host) sized
  | setLinkHandlingAllowed key fits allowed =>
      exact sound.withRecord rfl (Registry.setLinkHandlingAllowed_edits consistent _ _)
        (Registry.orderly_setLinkHandlingAllowed plain fits allowed) sized
  | removePackage key fits =>
      have orderly : Registry.Orderly e (sv.registry.removePackage key.ref) :=
        Registry.orderly_removePackage plain fits
      obtain ⟨registry, database, answered⟩ :=
        removePackage_of_up sound.engine sound.up consistent plain orderly.refused
      replace answered : Answered (Call.apply (.removePackage key.ref) sv).1 :=
        answered_map_iff.2 answered
      exact ⟨sound.apply answered database (registry ▸ orderly.plain), answered⟩

/-- A package that is added for a user beyond 32 bits, or under a name that is refused, is known
afterwards, although no row is written for it. -/
theorem addPackage_beyond (before : sv.registry.Consistent) {key : RowKey}
    (beyond : ¬ Wire.FitsInt32 key.user ∨ ¬ sv.database.engine.TakesName key.package)
    (identifier : Identifier) (hosts : List LooseString) :
    ∃ reg fault r, (Call.addPackage key.ref identifier (hosts.map some)).apply sv =
        (.error (.store fault), { sv with registry := reg }) ∧
      reg.userState key.ref = .ok r := by
  have edits := Registry.addPackage_edits before key.ref identifier (hosts.map some) (some true)
  obtain ⟨_, a, s, _, added, _⟩ := sv.registry.addPackage_fresh identifier key hosts true
  have consistent := edits.consistent before
  rw [added] at edits consistent
  obtain ⟨r, known⟩ := edits.known
  obtain ⟨own, _⟩ := consistent.own_of_known known
  have applied : (Call.addPackage key.ref identifier (hosts.map some)).apply sv =
      Call.apply.withRecord (sv.persistAfter key.ref (.ok a, _)) := congrArg (fun change =>
    Call.apply.withRecord (sv.persistAfter key.ref change)) added
  rw [applied, persistAfter, persist_of_known known]
  cases saved : sv.database.save r _ with
  | error fault => exact ⟨_, fault, r, rfl, known⟩
  | ok db =>
      obtain ⟨bytes, put, _, accepted, _⟩ := Database.save_eq_ok_iff.1 saved
      have storable := Record.exists_encode.1 ⟨bytes, put⟩
      have taken : sv.database.engine.TakesName r.packageName := Engine.takesName_of_row accepted
      subst own
      exact absurd beyond (not_or.2 ⟨not_not_intro storable.user, not_not_intro taken⟩)

end Service

end LinkOwnership
