/-
# LinkOwnership.Proofs.Refusals -- requests without an effect

A request does nothing to the service, or it makes one call and its answer says why that call has
failed (`Web.Application.Effect`).  A call that is turned down changes nothing, so a request has no
effect when its answer refuses it (`Effect.unchanged`), and a function that is declared for GET
never has any (`Web.Application.perform_get`).

A call about a package is answered in fixed words when it needs the package and the registry does
not know it, and only then.  The database has no say in this: what is unknown is turned down before
anything is written.  All of it is so behind any framework that keeps its promises, for what it
answers by itself does not reach the service.
-/
import LinkOwnership.Proofs.Located
import LinkOwnership.Proofs.Requests
import LinkOwnership.Proofs.Retry

namespace LinkOwnership

set_option autoImplicit false

open LinkOwnership.Text (LooseString)

/-! ## Rejections -/

namespace Registry

variable {reg : Registry} {key : RowKey}

/-- An answer says of a package that it is unknown exactly when it is. -/
def Finds {α : Type} (reg : Registry) (key : RowKey) (answer : Except Rejection α) : Prop :=
  (∃ user package, answer = .error (.unknownPackage user package)) ↔
    ∀ r, reg.userState key.ref ≠ .ok r

section

variable (fits : Text.Integer.fits key.user = true)

include fits

theorem finds_locate (reg : Registry) : reg.Finds key (reg.locate key.ref) := by
  unfold Finds userState
  cases located : reg.locate key.ref with
  | ok site => exact ⟨nofun, fun unknown => absurd rfl (unknown site.record)⟩
  | error why =>
      obtain rfl := locate_eq_error located
      have told := PackageRef.unknown_of_fits key.ref fits
      exact ⟨fun _ => nofun, fun _ => ⟨_, _, congrArg Except.error told⟩⟩

theorem finds_userState (reg : Registry) : reg.Finds key (reg.userState key.ref) := by
  refine Iff.trans ?_ (finds_locate fits reg)
  simp only [userState, map_eq_error_iff]

/-- A change whose check is passed, and whose own rejections are about something else. -/
theorem finds_changeAt {α : Type} {check : Except Rejection α} {a : α}
    {next : α → Site → Except Rejection Scope} (passed : check = .ok a)
    (other : ∀ site user package, next a site ≠ .error (.unknownPackage user package)) :
    reg.Finds key (reg.changeAt check key.ref next).1 := by
  refine Iff.trans ?_ (finds_locate fits reg)
  rcases reg.changeAt_cases check key.ref next with
    ⟨why, rejected, failed | ⟨b, checked, missed | ⟨site, located, refused⟩⟩⟩ |
      ⟨b, site, s, checked, located, changed, made⟩
  · cases passed.symm.trans failed
  · rw [rejected, missed]
    simp only [Except.error.injEq]
  · obtain rfl : a = b := Except.ok.inj (passed.symm.trans checked)
    rw [rejected, located]
    refine ⟨?_, nofun⟩
    rintro ⟨user, package, same⟩
    cases same
    exact absurd refused (other site user package)
  · rw [made, located]
    exact ⟨nofun, nofun⟩

theorem finds_setVerified (reg : Registry) (host : LooseString) :
    reg.Finds key (reg.setVerified key.ref (some host)).1 := by
  rw [setVerified_eq_changeAt]
  refine finds_changeAt fits rfl fun site user package failed => ?_
  unfold Scope.verify at failed
  split at failed
  · cases failed
  · split at failed <;> cases failed
  · cases failed

theorem finds_setSelected (reg : Registry) (host : LooseString) :
    reg.Finds key (reg.setSelected key.ref (some host)).1 := by
  rw [setSelected_eq_changeAt]
  refine finds_changeAt fits rfl fun site user package failed => ?_
  rcases Scope.select_error_cases failed with ⟨_, other⟩ | ⟨_, _, _, _, other, _⟩
  · rcases (Rejection.undeclaredHost site.user site.package (Host.normalize host)).raised_cases with
      told | ⟨_, told⟩
    · cases other.trans told
    · cases other.trans told
  · cases other

theorem finds_clearSelected (reg : Registry) (host : LooseString) :
    reg.Finds key (reg.clearSelected key.ref (some host)).1 := by
  rw [clearSelected_eq_changeAt]
  exact finds_changeAt fits rfl nofun

theorem finds_setLinkHandlingAllowed (reg : Registry) (allowed : Bool) :
    reg.Finds key (reg.setLinkHandlingAllowed key.ref allowed).1 := by
  rw [setLinkHandlingAllowed_eq_changeAt]
  exact finds_changeAt fits rfl nofun

theorem finds_removePackage (reg : Registry) : reg.Finds key (reg.removePackage key.ref).1 := by
  rw [removePackage_eq_changeAt]
  exact finds_changeAt fits rfl nofun

end

end Registry

namespace Service

variable {sv : Service} {key : RowKey}

/-- The rejections of a call are those of the change that it makes in the registry. -/
def SameRejections {α β : Type} (answer : Except Fault α) (change : Except Rejection β) : Prop :=
  ∀ why, answer = .error (.rejected why) ↔ change = .error why

theorem sameRejections_error {α β : Type} (why : Rejection) :
    SameRejections (.error (.rejected why) : Except Fault α) (.error why : Except Rejection β) := by
  intro other
  simp only [Except.error.injEq, Fault.rejected.injEq]

theorem sameRejections_mapError {α : Type} (answer : Except Rejection α) :
    SameRejections (answer.mapError Fault.rejected) answer := by
  cases answer with
  | ok a => exact fun why => ⟨nofun, nofun⟩
  | error why => exact sameRejections_error why

/-- A change that was made is then written, or the store has failed. -/
theorem sameRejections_persistAfter {α : Type} {change : Except Rejection α × Registry}
    (edits : Registry.Edits sv.registry key.ref true change) :
    SameRejections (sv.persistAfter key.ref change).1 change.1 := by
  obtain ⟨answer, reg⟩ := change
  cases answer with
  | error why => exact sameRejections_error why
  | ok a =>
      obtain ⟨r, known⟩ := edits.known
      rw [persistAfter, persist_of_known known]
      refine fun why => ⟨fun same => ?_, fun same => ?_⟩
      · split at same <;> cases same
      · cases same

theorem sameRejections_removePackage (sv : Service) (key : RowKey) :
    SameRejections (sv.removePackage key.ref).1 (sv.registry.removePackage key.ref).1 := by
  unfold removePackage
  generalize sv.registry.removePackage key.ref = change
  obtain ⟨answer, reg⟩ := change
  cases answer with
  | error why => exact sameRejections_error why
  | ok u =>
      refine fun why => ⟨fun same => ?_, nofun⟩
      simp only [RowKey.ref, written] at same
      split at same <;> cases same

/-- A call that is turned down changes nothing. -/
theorem Call.unchanged (c : Call) (before : sv.registry.Consistent) {why : Rejection}
    (rejected : (c.apply sv).1 = .error (.rejected why)) : (c.apply sv).2 = sv :=
  (apply_step c before).turnedDown _ rejected fun _ same => nomatch same

end Service

namespace Web

/-! ## Refusals -/

def Response.Refuses (response : Response) : Prop := 400 ≤ response.status ∧ response.status < 500

def Response.packageUnknown : Response := .detail 404 "Package state not found"

theorem rejected_of_refuses {fault : Service.Fault} (refuses : (refusal fault).Refuses) :
    ∃ why, fault = .rejected why := by
  cases fault with
  | rejected why => exact ⟨why, rfl⟩
  | store fault => exact absurd refuses.2 (Nat.lt_irrefl 500)
  | namelessPackage => exact absurd refuses.2 (Nat.lt_irrefl 500)

theorem packageUnknown_of_status {fault : Service.Fault} (missing : (refusal fault).status = 404) :
    ∃ user package, fault = .rejected (.unknownPackage user package) := by
  unfold refusal at missing
  split at missing
  · exact ⟨_, _, rfl⟩
  all_goals cases missing

namespace Application

open Service (Call)

variable {app : Application}

/-- What a request can do to a service: nothing, or one call.  A call that was made is not refused,
and one that failed is answered by its fault. -/
inductive Effect (sv : Service) : Response × Application → Prop
  | nothing (response : Response) (issuer : Issuer) : Effect sv (response, ⟨sv, issuer⟩)
  | call (c : Call) {response : Response} (issuer : Issuer)
      (made : ∀ answer, (c.apply sv).1 = .ok answer → ¬ response.Refuses)
      (failed : ∀ fault, (c.apply sv).1 = .error fault → response = refusal fault) :
      Effect sv (response, ⟨(c.apply sv).2, issuer⟩)

section Effect

variable {sv : Service} {outcome : Response × Application}

theorem Effect.consistent (effect : Effect sv outcome) (before : sv.registry.Consistent) :
    outcome.2.service.registry.Consistent := by
  cases effect with
  | nothing response issuer => exact before
  | call c issuer made failed => exact (Service.apply_step c before).consistent

/-- What is refused has no effect. -/
theorem Effect.unchanged (effect : Effect sv outcome) (before : sv.registry.Consistent)
    (refuses : outcome.1.Refuses) : outcome.2.service = sv := by
  cases effect with
  | nothing response issuer => rfl
  | call c issuer made failed =>
      cases applied : (c.apply sv).1 with
      | ok answer => exact absurd refuses (made answer applied)
      | error fault =>
          obtain rfl := failed fault applied
          obtain ⟨why, rfl⟩ := rejected_of_refuses refuses
          exact c.unchanged before applied

end Effect

theorem effect_call (c : Call) {status : Nat} (fine : status < 400)
    {call : Except Service.Fault Record × Service}
    (applied : c.apply app.service = Call.apply.withRecord call) (issuer : Issuer) :
    Effect app.service (recordResponse status call.1, ⟨call.2, issuer⟩) := by
  obtain ⟨answer, service⟩ := call
  have after : (c.apply app.service).2 = service := congrArg Prod.snd applied
  have answered : (c.apply app.service).1 = answer.map .record := congrArg Prod.fst applied
  rw [← after]
  refine .call c issuer (fun _ made refuses => ?_) fun _ failed => ?_
  · rw [answered] at made
    cases answer with
    | ok r => exact absurd refuses.1 (Nat.not_le_of_lt fine)
    | error fault => cases made
  · rw [answered] at failed
    cases answer with
    | ok r => cases failed
    | error fault => cases failed; rfl

theorem effect_removePackage (app : Application) (user : Int) (package : String) :
    Effect app.service (app.removePackage user package) := by
  let c : Call := .removePackage ⟨some user, some package⟩
  have applied : c.apply app.service =
      Call.apply.plain (app.service.removePackage ⟨some user, some package⟩) := rfl
  unfold removePackage
  generalize app.service.removePackage ⟨some user, some package⟩ = removed at applied
  obtain ⟨answer, service⟩ := removed
  have after : (c.apply app.service).2 = service := congrArg Prod.snd applied
  have answered : (c.apply app.service).1 = answer.map fun _ => .done := congrArg Prod.fst applied
  rw [← after]
  cases answer with
  | ok u =>
      refine .call c app.issuer (fun _ _ refuses => ?_) fun _ failed => ?_
      · exact absurd refuses.1 (by decide)
      · cases answered.symm.trans failed
  | error fault =>
      refine .call c app.issuer (fun _ made => ?_) fun _ failed => ?_
      · cases answered.symm.trans made
      · cases answered.symm.trans failed
        rfl

/-- One call. -/
theorem effect_perform (app : Application) (c : Invocation) :
    Effect app.service (app.perform c) := by
  cases c with
  | addPackage user package hosts =>
      exact effect_call (.addPackage ⟨some user, some package⟩ _ (hosts.map some)) (by decide) rfl _
  | removePackage user package => exact effect_removePackage app user package
  | verifyHost user package host =>
      exact effect_call (.setVerified ⟨some user, some package⟩ (some host)) (by decide) rfl _
  | selectHost user package host =>
      exact effect_call (.setSelected ⟨some user, some package⟩ (some host)) (by decide) rfl _
  | unselectHost user package host =>
      exact effect_call (.clearSelected ⟨some user, some package⟩ (some host)) (by decide) rfl _
  | setLinkHandling user package allowed =>
      exact effect_call (.setLinkHandlingAllowed ⟨some user, some package⟩ allowed) (by decide) rfl _
  | showPackage user package => exact .nothing ..
  | showOwners user host => exact .nothing ..
  | requestVerification names => exact .nothing ..
  | health => exact .nothing ..

/-- One request. -/
theorem effect_handle (fw : Framework) (app : Application) (r : Request) :
    Effect app.service (app.handle fw r) := by
  unfold handle
  split
  · exact effect_perform app _
  · exact .nothing ..

/-- What is declared for GET changes nothing. -/
theorem perform_get (app : Application) {c : Invocation} (get : c.method = "GET") :
    (app.perform c).2 = app := by
  cases c with
  | showPackage user package => rfl
  | showOwners user host => rfl
  | requestVerification names => rfl
  | health => rfl
  | addPackage user package hosts => exact absurd get (by decide : "PUT" ≠ "GET")
  | removePackage user package => exact absurd get (by decide : "DELETE" ≠ "GET")
  | verifyHost user package host => exact absurd get (by decide : "POST" ≠ "GET")
  | selectHost user package host => exact absurd get (by decide : "PUT" ≠ "GET")
  | unselectHost user package host => exact absurd get (by decide : "DELETE" ≠ "GET")
  | setLinkHandling user package allowed => exact absurd get (by decide : "PUT" ≠ "GET")

/-- A request that asks with GET changes nothing. -/
theorem handle_get {fw : Framework} (lawful : fw.Lawful) (app : Application) {r : Request}
    (get : r.method = "GET") : (app.handle fw r).2 = app := by
  unfold handle
  cases received : fw.receive r with
  | call c => exact perform_get app ((lawful.method r c received).symm.trans get)
  | answer response => rfl

end Application

/-! ## Calls about a package -/

theorem Invocation.user?_of_key? {c : Invocation} {key : RowKey} (about : c.key? = some key) :
    c.user? = some key.user := by
  cases c with
  | showOwners user host => cases about
  | requestVerification names => cases about
  | health => cases about
  | addPackage user package hosts => exact congrArg (Option.map RowKey.user) about
  | showPackage user package => exact congrArg (Option.map RowKey.user) about
  | removePackage user package => exact congrArg (Option.map RowKey.user) about
  | verifyHost user package host => exact congrArg (Option.map RowKey.user) about
  | selectHost user package host => exact congrArg (Option.map RowKey.user) about
  | unselectHost user package host => exact congrArg (Option.map RowKey.user) about
  | setLinkHandling user package allowed => exact congrArg (Option.map RowKey.user) about

/-- The answer says that the package is unknown exactly when `unknown` holds, and no other answer has
its status. -/
structure Response.SaysUnknown (response : Response) (unknown : Prop) : Prop where
  words : response = .packageUnknown ↔ unknown
  status : response.status = 404 → response = .packageUnknown

theorem Response.saysUnknown_of_other {response : Response} {unknown : Prop}
    (other : response.status ≠ 404) (known : ¬ unknown) : response.SaysUnknown unknown where
  words := ⟨fun same => absurd (congrArg Response.status same) other, fun un => absurd un known⟩
  status same := absurd same other

namespace Application

open Service (SameRejections)

variable {app : Application} {key : RowKey} {α β : Type}

/-- An answer to a call whose rejections are those of a change. -/
theorem saysUnknown_of_finds {answer : Except Service.Fault α} {change : Except Rejection β}
    {response : Response} (same : SameRejections answer change)
    (finds : app.service.registry.Finds key change)
    (made : ∀ a, answer = .ok a → response.status ≠ 404)
    (failed : ∀ fault, answer = .error fault → response = refusal fault) :
    response.SaysUnknown (∀ r, app.service.registry.userState key.ref ≠ .ok r) := by
  cases answer with
  | ok a =>
      refine Response.saysUnknown_of_other (made a rfl) fun unknown => ?_
      obtain ⟨user, package, rejected⟩ := finds.2 unknown
      cases (same _).2 rejected
  | error fault =>
      obtain rfl := failed fault rfl
      refine ⟨⟨fun told => ?_, fun unknown => ?_⟩, fun missing => ?_⟩
      · obtain ⟨user, package, rfl⟩ := packageUnknown_of_status (congrArg Response.status told)
        exact finds.1 ⟨user, package, (same _).1 rfl⟩
      · obtain ⟨user, package, rejected⟩ := finds.2 unknown
        cases (same _).2 rejected
        rfl
      · obtain ⟨user, package, rfl⟩ := packageUnknown_of_status missing
        rfl

theorem saysUnknown_recordResponse {status : Nat} (other : status ≠ 404)
    {answer : Except Service.Fault Record} {change : Except Rejection β}
    (same : SameRejections answer change) (finds : app.service.registry.Finds key change) :
    (recordResponse status answer).SaysUnknown
      (∀ r, app.service.registry.userState key.ref ≠ .ok r) := by
  refine saysUnknown_of_finds same finds ?_ ?_
  · rintro r rfl
    exact other
  · rintro fault rfl
    rfl

/-- A change that is written after it was made. -/
theorem saysUnknown_change (key : RowKey) {change : Except Rejection β × Registry}
    (edits : Registry.Edits app.service.registry key.ref true change)
    (finds : app.service.registry.Finds key change.1) :
    (app.change (app.service.persistAfter key.ref change)).1.SaysUnknown
      (∀ r, app.service.registry.userState key.ref ≠ .ok r) :=
  saysUnknown_recordResponse (by decide) (Service.sameRejections_persistAfter edits) finds

theorem saysUnknown_removePackage (finds : app.service.registry.Finds key
      (app.service.registry.removePackage key.ref).1) :
    (app.removePackage key.user key.package).1.SaysUnknown
      (∀ r, app.service.registry.userState key.ref ≠ .ok r) := by
  have same := Service.sameRejections_removePackage app.service key
  unfold removePackage
  change SameRejections (app.service.removePackage ⟨some key.user, some key.package⟩).1 _ at same
  generalize app.service.removePackage ⟨some key.user, some key.package⟩ = removed at same
  obtain ⟨answer, service⟩ := removed
  cases answer with
  | ok u =>
      exact saysUnknown_of_finds same finds (fun _ _ => show 204 ≠ 404 by decide) nofun
  | error fault =>
      refine saysUnknown_of_finds same finds nofun fun _ failed => ?_
      cases failed
      rfl

theorem status_recordResponse {status : Nat} (other : status ≠ 404)
    {answer : Except Service.Fault Record} {change : Except Rejection β}
    (same : SameRejections answer change) {b : β} (made : change = .ok b) :
    (recordResponse status answer).status ≠ 404 := by
  cases answer with
  | ok r => exact other
  | error fault =>
      intro missing
      obtain ⟨user, package, rfl⟩ := packageUnknown_of_status missing
      cases made.symm.trans ((same _).1 rfl)

/-- A package can be added whether it is known or not. -/
theorem status_addPackage (before : app.service.registry.Consistent) (key : RowKey)
    (hosts : List LooseString) : (app.addPackage key.user key.package hosts).1.status ≠ 404 := by
  let identifier := app.issuer.issue.1
  obtain ⟨_, _, _, _, made, _⟩ := app.service.registry.addPackage_fresh identifier key hosts true
  have same := Service.sameRejections_persistAfter
    (Registry.addPackage_edits before key.ref identifier (hosts.map some) (some true))
  exact status_recordResponse (by decide) same (congrArg Prod.fst made)

/-- One call about a package. -/
theorem saysUnknown_perform (before : app.service.registry.Consistent) {c : Invocation}
    (about : c.key? = some key) (fits : Text.Integer.fits key.user = true) :
    (app.perform c).1.SaysUnknown
      (c.adds = false ∧ ∀ r, app.service.registry.userState key.ref ≠ .ok r) := by
  have needs {response : Response} (adds : c.adds = false)
      (told : response.SaysUnknown (∀ r, app.service.registry.userState key.ref ≠ .ok r)) :
      response.SaysUnknown (c.adds = false ∧ ∀ r, app.service.registry.userState key.ref ≠ .ok r) :=
    ⟨told.words.trans (and_iff_right adds).symm, told.status⟩
  cases c with
  | addPackage user package hosts =>
      cases about
      exact Response.saysUnknown_of_other (status_addPackage before ⟨user, package⟩ hosts) nofun
  | showPackage user package =>
      cases about
      exact needs rfl (saysUnknown_recordResponse (by decide) (Service.sameRejections_mapError _)
        (Registry.finds_userState fits _))
  | removePackage user package =>
      cases about
      exact needs rfl (saysUnknown_removePackage (Registry.finds_removePackage fits _))
  | verifyHost user package host =>
      cases about
      exact needs rfl (saysUnknown_change ⟨user, package⟩
        (Registry.setVerified_edits before _ (some host)) (Registry.finds_setVerified fits _ host))
  | selectHost user package host =>
      cases about
      exact needs rfl (saysUnknown_change ⟨user, package⟩
        (Registry.setSelected_edits before _ (some host)) (Registry.finds_setSelected fits _ host))
  | unselectHost user package host =>
      cases about
      exact needs rfl (saysUnknown_change ⟨user, package⟩
        (Registry.clearSelected_edits before _ (some host)) (Registry.finds_clearSelected fits _ host))
  | setLinkHandling user package allowed =>
      cases about
      exact needs rfl (saysUnknown_change ⟨user, package⟩
        (Registry.setLinkHandlingAllowed_edits before _ allowed)
        (Registry.finds_setLinkHandlingAllowed fits _ allowed))
  | showOwners user host => cases about
  | requestVerification names => cases about
  | health => cases about

/-! ## Runs of requests -/

theorem consistent_of_start {db : Database} (started : (start db).1 = .ok app) :
    app.service.registry.Consistent := by
  have restored := (Service.Reachable.restored (.start db)).consistent
  unfold start at started
  simp only at started
  split at started
  · cases started
  · split at started
    · cases started
    · rename_i service same
      cases started
      rw [same] at restored
      exact restored

theorem consistent_run (fw : Framework) {app : Application}
    (before : app.service.registry.Consistent) (events : List Event) :
    (app.run fw events).2.service.registry.Consistent := by
  induction events generalizing app with
  | nil => exact before
  | cons event rest ih =>
      cases event with
      | outage down => exact ih before
      | request r => exact ih ((effect_handle fw app r).consistent before)

/-- Let an application start over any table and take any requests and outages of its database, behind
a framework that keeps its promises.  The next request leaves the registry and the rows of the table
exactly as they were if it asks with GET or is refused.  And if it makes a call about a package, its
answer says that the package is unknown exactly when the call needs the package and the registry does
not know it, whether the database is up or down. -/
theorem refused_without_effect {fw : Framework} (lawful : fw.Lawful) {db : Database}
    {app : Application} (started : (start db).1 = .ok app) (events : List Event) (r : Request) :
    let before := (app.run fw events).2
    let response := (before.handle fw r).1
    let after := (before.handle fw r).2
    (r.method = "GET" ∨ 400 ≤ response.status ∧ response.status < 500 →
      after.service = before.service) ∧
    ∀ c key, fw.receive r = .call c → c.key? = some key →
      ((response = .detail 404 "Package state not found" ↔
        c.adds = false ∧ ∀ record, before.service.registry.userState key.ref ≠ .ok record) ∧
      (response.status = 404 → response = .detail 404 "Package state not found")) := by
  intro before response after
  have consistent : before.service.registry.Consistent :=
    consistent_run fw (consistent_of_start started) events
  refine ⟨?_, fun c key received about => ?_⟩
  · rintro (get | refuses)
    · exact congrArg Application.service (handle_get lawful before get)
    · exact (effect_handle fw before r).unchanged consistent refuses
  · have answered : response = (before.perform c).1 := by
      simp only [response, handle, received]
    have fits := lawful.user r c received key.user (Invocation.user?_of_key? about)
    have told := saysUnknown_perform consistent about fits
    rw [answered]
    exact ⟨told.words, told.status⟩

/-- One package is known when the database goes out of reach. -/
def cutOff : List Event :=
  [.request ⟨"PUT", "/v1/users/1/packages/p", Text.Utf8.encodeString "\x7b\"hosts\": [\"a\"]\x7d",
      some (Text.Utf8.encodeString "application/json")⟩,
    .outage true]

/-- The removal of another package. -/
def removal : Request := ⟨"DELETE", "/v1/users/1/packages/q", [], none⟩

/-- It is turned down and changes nothing. -/
theorem refused_without_effect_cutOff :
    let before := ((fresh .byCodePoint).run routing cutOff).2
    (start ⟨.byCodePoint, ∅, false⟩).1 = .ok (fresh .byCodePoint) ∧
      before.service.registry.rowKeys = [⟨1, "p"⟩] ∧
        (before.handle routing removal).1 = .detail 404 "Package state not found" ∧
          (before.handle routing removal).2.service = before.service := by
  have resolved : resolve removal.method removal.path = .call .removePackage ["1", "q"] := by
    decide +kernel
  have received : routing.receive removal = .call (.removePackage 1 "q") := by
    simp only [routing, Request.receive, resolved]
    rfl
  have listed : ((fresh .byCodePoint).run routing cutOff).2.service.registry.rowKeys =
      [⟨1, "p"⟩] := by
    decide +kernel
  have absent : (((fresh .byCodePoint).run routing cutOff).2.service.registry.scopeOrEmpty
      1).packages["q"]? = none := by
    decide +kernel
  have applied := refused_without_effect routing_lawful (start_fresh .byCodePoint) cutOff removal
  -- The run has been evaluated where it had to be.
  generalize ((fresh .byCodePoint).run routing cutOff).2 = before at listed absent applied ⊢
  obtain ⟨unchanged, told⟩ := applied
  have unknown : ∀ r, before.service.registry.userState (⟨1, "q"⟩ : RowKey).ref ≠ .ok r := by
    intro r known
    rw [Registry.userState_eq_ok_iff, absent] at known
    cases known
  have answer := (told (.removePackage 1 "q") ⟨1, "q"⟩ received rfl).1.2 ⟨rfl, unknown⟩
  refine ⟨start_fresh .byCodePoint, listed, answer, unchanged (.inr ?_)⟩
  rw [answer]
  exact ⟨by decide, by decide⟩

end Application

end Web

end LinkOwnership
