/-
# LinkOwnership.Proofs.Requests -- the application answers every request

Behind a framework that keeps its promises, a request leaves the service as it is or makes one call.
It is ordinary (`Web.Framework.Ordinary`) when the call brings in only what can be written, and when
its body could be repeated to the client.  While the database is up, such a request keeps the service
sound, and its answer is no internal error (`Web.Application.handled_handle`).

So an application that starts over an empty table answers any ordinary requests, and its table has
one row for each package that is known and no other (`Web.Application.requests_keep_table`).  The
sizes of what the requests bring in are bounded where they matter: in the records of the registry.
-/
import LinkOwnership.Proofs.Echo
import LinkOwnership.Proofs.NamedPackages
import LinkOwnership.Proofs.OrdinaryCalls
import LinkOwnership.Web.Application

namespace LinkOwnership

set_option autoImplicit false

open LinkOwnership.Text (LooseString Whole)

namespace Web

open Service (Answered Call)

/-! ## Answers -/

theorem fine_refusal {fault : Service.Fault} (refused : ∃ why, fault = .rejected why ∧ Refused why) :
    (refusal fault).Fine := by
  obtain ⟨_, rfl, refused⟩ := refused
  cases refused with
  | unknownPackage user package => exact Response.fine_json (by decide) _
  | hostOwned host owner => exact Response.fine_json (by decide) _
  | undeclaredHost user package host => exact Response.fine_json (by decide) _

theorem fine_recordResponse {status : Nat} (known : status ≠ 500)
    {answer : Except Service.Fault Record} (answered : Answered answer) :
    (recordResponse status answer).Fine := by
  cases answer with
  | ok r => exact Response.fine_json known _
  | error fault => exact fine_refusal (answered fault rfl)

/-- A verification request for packages whose names have forms in UTF-8. -/
theorem fine_requestVerification {names : List LooseString}
    (whole : ∀ name ∈ names, Whole name.points) : (Application.requestVerification names).Fine := by
  have each : ∀ name ∈ (VerificationRequest.naming names).names, ∃ text ∈ names, name = some text := by
    intro name listed
    cases name with
    | none => exact absurd listed (VerificationRequest.none_not_mem_names_naming names)
    | some text => exact ⟨text, VerificationRequest.mem_names_naming.1 listed, rfl⟩
  obtain ⟨named, (given : _ = some named), sources⟩ := exists_mapM_eq_pure (f := id)
    fun name listed => (each name listed).imp fun _ both => both.2
  have shown : ∀ name ∈ named, ∃ s, name.string = .ok s := by
    intro name member
    obtain ⟨source, listed, same⟩ := sources name member
    obtain ⟨text, own, rfl⟩ := each source listed
    obtain rfl : text = name := Option.some.inj same
    obtain ⟨s, rfl⟩ := Text.exists_ofString_iff.2 (whole text own)
    exact ⟨s, LooseString.string_ofString s⟩
  obtain ⟨written, (all : _ = Except.ok written), _⟩ := exists_mapM_eq_pure shown
  have sorted : (VerificationRequest.ofList (names.map some)).sorted = .ok _ :=
    VerificationRequest.sorted_of_named (VerificationRequest.none_not_mem_names_naming names)
  have named' : (VerificationRequest.ofList (names.map some)).names.mapM id = some named := given
  simp only [Application.requestVerification, Service.requestVerification,
    VerificationRequest.ofNames?, sorted, Except.map, named', all]
  exact ⟨(by decide : 202 ≠ 500), rfl⟩

/-! ## One request -/

/-- A call that brings in nothing but what can be written, but for its size: a package that is added
has a user of 32 bits, and its name and its hosts are taken, and so is a host that is verified. -/
def Invocation.Ordinary (e : Engine) : Invocation → Prop
  | .addPackage user package hosts =>
      Wire.FitsInt32 user ∧ e.TakesName package ∧ ∀ host ∈ hosts, e.TakesHost (Host.normalize host)
  | .verifyHost _ _ host => e.TakesHost (Host.normalize host)
  | .requestVerification names => ∀ name ∈ names, Whole name.points
  | _ => True

instance (e : Engine) : (c : Invocation) → Decidable (c.Ordinary e)
  | .addPackage .. => inferInstanceAs (Decidable (_ ∧ _ ∧ _))
  | .verifyHost .. => inferInstanceAs (Decidable (e.TakesHost _))
  | .requestVerification names => inferInstanceAs (Decidable (∀ name ∈ names, Whole name.points))
  | .showPackage .. | .removePackage .. | .selectHost .. | .unselectHost .. | .setLinkHandling ..
  | .showOwners .. | .health => .isTrue trivial

/-- What a request comes to is ordinary unless it is a call that is not. -/
def Reception.Ordinary (e : Engine) : Reception → Prop
  | .call c => c.Ordinary e
  | .answer _ => True

instance (e : Engine) : (reception : Reception) → Decidable (reception.Ordinary e)
  | .call c => inferInstanceAs (Decidable (c.Ordinary e))
  | .answer _ => .isTrue trivial

/-- A request that makes an ordinary call if it makes one, and whose body could be repeated to the
client if it can be read. -/
structure Framework.Ordinary (fw : Framework) (e : Engine) (r : Request) : Prop where
  call : (fw.receive r).Ordinary e
  body : ∀ body ∈ fw.body? r, body.Told fw.depth

instance (fw : Framework) (e : Engine) (r : Request) : Decidable (fw.Ordinary e r) :=
  decidable_of_iff ((fw.receive r).Ordinary e ∧ ∀ body ∈ fw.body? r, body.Told fw.depth)
    ⟨fun ⟨call, body⟩ => ⟨call, body⟩, fun ⟨call, body⟩ => ⟨call, body⟩⟩

namespace Application

section Handling

variable {e : Engine} {app : Application}

/-- The request was answered and the service is sound, unless a record outgrew its form. -/
def Handled (e : Engine) (outcome : Response × Application) : Prop :=
  outcome.2.service.registry.Every Record.Sized →
    outcome.2.service.Sound e ∧ outcome.1.Fine

variable (sound : app.service.Sound e)

include sound

theorem handled_unchanged {response : Response} (fine : response.Fine) : Handled e (response, app) :=
  fun _ => ⟨sound, fine⟩

theorem handled_call {c : Call} (ordinary : c.Ordinary e) {status : Nat}
    (known : status ≠ 500) {call : Except Service.Fault Record × Service}
    (applied : c.apply app.service = Call.apply.withRecord call) (issuer : Issuer) :
    Handled e (recordResponse status call.1, ⟨call.2, issuer⟩) := by
  intro sized
  have kept := ordinary.sound sound
  rw [applied] at kept
  obtain ⟨after, answered⟩ := kept sized
  exact ⟨after, fine_recordResponse known (Service.answered_map_iff.1 answered)⟩

theorem handled_removePackage (key : RowKey) (fits : Text.Integer.fits key.user = true) :
    Handled e (app.removePackage key.user key.package) := by
  have kept := (Call.Ordinary.removePackage (e := e) key fits).sound sound
  have named : (⟨some key.user, some key.package⟩ : PackageRef) = key.ref := rfl
  unfold removePackage
  simp only [Call.apply, Call.apply.plain] at kept
  rw [named]
  generalize app.service.removePackage key.ref = removed at kept
  obtain ⟨answer, service⟩ := removed
  intro sized
  cases answer with
  | ok u => exact ⟨(kept sized).1, Response.fine_empty (by decide)⟩
  | error fault => exact ⟨(kept sized).1, fine_refusal ((kept sized).2 fault rfl)⟩

theorem fine_health : app.health.Fine := by
  simp only [health, Database.connect, sound.up, Bool.false_eq_true, if_false]
  exact Response.fine_json (by decide) _

omit sound in
theorem fine_owners (app : Application) (user : Int) (host : String) : (app.owners user host).Fine :=
  Response.fine_json (by decide) _

/-- One ordinary call. -/
theorem handled_perform {c : Invocation} (ordinary : c.Ordinary e)
    (fits : ∀ u ∈ c.user?, Text.Integer.fits u = true) : Handled e (app.perform c) := by
  cases c with
  | addPackage user package hosts =>
      obtain ⟨int32, name, taken⟩ := ordinary
      exact handled_call sound (.addPackage ⟨user, package⟩ _ int32 name taken) (by decide) rfl _
  | showPackage user package =>
      have answered := Service.answered_userState app.service ⟨user, package⟩ (fits user rfl)
      exact handled_unchanged sound (fine_recordResponse (by decide) answered)
  | removePackage user package =>
      exact handled_removePackage sound ⟨user, package⟩ (fits user rfl)
  | verifyHost user package host =>
      exact handled_call sound (.setVerified ⟨user, package⟩ (fits user rfl) ordinary)
        (by decide) rfl app.issuer
  | selectHost user package host =>
      exact handled_call sound (.setSelected ⟨user, package⟩ (fits user rfl) host)
        (by decide) rfl app.issuer
  | unselectHost user package host =>
      exact handled_call sound (.clearSelected ⟨user, package⟩ (fits user rfl) host)
        (by decide) rfl app.issuer
  | setLinkHandling user package allowed =>
      exact handled_call sound
        (.setLinkHandlingAllowed ⟨user, package⟩ (fits user rfl) allowed) (by decide) rfl
        app.issuer
  | showOwners user host => exact handled_unchanged sound (fine_owners app user host)
  | requestVerification names => exact handled_unchanged sound (fine_requestVerification ordinary)
  | health => exact handled_unchanged sound (fine_health sound)

/-- One ordinary request. -/
theorem handled_handle {fw : Framework} (lawful : fw.Lawful) {r : Request}
    (ordinary : fw.Ordinary e r) : Handled e (app.handle fw r) := by
  have call := ordinary.call
  unfold handle
  cases received : fw.receive r with
  | call c =>
      rw [received] at call
      exact handled_perform sound call (lawful.user r c received)
  | answer response =>
      exact handled_unchanged sound (lawful.answer r response received ordinary.body)

end Handling

/-! ## Runs of requests -/

def fresh (e : Engine) : Application := ⟨Service.start ⟨e, ∅, false⟩, .initial⟩

theorem start_fresh (e : Engine) : (start ⟨e, ∅, false⟩).1 = .ok (fresh e) := by
  have migrated : (Migration.run ⟨false, none⟩ (some Migration.builtIn)).failed = none := by
    decide +kernel
  have none : (∅ : Table).toList = [] := rfl
  have rows : Table.load e ∅ = [] := by
    rw [Table.load, Table.rows, none, List.mergeSort_nil, List.map_nil]
  simp only [start, migrated, Service.restoreAll, Service.start, Database.connect,
    Bool.false_eq_true, if_false, rows, Service.restoreEach]
  rfl

def after (fw : Framework) (app : Application) (rs : List Request) : Application :=
  (app.run fw (rs.map .request)).2

/-- Ordinary requests, one after the other. -/
theorem run_requests {fw : Framework} (lawful : fw.Lawful) {e : Engine} {app : Application}
    (sound : app.service.Sound e) {rs : List Request} (ordinary : ∀ r ∈ rs, fw.Ordinary e r)
    (sized : ∀ n ≤ rs.length, (app.after fw (rs.take n)).service.registry.Every Record.Sized) :
    (∀ response ∈ (app.run fw (rs.map .request)).1, response.Fine) ∧
      ∀ n ≤ rs.length, (app.after fw (rs.take n)).service.Sound e := by
  induction rs generalizing app with
  | nil =>
      refine ⟨List.forall_mem_nil _, fun n small => ?_⟩
      rw [List.take_nil]
      exact sound
  | cons r rest ih =>
      obtain ⟨first, others⟩ := List.forall_mem_cons.1 ordinary
      obtain ⟨kept, fine⟩ := handled_handle sound lawful first (sized 1 (Nat.le_add_left ..))
      obtain ⟨fineRest, keptRest⟩ := ih kept others fun n small =>
        sized (n + 1) (Nat.succ_le_succ small)
      refine ⟨List.forall_mem_cons.2 ⟨fine, fineRest⟩, fun n small => ?_⟩
      cases n with
      | zero => exact sound
      | succ n => exact keptRest n (Nat.le_of_succ_le_succ small)

/-- An application that starts over an empty table, with the database up throughout, answers every
ordinary request, and after each one the table mirrors the registry: it has one row for each package
that is known, with its record and its approved hosts, and no other. -/
theorem requests_keep_table {fw : Framework} (lawful : fw.Lawful) (e : Engine) (rs : List Request)
    (ordinary : ∀ r ∈ rs, fw.Ordinary e r)
    (sized : ∀ n ≤ rs.length,
      ((fresh e).after fw (rs.take n)).service.registry.Every Record.Sized) :
    (start ⟨e, ∅, false⟩).1 = .ok (fresh e) ∧
      (∀ response ∈ ((fresh e).run fw (rs.map .request)).1,
        response.status ≠ 500 ∧ response.raised = none) ∧
      ∀ n ≤ rs.length, ∀ key, ((fresh e).after fw (rs.take n)).service.Mirrors key := by
  obtain ⟨fine, sound⟩ := run_requests lawful (Service.sound_start e) ordinary sized
  exact ⟨start_fresh e,
    fun response given => ⟨(fine response given).status, (fine response given).raised⟩,
    fun n small => (sound n small).mirrors⟩

/-- A package is added, and one host that it has not declared is verified. -/
def verification : List Request :=
  [⟨"PUT", "/v1/users/1/packages/p", Text.Utf8.encodeString "\x7b\"hosts\": [\"A\"]\x7d",
      some (Text.Utf8.encodeString "application/json")⟩,
    ⟨"POST", "/v1/users/1/packages/p/hosts/b/verify", [], none⟩]

theorem requests_keep_table_verification :
    let app := fresh .byCodePoint
    (app.run routing (verification.map .request)).1.map Response.status = [201, 200] ∧
      ∀ key, (app.after routing verification).service.Mirrors key := by
  intro app
  have ordinary : ∀ r ∈ verification, routing.Ordinary .byCodePoint r := by decide +kernel
  have sized : ∀ n ≤ verification.length,
      (app.after routing (verification.take n)).service.registry.Every Record.Sized := by
    decide +kernel
  have kept := (requests_keep_table routing_lawful .byCodePoint verification ordinary sized).2.2
  exact ⟨by decide +kernel, kept verification.length (Nat.le_refl _)⟩

/-- A package is added for a user beyond 32 bits. -/
def beyond : List Request :=
  [⟨"PUT", "/v1/users/2147483648/packages/p", Text.Utf8.encodeString "\x7b\"hosts\": [\"a\"]\x7d",
    some (Text.Utf8.encodeString "application/json")⟩]

/-- This request is not ordinary: the package is known afterwards, and its row is missing. -/
example : ((fresh .byCodePoint).run routing (beyond.map .request)).1.map Response.status = [500] ∧
    ((fresh .byCodePoint).after routing beyond).service.registry.rowKeys = [⟨2147483648, "p"⟩] ∧
      ((fresh .byCodePoint).after routing beyond).service.database.table.isEmpty = true := by
  decide +kernel

end Application

end Web

end LinkOwnership
