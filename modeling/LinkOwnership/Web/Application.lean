/-
# LinkOwnership.Web.Application -- the service behind its requests

An `Application` is a running service with its source of identifiers.  `Application.start`
brings the table into shape and restores the registry; `Application.perform` does what one of its
functions is called for.  `Application.handle` leaves a request to a framework, and does what comes
of it; `Application.run` takes requests and outages of the database as they come.

What the service turns down has an answer of its own: an unknown package, a host that somebody else
owns, a host that the package does not declare.  Any other failure leaves the application.

The hosts of a record are names in its answer and are shown whatever lone halves of surrogate
pairs they hold.  An answer that lists names must have a form in UTF-8 for each of them.
-/
import LinkOwnership.Store.Migration
import LinkOwnership.Web.Framework

namespace LinkOwnership.Web

set_option autoImplicit false

open LinkOwnership.Text (LooseString)

/-- A record as a JSON object.  Hosts that are shown alike fall together. -/
def recordJson (r : Record) : Json.Value :=
  let shown (entry : LooseString × LinkState) : LooseString × Json.Value :=
    (entry.1.shown, .str entry.2.label)
  .obj [
    ("identifier", .str r.identifier.text),
    ("package_name", .str r.packageName),
    ("user", .int r.user),
    ("link_handling_allowed", .bool r.linkHandlingAllowed),
    ("host_to_state", .obj (OrderedMap.ofList (r.hosts.entries.map shown)).entries)]

/-- The answer to a failure of the service. -/
def refusal : Service.Fault → Response
  | .rejected (.unknownPackage ..) => .detail 404 "Package state not found"
  | .rejected (.hostOwned _ owner) => .detail 409 ("Host already owned by " ++ owner)
  | .rejected (.undeclaredHost ..) => .detail 422 "Host not declared by package"
  | fault => .internalError (.service fault)

def recordResponse (status : Nat) : Except Service.Fault Record → Response
  | .ok r => .json status (recordJson r)
  | .error fault => refusal fault

structure Application where
  service : Service
  issuer : Issuer

inductive StartFault where
  | migration (name : String)
  | restoring (fault : Service.Fault)

def StartFault.message : StartFault → String
  | .migration name => Migration.failureMessage name
  | .restoring fault => fault.message

namespace Application

def start (db : Database) : Except StartFault Application × List LogEntry :=
  let opening : List LogEntry := [.info "Starting application...",
    .info "Connecting to database...", .info "Running database migrations..."]
  let report := Migration.run ⟨db.down, none⟩ (some Migration.builtIn)
  match report.failed with
  | some name => (.error (.migration name), opening ++ report.logs)
  | none =>
      match (Service.start db).restoreAll with
      | (.error fault, logs, _) => (.error (.restoring fault), opening ++ report.logs ++ logs)
      | (.ok _, logs, service) =>
          (.ok ⟨service, .initial⟩,
            opening ++ report.logs ++ logs ++ [.info "Application startup complete"])

def shutdownLogs : List LogEntry :=
  [.info "Shutting down application...", .info "Database connection pool closed"]

def answer (app : Application) (response : Response) (service : Service) :
    Response × Application :=
  (response, { app with service })

def change (app : Application) (call : Except Service.Fault Record × Service) :
    Response × Application :=
  app.answer (recordResponse 200 call.1) call.2

/-- Add a package with the hosts that a body names. -/
def addPackage (app : Application) (user : Int) (package : String) (hosts : List LooseString) :
    Response × Application :=
  let (identifier, issuer) := app.issuer.issue
  let draft := Draft.fresh identifier (some package) (some user) (hosts.map some) (some true)
  let (added, service) := app.service.addPackage draft
  (recordResponse 201 added, ⟨service, issuer⟩)

/-- Send a verification request for the packages that a body names. -/
def requestVerification (names : List LooseString) : Response :=
  let (requested, logs) := Service.requestVerification (some (names.map some))
  let response : Response :=
    match requested with
    | .error fault => refusal fault
    | .ok named =>
        match named.mapM LooseString.string with
        | .error halves => .internalError (.unwritableName halves)
        | .ok written => .json 202 (.obj [("message", .str "Verification requested"),
            ("package_names", .arr (written.map fun (name : String) => .str name))])
  { response with logs := logs }

/-- Remove a package; the answer has nothing to show. -/
def removePackage (app : Application) (user : Int) (package : String) : Response × Application :=
  match app.service.removePackage ⟨some user, some package⟩ with
  | (.ok (), service) => app.answer (.empty 204) service
  | (.error fault, service) => app.answer (refusal fault) service

/-- The packages that open links to a host, under the host's normal form. -/
def owners (app : Application) (user : Int) (host : String) : Response :=
  match app.service.owners (some user) (some host) with
  | .error fault => refusal fault
  | .ok owners =>
      .json 200 (.obj [("host", .str (Host.normalize host).shown),
        ("owners", .arr (owners.map fun (owner : String) => .str owner))])

def health (app : Application) : Response :=
  match app.service.database.connect with
  | .ok _ => .json 200 (.obj [("status", .str "healthy")])
  | .error fault => .internalError (.service (.store fault))

def perform (app : Application) : Invocation → Response × Application
  | .addPackage user package hosts => app.addPackage user package hosts
  | .showPackage user package =>
      (recordResponse 200 (app.service.userState ⟨some user, some package⟩), app)
  | .removePackage user package => app.removePackage user package
  | .verifyHost user package host =>
      app.change (app.service.setVerified ⟨some user, some package⟩ (some host))
  | .selectHost user package host =>
      app.change (app.service.setSelected ⟨some user, some package⟩ (some host))
  | .unselectHost user package host =>
      app.change (app.service.clearSelected ⟨some user, some package⟩ (some host))
  | .setLinkHandling user package allowed =>
      app.change (app.service.setLinkHandlingAllowed ⟨some user, some package⟩ allowed)
  | .showOwners user host => (app.owners user host, app)
  | .requestVerification names => (requestVerification names, app)
  | .health => (app.health, app)

def handle (fw : Framework) (app : Application) (r : Request) : Response × Application :=
  match fw.receive r with
  | .call c => app.perform c
  | .answer response => (response, app)

end Application

inductive Event where
  | request (r : Request)
  /-- The database goes out of reach or comes back. -/
  | outage (down : Bool)

/-- Take events one after the other; the answers to the requests come in the same order. -/
def Application.run (fw : Framework) (app : Application) : List Event → List Response × Application
  | [] => ([], app)
  | .outage down :: rest =>
      Application.run fw { app with service := app.service.setDown down } rest
  | .request r :: rest =>
      let (response, app) := app.handle fw r
      let (responses, app) := Application.run fw app rest
      (response :: responses, app)

end LinkOwnership.Web
