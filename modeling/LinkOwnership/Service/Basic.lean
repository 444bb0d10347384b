/-
# LinkOwnership.Service.Basic -- the registry, kept on a table

A `Service` is a registry beside the database that it is kept in.  Every change is made in the
registry first, where the rules of ownership are checked, and only a change that was made is
written: the one row of the package that the call names.  When the writing fails, the registry
stays changed; the call can be made again once the database is back.

`Service.restoreAll` fills the registry from the rows of the table, in the order of their keys.
A row that another package's claim stands in the way of is passed over with a warning.  Calls
answer with a value or a `Service.Fault`, with log entries where there are any, and with the
service afterwards.
-/
import LinkOwnership.Registry.Basic
import LinkOwnership.Store.Table
import LinkOwnership.VerificationRequest

namespace LinkOwnership

set_option autoImplicit false

open LinkOwnership.Text (LooseString)

structure Service where
  registry : Registry
  database : Database

namespace Service

inductive Fault where
  | rejected (why : Rejection)
  | store (fault : StoreFault)
  /-- A verification request is for a missing name alone. -/
  | namelessPackage

def Fault.message : Fault → String
  | .rejected why => why.message
  | .store fault => fault.message
  | .namelessPackage => "sequence item 0: expected str instance, NoneType found"

def start (db : Database) : Service := ⟨.empty, db⟩

/-- The service after its database went out of reach or came back. -/
def setDown (sv : Service) (down : Bool) : Service :=
  { sv with database := { sv.database with down } }

/-! ## Changes -/

/-- Write the row of a package whose record has just been changed; answer the record. -/
def persist (sv : Service) (ref : PackageRef) : Except Fault Record × Service :=
  match sv.registry.userState ref, sv.registry.approvedHosts ref with
  | .ok record, .ok approved =>
      match sv.database.save record approved with
      | .ok db => (.ok record, { sv with database := db })
      | .error fault => (.error (.store fault), sv)
  | .error why, _ => (.error (.rejected why), sv)
  | _, .error why => (.error (.rejected why), sv)

/-- Go on to write the package after a change in the registry. -/
def persistAfter {α : Type} (sv : Service) (ref : PackageRef)
    (change : Except Rejection α × Registry) : Except Fault Record × Service :=
  match change with
  | (.error why, registry) => (.error (.rejected why), { sv with registry })
  | (.ok _, registry) => { sv with registry }.persist ref

/-- Add a package whose record, if it is new, is the draft's. -/
def addPackage (sv : Service) (draft : Draft) : Except Fault Record × Service :=
  sv.persistAfter ⟨draft.user, draft.packageName⟩ (sv.registry.addPackage draft)

def setVerified (sv : Service) (ref : PackageRef) (host : Option LooseString) :
    Except Fault Record × Service :=
  sv.persistAfter ref (sv.registry.setVerified ref host)

def setSelected (sv : Service) (ref : PackageRef) (host : Option LooseString) :
    Except Fault Record × Service :=
  sv.persistAfter ref (sv.registry.setSelected ref host)

def clearSelected (sv : Service) (ref : PackageRef) (host : Option LooseString) :
    Except Fault Record × Service :=
  sv.persistAfter ref (sv.registry.clearSelected ref host)

def setLinkHandlingAllowed (sv : Service) (ref : PackageRef) (allowed : Bool) :
    Except Fault Record × Service :=
  sv.persistAfter ref (sv.registry.setLinkHandlingAllowed ref allowed)

/-- Take over what the database has become, or say why it could not be written. -/
def written (sv : Service) : Except StoreFault Database → Except Fault Unit × Service
  | .ok db => (.ok (), { sv with database := db })
  | .error fault => (.error (.store fault), sv)

def removePackage (sv : Service) (ref : PackageRef) : Except Fault Unit × Service :=
  match sv.registry.removePackage ref with
  | (.error why, registry) => (.error (.rejected why), { sv with registry })
  | (.ok _, registry) =>
      let sv := { sv with registry }
      match ref.user, ref.package with
      | some user, some package => sv.written (sv.database.delete user package)
      | _, _ => sv.written (sv.database.connect.map fun _ => sv.database)

def removeUser (sv : Service) (user : Option Int) : Except Fault Unit × Service :=
  let sv := { sv with registry := sv.registry.removeUser user }
  match user with
  | some u => sv.written (sv.database.deleteUser u)
  | none => sv.written (sv.database.connect.map fun _ => sv.database)

/-! ## Reading -/

def userState (sv : Service) (ref : PackageRef) : Except Fault Record :=
  (sv.registry.userState ref).mapError .rejected

def owners (sv : Service) (user : Option Int) (host : Option LooseString) :
    Except Fault (List String) :=
  (sv.registry.owners user host).mapError .rejected

/-- Send a verification request: the agent's log entry and the names in it. -/
def requestVerification (names : Option (List (Option LooseString))) :
    Except Fault (List LooseString) × List LogEntry :=
  match VerificationRequest.ofNames? names with
  | .error why => (.error (.rejected why), [])
  | .ok request =>
      match request.sorted.map fun names => names.mapM id with
      | .error why => (.error (.rejected why), [])
      | .ok none => (.error .namelessPackage, [])
      | .ok (some named) =>
          let listed := LooseString.intercalate ", " named
          (.ok named, [.info ("[VERIFICATION REQUEST] Packages: " ++ listed)])

/-! ## Restoring -/

/-- The warning about a row that another package's claim stands in the way of. -/
def conflictWarning (record : Record) (why : Rejection) : LogEntry :=
  .warning ("Skipping persisted state for " ++ record.packageName ++ " in user "
    ++ toString record.user ++ ": " ++ why.message)

/-- Take rows over into the registry.  `restored` of them have been taken over before. -/
def restoreEach (restored : Nat) (registry : Registry) :
    List (Except LogEntry Stored) → Except Rejection Nat × List LogEntry × Registry
  | [] => (.ok restored, [], registry)
  | .error skipped :: rest =>
      let (answer, logs, registry) := restoreEach restored registry rest
      (answer, skipped :: logs, registry)
  | .ok stored :: rest =>
      match registry.restore stored.record.toDraft stored.approved with
      | (.ok (), registry) => restoreEach (restored + 1) registry rest
      | (.error why, registry) =>
          match why with
          | .hostOwned .. =>
              let (answer, logs, registry) := restoreEach restored registry rest
              (answer, conflictWarning stored.record why :: logs, registry)
          | _ => (.error why, [], registry)

/-- Take every row of the table over into the registry; answer how many there were. -/
def restoreAll (sv : Service) : Except Fault Nat × List LogEntry × Service :=
  match sv.database.connect with
  | .error fault => (.error (.store fault), [], sv)
  | .ok table =>
      match restoreEach 0 sv.registry (table.load sv.database.engine) with
      | (.ok n, logs, registry) =>
          (.ok n, logs ++ [.info ("Restored " ++ toString n ++ " package state(s)")],
            { sv with registry })
      | (.error why, logs, registry) => (.error (.rejected why), logs, { sv with registry })

def restart (sv : Service) : Except Fault Nat × List LogEntry × Service :=
  (start sv.database).restoreAll

/-- The rows of the database, each as its record and its approved hosts in order. -/
def loadAll (sv : Service) :
    Except Fault (List (Record × List (Option LooseString))) × List LogEntry :=
  match sv.database.connect with
  | .error fault => (.error (.store fault), [])
  | .ok table =>
      let rows := table.load sv.database.engine
      let records := rows.filterMap fun
        | .ok stored => some (stored.record, (Std.ExtTreeSet.ofList stored.approved).toList)
        | .error _ => none
      let warnings := rows.filterMap fun
        | .ok _ => none
        | .error warning => some warning
      (.ok records, warnings)

end Service

end LinkOwnership
