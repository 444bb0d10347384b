/-
# LinkOwnership.Registry.Basic -- who may open links, for every user

A `Registry` has a scope for every user that ever had a package, until the user is removed.
Its operations come in two kinds.  The changing ones are functions to a result and the
registry afterwards, also when they are turned down, so nothing about a failed call is left
to assumption.  The reading ones give a value or a rejection.

Users, packages and hosts may be missing from a call; a `PackageRef` is how a call names a
package.  A host is asked for first and normalized; only then is the package looked up.
Adding a package and restoring a record are what makes a scope for a user.
-/
import LinkOwnership.Registry.Scope

namespace LinkOwnership

set_option autoImplicit false

open LinkOwnership.Text (LooseString)

structure Registry where
  scopes : Std.ExtTreeMap Int Scope

structure PackageRef where
  user : Option Int
  package : Option String
  deriving DecidableEq, Repr

/-- What a call is turned down for when there is no such package. -/
def PackageRef.unknown (ref : PackageRef) : Rejection :=
  (Rejection.unknownPackage ref.user ref.package).raised

/-- Where a call has found a package: its user, its name, the user's scope, and its record. -/
structure Site where
  user : Int
  package : String
  scope : Scope
  record : Record

namespace Registry

def empty : Registry := ⟨∅⟩

def scope? (reg : Registry) (user : Option Int) : Option Scope :=
  user.bind fun u => reg.scopes[u]?

def putScope (reg : Registry) (user : Int) (s : Scope) : Registry :=
  ⟨reg.scopes.insert user s⟩

/-- The scope of a user, made if there is none. -/
def scopeOrEmpty (reg : Registry) (user : Int) : Scope := reg.scopes.getD user .empty

def locate (reg : Registry) (ref : PackageRef) : Except Rejection Site :=
  match ref.user, ref.package with
  | some user, some package =>
      match reg.scopes[user]? with
      | none => .error ref.unknown
      | some scope =>
          match scope.packages[package]? with
          | none => .error ref.unknown
          | some record => .ok { user, package, scope, record }
  | _, _ => .error ref.unknown

/-- The outcome of a change whose checks all come before its first effect. -/
def commit (reg : Registry) : Except Rejection Registry → Except Rejection Unit × Registry
  | .ok changed => (.ok (), changed)
  | .error why => (.error why, reg)

/-! ## Changes -/

/-- Create the record of a package.  A package that is present keeps its record.  The answer
is the record that the package has. -/
def addPackage (reg : Registry) (draft : Draft) : Except Rejection Record × Registry :=
  match draft.build with
  | .error why => (.error why, reg)
  | .ok record =>
      let scope := reg.scopeOrEmpty record.user
      match scope.packages[record.packageName]? with
      | some present => (.ok present, reg.putScope record.user scope)
      | none =>
          (.ok record, reg.putScope record.user (scope.putRecord record.packageName record))

/-- The normal forms of the listed hosts that the record holds as verified, in order. -/
def approvalsOf (record : Record) (hosts : List LooseString) : List LooseString :=
  (Std.ExtTreeSet.ofList hosts).toList.filter fun host => record.stateFor host = .verified

/-- The normal forms of the hosts that a call lists, which must be a list. -/
def normalizeAll? : Option (List (Option LooseString)) → Except Rejection (List LooseString)
  | none => .error .notIterable
  | some hosts => hosts.mapM Host.normalize?

/-- Take over a copy of a record that was stored earlier, with the hosts it was approved for.  The
user's scope is made before the record is held against the other packages. -/
def restore (reg : Registry) (draft : Draft) (approved : Option (List (Option LooseString))) :
    Except Rejection Unit × Registry :=
  match draft.copy, normalizeAll? approved with
  | .error why, _ => (.error why, reg)
  | .ok _, .error why => (.error why, reg)
  | .ok record, .ok hosts =>
      let approvals := approvalsOf record hosts
      let scope := reg.scopeOrEmpty record.user
      match scope.conflict? record approvals with
      | some why => (.error why, reg.putScope record.user scope)
      | none => (.ok (), reg.putScope record.user (scope.install record approvals))

def setVerified (reg : Registry) (ref : PackageRef) (host : Option LooseString) :
    Except Rejection Unit × Registry :=
  reg.commit do
    let host ← Host.normalize? host
    let site ← reg.locate ref
    let scope ← site.scope.verify site.package site.record host
    return reg.putScope site.user scope

def setSelected (reg : Registry) (ref : PackageRef) (host : Option LooseString) :
    Except Rejection Unit × Registry :=
  reg.commit do
    let host ← Host.normalize? host
    let site ← reg.locate ref
    let scope ← site.scope.select site.user site.package site.record host
    return reg.putScope site.user scope

def clearSelected (reg : Registry) (ref : PackageRef) (host : Option LooseString) :
    Except Rejection Unit × Registry :=
  reg.commit do
    let host ← Host.normalize? host
    let site ← reg.locate ref
    return reg.putScope site.user (site.scope.clear site.package site.record host)

/-- Say whether a package may open links at all.  The states of its hosts are kept. -/
def setLinkHandlingAllowed (reg : Registry) (ref : PackageRef) (allowed : Bool) :
    Except Rejection Unit × Registry :=
  reg.commit do
    let site ← reg.locate ref
    let record := { site.record with linkHandlingAllowed := allowed }
    return reg.putScope site.user (site.scope.putRecord site.package record)

def removePackage (reg : Registry) (ref : PackageRef) : Except Rejection Unit × Registry :=
  reg.commit do
    let site ← reg.locate ref
    return reg.putScope site.user (site.scope.remove site.package site.record)

def removeUser (reg : Registry) (user : Option Int) : Registry :=
  match user with
  | some u => ⟨reg.scopes.erase u⟩
  | none => reg

/-! ## Reading -/

def userState (reg : Registry) (ref : PackageRef) : Except Rejection Record :=
  (reg.locate ref).map Site.record

def hostMap (reg : Registry) (ref : PackageRef) : Except Rejection HostMap :=
  (reg.locate ref).map (·.record.hosts)

def approvedHosts (reg : Registry) (ref : PackageRef) : Except Rejection (List LooseString) :=
  (reg.locate ref).map fun site => site.scope.approvedHosts site.package

def packageNames (reg : Registry) (user : Option Int) : List String :=
  match reg.scope? user with
  | some scope => scope.packages.keys
  | none => []

def exclusiveOwner (reg : Registry) (user : Option Int) (host : Option LooseString) :
    Except Rejection (Option String) := do
  let host ← Host.normalize? host
  return (reg.scope? user).bind fun scope => scope.exclusive[host]?

def owners (reg : Registry) (user : Option Int) (host : Option LooseString) :
    Except Rejection (List String) := do
  let host ← Host.normalize? host
  return match reg.scope? user with
    | some scope => scope.owners host
    | none => []

end Registry

end LinkOwnership
