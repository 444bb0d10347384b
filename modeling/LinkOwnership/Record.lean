/-
# LinkOwnership.Record -- one package of one user

A `Record` holds what is known of a package for a user: its identifier, whether it may open
links at all, and the state of each of its hosts in the order in which they were declared.
Hosts are kept in normal form, with the lone halves of surrogate pairs that they have.

Records are built from a `Draft`, in which any part may be missing and hosts and codes are
raw.  `Draft.build` checks the parts in a fixed order, then normalizes every host and reads
its code; spellings of one host fall together, at the place of the first and with the state
of the last.
-/
import LinkOwnership.Host
import LinkOwnership.Identifier
import LinkOwnership.LinkState
import LinkOwnership.OrderedMap

namespace LinkOwnership

set_option autoImplicit false

open LinkOwnership.Text (LooseString)

/-- The states of hosts, in order of declaration. -/
abbrev HostMap := OrderedMap LooseString LinkState

/-- What is known of one package for one user. -/
structure Record where
  identifier : Identifier
  packageName : String
  user : Int
  linkHandlingAllowed : Bool
  hosts : HostMap
  deriving DecidableEq

/-- The parts of a record before they are checked. -/
structure Draft where
  identifier : Option Identifier
  packageName : Option String
  user : Option Int
  linkHandlingAllowed : Option Bool
  hosts : Option (OrderedMap Host.Key Json.Value)

namespace Draft

/-- Read one declared host and its code into the map. -/
def addHost (hosts : HostMap) (entry : Host.Key × Json.Value) : Except Rejection HostMap := do
  let host ← entry.1.normalize?
  let state ← LinkState.ofValue entry.2
  return hosts.insert host state

def build (d : Draft) : Except Rejection Record := do
  let identifier ← required .identifier d.identifier
  let packageName ← required .packageName d.packageName
  let user ← required .user d.user
  let linkHandlingAllowed ← required .linkHandlingAllowed d.linkHandlingAllowed
  let raw ← required .hostToState d.hosts
  let hosts ← raw.entries.foldlM addHost OrderedMap.empty
  return { identifier, packageName, user, linkHandlingAllowed, hosts }

/-- The parts of a package's first record, in which no host is claimed. -/
def fresh (identifier : Identifier) (packageName : Option String) (user : Option Int)
    (hosts : List (Option LooseString)) (linkHandlingAllowed : Option Bool) : Draft where
  identifier := some identifier
  packageName := packageName
  user := user
  linkHandlingAllowed := linkHandlingAllowed
  hosts := some (OrderedMap.ofList (hosts.map fun h => (.given h, .int LinkState.unclaimed.code)))

/-- Give a host a code, unchecked. -/
def assign (d : Draft) (host : Host.Key) (code : Json.Value) : Draft :=
  { d with hosts := d.hosts.map (·.insert host code) }

/-- The record made up anew from the parts of one.  Its map is copied before any part is checked. -/
def copy (d : Draft) : Except Rejection Record :=
  match d.hosts with
  | none => .error .notIterable
  | some _ => d.build

end Draft

namespace Record

def toDraft (r : Record) : Draft where
  identifier := some r.identifier
  packageName := some r.packageName
  user := some r.user
  linkHandlingAllowed := some r.linkHandlingAllowed
  hosts := some (OrderedMap.ofList
    (r.hosts.entries.map fun entry => (.given (some entry.1), .int entry.2.code)))

/-- The record made up anew from its parts, all its hosts and codes among them. -/
def copy (r : Record) : Except Rejection Record := r.toDraft.copy

/-- The state of a host; of a host that is not declared nothing is claimed. -/
def stateFor (r : Record) (host : LooseString) : LinkState :=
  (r.hosts.get? host).getD .unclaimed

def hostsIn (r : Record) (state : LinkState) : List LooseString :=
  (r.hosts.entries.filter fun entry => entry.2 = state).map Prod.fst

def setState (r : Record) (host : LooseString) (state : LinkState) : Record :=
  { r with hosts := r.hosts.insert host state }

/-- Whether two records agree, the order of their hosts apart. -/
def same (r₁ r₂ : Record) : Bool :=
  r₁.identifier = r₂.identifier && r₁.packageName = r₂.packageName && r₁.user = r₂.user
    && r₁.linkHandlingAllowed = r₂.linkHandlingAllowed && r₁.hosts.same r₂.hosts

/-- The record in one line, if its user can be written. -/
def description (r : Record) : Except Rejection String := do
  let hosts := r.hosts.entries.map fun entry =>
    Text.quoteLoose entry.1 ++ ": " ++ entry.2.description
  if Text.Integer.fits r.user then
    return "PackageUserState(identifier=UUID('" ++ r.identifier.text ++ "'), package_name="
      ++ Text.quoteString r.packageName ++ ", user=" ++ toString r.user
      ++ ", link_handling_allowed=" ++ (if r.linkHandlingAllowed then "True" else "False")
      ++ ", host_to_state=\x7b" ++ ", ".intercalate hosts ++ "\x7d)"
  else throw .longNumeral

end Record

/-- Whether the parts say what the record says; codes count by their number. -/
def Draft.describes (d : Draft) (r : Record) : Bool :=
  d.identifier = some r.identifier && d.packageName = some r.packageName
    && d.user = some r.user && d.linkHandlingAllowed = some r.linkHandlingAllowed
    && match d.hosts with
      | none => false
      | some raw =>
          raw.size = r.hosts.size && raw.entries.all fun entry =>
            match entry.1.host?.bind r.hosts.get? with
            | some state => entry.2.integer? = some state.code
            | none => false

end LinkOwnership
