/-
# LinkOwnership.Registry.Scope -- the packages of one user and who holds which host

A `Scope` is everything the registry keeps for one user: the records of the packages by
name, and two indexes by host.

* `exclusive` names the one package that is `selected` for the host;
* `approved` names the `verified` packages that the user selected as well.

The rules of ownership are here, on one scope.  `Scope.verify` never takes a host from
another package: the holder of the exclusive slot moves to the approved ones when it is
verified itself.  `Scope.select` gives a package the slot when nobody else holds or shares the
host, and lets a verified package join the approved ones unless somebody holds the slot.
`Scope.clear` and `Scope.release` give a claim back, and `Scope.conflict?` says which claim
stands in the way of a restored record.

Maps and sets are ordered, and equal exactly when they find the same.
-/
import LinkOwnership.Record
import Std.Data.ExtTreeMap
import Std.Data.ExtTreeSet

namespace LinkOwnership

set_option autoImplicit false

open LinkOwnership.Text (LooseString)

abbrev NameSet := Std.ExtTreeSet String

/-- The packages of one user, with the indexes of the hosts they hold. -/
structure Scope where
  packages : Std.ExtTreeMap String Record
  exclusive : Std.ExtTreeMap LooseString String
  approved : Std.ExtTreeMap LooseString NameSet

namespace Scope

def empty : Scope := ⟨∅, ∅, ∅⟩

def approvedFor (s : Scope) (host : LooseString) : NameSet := s.approved.getD host ∅

def putRecord (s : Scope) (package : String) (r : Record) : Scope :=
  { s with packages := s.packages.insert package r }

def approve (s : Scope) (package : String) (host : LooseString) : Scope :=
  { s with approved := s.approved.insert host ((s.approvedFor host).insert package) }

/-- Take the exclusive slot of a host back from a package, if it is the holder. -/
def releaseSlot (s : Scope) (package : String) (host : LooseString) : Scope :=
  if s.exclusive[host]? = some package then { s with exclusive := s.exclusive.erase host } else s

/-- Take the approval for a host back from a package; no host keeps an empty set. -/
def revoke (s : Scope) (package : String) (host : LooseString) : Scope :=
  match s.approved[host]? with
  | none => s
  | some members =>
      let left := members.erase package
      if left.isEmpty then { s with approved := s.approved.erase host }
      else { s with approved := s.approved.insert host left }

/-- Take every claim to the hosts back from a package. -/
def release (package : String) (hosts : List LooseString) (s : Scope) : Scope :=
  hosts.foldl (fun s host => (s.releaseSlot package host).revoke package host) s

/-- Mark a host as verified for a package whose record is `r`. -/
def verify (s : Scope) (package : String) (r : Record) (host : LooseString) :
    Except Rejection Scope :=
  match r.stateFor host with
  | .verified => .ok s
  | .selected =>
      if host ∈ s.exclusive then
        let freed := { s with exclusive := s.exclusive.erase host }
        .ok ((freed.approve package host).putRecord package (r.setState host .verified))
      else .error (.slotNotHeld host)
  | .unclaimed => .ok (s.putRecord package (r.setState host .verified))

/-- Give the user's selection of a host to a package whose record is `r`. -/
def select (s : Scope) (user : Int) (package : String) (r : Record) (host : LooseString) :
    Except Rejection Scope :=
  match r.hosts.get? host with
  | none => .error (Rejection.undeclaredHost user package host).raised
  | some current =>
      let sharers := s.approvedFor host
      if current = .selected ∨ package ∈ sharers then .ok s
      else match s.exclusive[host]? with
        | some holder => .error (.hostOwned host holder)
        | none =>
            if current = .verified then .ok (s.approve package host)
            else match sharers.min? with
              | some least => .error (.hostOwned host least)
              | none =>
                  let taken := { s with exclusive := s.exclusive.insert host package }
                  .ok (taken.putRecord package (r.setState host .selected))

/-- Take the user's selection of a host back from a package whose record is `r`. -/
def clear (s : Scope) (package : String) (r : Record) (host : LooseString) : Scope :=
  let dropped :=
    if r.stateFor host = .selected then s.putRecord package (r.setState host .unclaimed) else s
  dropped.release package [host]

/-- The holder of the exclusive slot of a host, if it is another package. -/
def rivalHolder? (s : Scope) (package : String) (host : LooseString) : Option String :=
  s.exclusive[host]?.filter (· ≠ package)

/-- Who stands in the way of a package that claims a host as selected: the holder of the slot,
or else the least of the approved ones when they are others than the package alone. -/
def rivalOfSelected? (s : Scope) (package : String) (host : LooseString) : Option String :=
  match s.rivalHolder? package host with
  | some holder => some holder
  | none =>
      let sharers := s.approvedFor host
      if sharers.toList = [package] then none else sharers.min?

/-- The first claim of a record, selected hosts before approved ones, that another package
stands in the way of. -/
def conflict? (s : Scope) (r : Record) (approvals : List LooseString) : Option Rejection :=
  let ofSelected := (r.hostsIn .selected).findSome? fun host =>
    (s.rivalOfSelected? r.packageName host).map (Rejection.hostOwned host)
  let ofApproved := approvals.findSome? fun host =>
    (s.rivalHolder? r.packageName host).map (Rejection.hostOwned host)
  ofSelected <|> ofApproved

/-- Take over a record with its claims, in place of the package's former ones. -/
def install (s : Scope) (r : Record) (approvals : List LooseString) : Scope :=
  let package := r.packageName
  let released := match s.packages[package]? with
    | some former => s.release package former.hosts.keys
    | none => s
  let stored := released.putRecord package r
  let holding := (r.hostsIn .selected).foldl
    (fun s host => { s with exclusive := s.exclusive.insert host package }) stored
  approvals.foldl (fun s host => s.approve package host) holding

/-- Remove a package and every claim it has to the hosts of its record `r`. -/
def remove (s : Scope) (package : String) (r : Record) : Scope :=
  let released := s.release package r.hosts.keys
  { released with packages := released.packages.erase package }

def approvedHosts (s : Scope) (package : String) : List LooseString :=
  (s.approved.toList.filter fun entry => package ∈ entry.2).map Prod.fst

/-- The packages that would open links to a host. -/
def owners (s : Scope) (host : LooseString) : List String :=
  (s.packages.toList.filter fun entry =>
    entry.2.linkHandlingAllowed && entry.2.stateFor host ≠ .unclaimed).map Prod.fst

end Scope

end LinkOwnership
