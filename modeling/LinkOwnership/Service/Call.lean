/-
# LinkOwnership.Service.Call -- changes to a service as data

A `Service.Call` is one change that is asked of a service, with its arguments, and
`Service.Call.apply` makes it.  A `Service.Event` is a call, or the database going out of reach
or coming back.  `Service.run` takes events one after the other and answers the calls among
them, so the life of a service is a list of events.
-/
import LinkOwnership.Service.Basic

namespace LinkOwnership.Service

set_option autoImplicit false

open LinkOwnership.Text (LooseString)

/-- One change that is asked of a service.  A call that adds a package brings the identifier
that a new record is to have. -/
inductive Call where
  | addPackage (ref : PackageRef) (identifier : Identifier) (hosts : List (Option LooseString))
  | setVerified (ref : PackageRef) (host : Option LooseString)
  | setSelected (ref : PackageRef) (host : Option LooseString)
  | clearSelected (ref : PackageRef) (host : Option LooseString)
  | setLinkHandlingAllowed (ref : PackageRef) (allowed : Bool)
  | removePackage (ref : PackageRef)
  | removeUser (user : Option Int)

inductive Answer where
  | record (r : Record)
  | done

namespace Call

def apply : Call → Service → Except Fault Answer × Service
  | .addPackage ref identifier hosts, sv =>
      withRecord (sv.addPackage (.fresh identifier ref.package ref.user hosts (some true)))
  | .setVerified ref host, sv => withRecord (sv.setVerified ref host)
  | .setSelected ref host, sv => withRecord (sv.setSelected ref host)
  | .clearSelected ref host, sv => withRecord (sv.clearSelected ref host)
  | .setLinkHandlingAllowed ref allowed, sv => withRecord (sv.setLinkHandlingAllowed ref allowed)
  | .removePackage ref, sv => plain (sv.removePackage ref)
  | .removeUser user, sv => plain (sv.removeUser user)
where
  /-- An answer that shows the record of the package. -/
  withRecord (answer : Except Fault Record × Service) : Except Fault Answer × Service :=
    (answer.1.map .record, answer.2)
  /-- An answer that says no more than that the change was made. -/
  plain (answer : Except Fault Unit × Service) : Except Fault Answer × Service :=
    (answer.1.map fun _ => .done, answer.2)

end Call

inductive Event where
  | call (c : Call)
  | outage (down : Bool)

/-- Take events one after the other; the answers to the calls come in the same order. -/
def run (sv : Service) : List Event → List (Except Fault Answer) × Service
  | [] => ([], sv)
  | .outage down :: rest => run (sv.setDown down) rest
  | .call c :: rest =>
      let (answer, sv) := c.apply sv
      let (answers, sv) := run sv rest
      (answer :: answers, sv)

end LinkOwnership.Service
