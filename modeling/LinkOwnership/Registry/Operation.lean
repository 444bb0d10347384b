/-
# LinkOwnership.Registry.Operation -- calls to the registry as data

An `Operation` is one call to the registry with its arguments, and `Operation.apply` makes
it: the answer is an `Outcome` or a rejection, beside the registry afterwards.  `Registry.run`
makes a list of calls one after the other.  A call that adds a package brings the identifier
that a new record is to have.
-/
import LinkOwnership.Registry.Basic

namespace LinkOwnership

set_option autoImplicit false

open LinkOwnership.Text (LooseString)

inductive Operation where
  | addPackage (ref : PackageRef) (identifier : Identifier)
      (hosts : Option (List (Option LooseString))) (linkHandlingAllowed : Option Bool)
  | restore (draft : Draft) (approved : Option (List (Option LooseString)))
  | setVerified (ref : PackageRef) (host : Option LooseString)
  | setSelected (ref : PackageRef) (host : Option LooseString)
  | clearSelected (ref : PackageRef) (host : Option LooseString)
  | setLinkHandlingAllowed (ref : PackageRef) (allowed : Bool)
  | removePackage (ref : PackageRef)
  | removeUser (user : Option Int)
  | userState (ref : PackageRef)
  | hostMap (ref : PackageRef)
  | approvedHosts (ref : PackageRef)
  | packageNames (user : Option Int)
  | exclusiveOwner (user : Option Int) (host : Option LooseString)
  | owners (user : Option Int) (host : Option LooseString)

inductive Outcome where
  | done
  | record (r : Record)
  | hosts (m : HostMap)
  | approved (hosts : List LooseString)
  | names (ns : List String)
  | owner (name : Option String)

namespace Operation

def apply : Operation → Registry → Except Rejection Outcome × Registry
  | .addPackage _ _ none _, reg => (.error .notIterable, reg)
  | .addPackage ref identifier (some hosts) allowed, reg =>
      let (answer, reg) :=
        reg.addPackage (.fresh identifier ref.package ref.user hosts allowed)
      (answer.map .record, reg)
  | .restore draft approved, reg => done (reg.restore draft approved)
  | .setVerified ref host, reg => done (reg.setVerified ref host)
  | .setSelected ref host, reg => done (reg.setSelected ref host)
  | .clearSelected ref host, reg => done (reg.clearSelected ref host)
  | .setLinkHandlingAllowed ref allowed, reg => done (reg.setLinkHandlingAllowed ref allowed)
  | .removePackage ref, reg => done (reg.removePackage ref)
  | .removeUser user, reg => (.ok .done, reg.removeUser user)
  | .userState ref, reg => ((reg.userState ref).map .record, reg)
  | .hostMap ref, reg => ((reg.hostMap ref).map .hosts, reg)
  | .approvedHosts ref, reg => ((reg.approvedHosts ref).map .approved, reg)
  | .packageNames user, reg => (.ok (.names (reg.packageNames user)), reg)
  | .exclusiveOwner user host, reg => ((reg.exclusiveOwner user host).map .owner, reg)
  | .owners user host, reg => ((reg.owners user host).map .names, reg)
where
  /-- An answer that says no more than that the call was made. -/
  done (answer : Except Rejection Unit × Registry) : Except Rejection Outcome × Registry :=
    (answer.1.map fun _ => .done, answer.2)

end Operation

/-- Make calls one after the other; the answers come in the same order. -/
def Registry.run (reg : Registry) : List Operation → List (Except Rejection Outcome) × Registry
  | [] => ([], reg)
  | op :: rest =>
      let (answer, reg) := op.apply reg
      let (answers, reg) := Registry.run reg rest
      (answer :: answers, reg)

theorem Registry.length_run (reg : Registry) (ops : List Operation) :
    (reg.run ops).1.length = ops.length := by
  induction ops generalizing reg with
  | nil => rfl
  | cons op rest ih => exact congrArg Nat.succ (ih (op.apply reg).2)

/-- The calls of a second list go on from where those of the first have led. -/
theorem Registry.run_append (reg : Registry) (ops later : List Operation) :
    reg.run (ops ++ later) =
      ((reg.run ops).1 ++ ((reg.run ops).2.run later).1, ((reg.run ops).2.run later).2) := by
  induction ops generalizing reg with
  | nil => rfl
  | cons op rest ih => simp only [List.cons_append, run, ih]

/-- A call is answered where the calls before it have led. -/
theorem Registry.getElem?_run (reg : Registry) (ops : List Operation) (op : Operation)
    (later : List Operation) :
    (reg.run (ops ++ op :: later)).1[ops.length]? = some (op.apply (reg.run ops).2).1 := by
  rw [run_append, List.getElem?_append_right (Nat.le_of_eq (reg.length_run ops)), length_run, Nat.sub_self]
  rfl

end LinkOwnership
