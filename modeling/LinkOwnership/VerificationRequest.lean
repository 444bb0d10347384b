/-
# LinkOwnership.VerificationRequest -- packages whose hosts are to be checked again

A `VerificationRequest` is a set of package names, sent to the verification agent.  The set
is ordered by code point, and two requests are equal exactly when they name the same packages.  A
missing name may be in the set, but only by itself can it be put in order (`sorted`).  Clients send
the names, so these may hold lone halves of surrogate pairs.
-/
import LinkOwnership.Rejection
import Std.Data.ExtTreeSet

namespace LinkOwnership

set_option autoImplicit false

open LinkOwnership.Text (LooseString)

structure VerificationRequest where
  packageNames : Std.ExtTreeSet (Option LooseString)

namespace VerificationRequest

/-- A request for the named packages, however often and in whatever order they are named. -/
def ofList (names : List (Option LooseString)) : VerificationRequest := ⟨.ofList names⟩

def ofNames? : Option (List (Option LooseString)) → Except Rejection VerificationRequest
  | some names => .ok (ofList names)
  | none => .error .missingPackageNames

/-- The names in order, a missing one before all others. -/
def names (r : VerificationRequest) : List (Option LooseString) := r.packageNames.toList

/-- The names in order, if each can be compared with the others. -/
def sorted (r : VerificationRequest) : Except Rejection (List (Option LooseString)) :=
  match r.names with
  | none :: _ :: _ => .error .incomparable
  | names => .ok names

instance : DecidableEq VerificationRequest := fun a b =>
  decidable_of_iff (a.names = b.names) <| by
    constructor
    · intro h
      obtain ⟨s⟩ := a; obtain ⟨t⟩ := b
      have same : s = t := by
        apply Std.ExtTreeSet.ext_mem
        intro name
        rw [← Std.ExtTreeSet.mem_toList, ← Std.ExtTreeSet.mem_toList]
        simp only [names] at h
        rw [h]
      rw [same]
    · rintro rfl; rfl

end VerificationRequest

end LinkOwnership
