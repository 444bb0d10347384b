/-
# LinkOwnership.Service.Stripe -- which lock guards the writes for a user

Writes for one user must not overtake each other.  A fixed number of locks is shared by all
users: a user's number is reduced modulo the prime 2^61 - 1, keeping its sign, and then modulo
the number of locks.  The one value that is not used is -1; its place is taken by -2.
-/

namespace LinkOwnership.Stripe

set_option autoImplicit false

/-- The prime that numbers are reduced by, 2^61 - 1. -/
def modulus : Nat := 0x1FFFFFFFFFFFFFFF

/-- The number that is kept of a user. -/
def reduce (user : Int) : Int :=
  let n := user.sign * (user.natAbs % modulus : Nat)
  if n = -1 then -2 else n

def defaultCount : Int := 64

/-- The lock of a user among `count`; there is none when there are no locks. -/
def ofUser? (count : Int) (user : Int) : Option Int :=
  if 0 < count then some (reduce user % count) else none

theorem ofUser?_lt {count user i : Int} (h : ofUser? count user = some i) :
    0 ≤ i ∧ i < count := by
  unfold ofUser? at h
  split at h
  · rename_i positive
    cases h
    exact ⟨Int.emod_nonneg _ (by omega), Int.emod_lt_of_pos _ positive⟩
  · cases h

end LinkOwnership.Stripe
