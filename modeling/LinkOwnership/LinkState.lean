/-
# LinkOwnership.LinkState -- what a package holds of a host

For one user, a package has each of its hosts in one of three states: it makes no claim, the
user selected it, or the verification agent vouched for it.  Records store the states as the
codes 0, 1 and 2.  `LinkState.ofValue` reads a code strictly: only an integer is one, so
neither a truth value nor a fraction passes.  `diagnostic` puts a code into words, an unknown
one as a hexadecimal number.  It asks `ofValue` first, and has no answer where the rejection of
an unknown code cannot be put into words itself.
-/
import LinkOwnership.Rejection

namespace LinkOwnership

set_option autoImplicit false

/-- What a package holds of a host. -/
inductive LinkState where
  /-- No claim on the host. -/
  | unclaimed
  /-- Chosen by the user; one package at most. -/
  | selected
  /-- Vouched for by the verification agent; any number of packages. -/
  | verified
  deriving DecidableEq, Repr

namespace LinkState

def all : List LinkState := [.unclaimed, .selected, .verified]

def code : LinkState → Int
  | .unclaimed => 0
  | .selected => 1
  | .verified => 2

def ofCode? : Int → Option LinkState
  | 0 => some .unclaimed
  | 1 => some .selected
  | 2 => some .verified
  | _ => none

def label : LinkState → String
  | .unclaimed => "NONE"
  | .selected => "SELECTED"
  | .verified => "VERIFIED"

theorem ofCode?_code (s : LinkState) : ofCode? s.code = some s := by cases s <;> rfl

theorem ofCode?_eq_some_iff (n : Int) (s : LinkState) : ofCode? n = some s ↔ n = s.code := by
  constructor
  · intro h
    unfold ofCode? at h
    split at h <;> simp only [Option.some.injEq, reduceCtorEq] at h <;> subst h <;> rfl
  · rintro rfl; exact ofCode?_code s

theorem ofCode?_eq_none_iff (n : Int) : ofCode? n = none ↔ ∀ s : LinkState, n ≠ s.code := by
  rw [Option.eq_none_iff_forall_not_mem]
  exact forall_congr' fun s => not_congr (ofCode?_eq_some_iff n s)

/-- The state that a value stands for; only an integer can stand for one. -/
def ofValue (v : Json.Value) : Except Rejection LinkState :=
  match v with
  | .int n =>
      match ofCode? n with
      | some s => .ok s
      | none => .error (Rejection.unknownCode v).raised
  | _ => .error (Rejection.unknownCode v).raised

theorem ofValue_code (s : LinkState) : ofValue (.int s.code) = .ok s := by cases s <;> rfl

theorem fits_code (s : LinkState) : Text.Integer.fits s.code = true := by
  cases s <;> decide +kernel

/-- The state and its code, as a record's description shows them. -/
def description (s : LinkState) : String :=
  "<DomainState." ++ s.label ++ ": " ++ toString s.code ++ ">"

/-! ## Codes in words -/

inductive NoWords where
  /-- No value of this type is written in any form but its own. -/
  | anyFormat (type : String)
  /-- Values of this type have other forms. -/
  | thisFormat (type : String)
  /-- Its rejection cannot be written. -/
  | longNumeral
  deriving DecidableEq, Repr

def NoWords.message : NoWords → String
  | .anyFormat type => "unsupported format string passed to " ++ type ++ ".__format__"
  | .thisFormat type => "Unknown format code 'x' for object of type '" ++ type ++ "'"
  | .longNumeral => Text.Integer.limitMessage

def hexadecimal : Json.Value → Except NoWords String
  | .int n => .ok (String.ofList (Text.Hex.signed n))
  | .bool b => .ok (if b then "1" else "0")
  | .null => .error (.anyFormat "NoneType")
  | .arr _ => .error (.anyFormat "list")
  | .obj _ => .error (.anyFormat "dict")
  | .float _ => .error (.thisFormat "float")
  | .str _ => .error (.thisFormat "str")

/-- The words for a code: the name of a known state, or the number in base sixteen.  A truth value
is no code, but it has a number. -/
def diagnostic (v : Json.Value) : Except NoWords String :=
  match ofValue v with
  | .ok s => .ok ("DOMAIN_STATE_" ++ s.label)
  | .error (.unknownCode _) => hexadecimal v
  | .error _ => .error .longNumeral

end LinkState

end LinkOwnership
