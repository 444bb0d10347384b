/-
# LinkOwnership.Rejection -- why a request is turned down

A `Rejection` is a cause with the facts that its message needs.  `Rejection.message` is the
one place where a cause is put into words; a host with lone halves of surrogate pairs appears
in them as it is shown.

The words are put together when the cause is raised.  Where one of the numerals in them would be
too long to be written, this fails, and the failure is raised in place of the cause
(`Rejection.raised`).  Something missing where a collection should be, and a host that is no text,
are not looked for; they fail where they are used.
-/
import LinkOwnership.Json.Value

namespace LinkOwnership

set_option autoImplicit false

open LinkOwnership.Text (LooseString)

/-- The parts of a record that must be given. -/
inductive Field where
  | host
  | identifier
  | packageName
  | user
  | linkHandlingAllowed
  | hostToState
  deriving DecidableEq, Repr

def Field.name : Field → String
  | .host => "host"
  | .identifier => "identifier"
  | .packageName => "package_name"
  | .user => "user"
  | .linkHandlingAllowed => "link_handling_allowed"
  | .hostToState => "host_to_state"

inductive Rejection where
  /-- A part that must be given is missing. -/
  | missing (field : Field)
  /-- A verification request names no set of packages. -/
  | missingPackageNames
  /-- A value is no code of a link state. -/
  | unknownCode (code : Json.Value)
  /-- Another package of the user holds the host. -/
  | hostOwned (host : LooseString) (owner : String)
  /-- The user has no such package. -/
  | unknownPackage (user : Option Int) (package : Option String)
  /-- The package does not list the host. -/
  | undeclaredHost (user : Int) (package : String) (host : LooseString)
  /-- A selected host has no holder in the index. -/
  | slotNotHeld (host : LooseString)
  /-- A message cannot be written for the length of a numeral. -/
  | longNumeral
  /-- Something is missing where a collection should be. -/
  | notIterable
  /-- A host is a value of another type than text. -/
  | notText (type : String)
  /-- A missing name cannot be put in order with others. -/
  | incomparable

namespace Rejection

def shown : Option String → String
  | some s => s
  | none => "None"

def message : Rejection → String
  | .missing field => field.name ++ " must not be None"
  | .missingPackageNames => "package_names must not be None"
  | .unknownCode code => "Invalid domain state code: " ++ code.literal
  | .hostOwned host owner => "Host " ++ host.shown ++ " is already owned by " ++ owner
  | .unknownPackage user package =>
      "No state for package " ++ shown package ++ " in user " ++ shown (user.map toString)
  | .undeclaredHost user package host =>
      "Package " ++ package ++ " in user " ++ toString user ++ " does not declare host "
        ++ host.shown
  | .slotNotHeld host => Text.quoteLoose host
  | .longNumeral => Text.Integer.limitMessage
  | .notIterable => "'NoneType' object is not iterable"
  | .notText type => "'" ++ type ++ "' object has no attribute 'strip'"
  -- The types may come the other way about: the set decides which of its members is met first.
  | .incomparable => "'<' not supported between instances of 'NoneType' and 'str'"

/-- Whether every numeral in the message can be written. -/
def fits : Rejection → Bool
  | .unknownCode code => code.fits
  | .unknownPackage user _ => user.all Text.Integer.fits
  | .undeclaredHost user _ _ => Text.Integer.fits user
  | _ => true

/-- What is raised for a cause: the cause, if it can be put into words. -/
def raised (why : Rejection) : Rejection := if why.fits then why else .longNumeral

theorem raised_cases (why : Rejection) :
    why.raised = why ∨ why.fits = false ∧ why.raised = .longNumeral := by
  unfold raised
  split
  · exact .inl rfl
  · rename_i long
    exact .inr ⟨Bool.eq_false_iff.2 long, rfl⟩

theorem raised_of_fits (why : Rejection) (fits : why.fits = true) : why.raised = why := if_pos fits

theorem raised_of_long (why : Rejection) (long : why.fits = false) : why.raised = .longNumeral := by
  rw [raised, long, if_neg Bool.false_ne_true]

end Rejection

def required {α : Type} (field : Field) : Option α → Except Rejection α
  | some a => .ok a
  | none => .error (.missing field)

end LinkOwnership
