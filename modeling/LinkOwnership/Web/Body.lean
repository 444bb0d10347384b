/-
# LinkOwnership.Web.Body -- what a request carries

`Request.readBody` reads the body of a request: as JSON when the content type says so, else as
bytes that stay bytes.

The parts of a request are then checked.  A check answers with the value or with the list of
`Problem`s found.  Checks of independent parts find all problems, in the order of the parts
(`both`).  The texts of a body may hold lone halves of surrogate pairs, and a check of texts
does not mind; they matter where a text is to be written.
-/
import LinkOwnership.Json.Bytes
import LinkOwnership.Json.Reader
import LinkOwnership.Text.Blank
import LinkOwnership.Text.Casing
import LinkOwnership.Web.Framework
import LinkOwnership.Web.Problem

namespace LinkOwnership.Web

set_option autoImplicit false

open LinkOwnership.Text (LooseString)

/-! ## Reading the body -/

inductive BodyFault where
  | malformed (position : Nat)
  | unreadable
  deriving DecidableEq, Repr

/-- Whether a content type is one of JSON.  A header is read byte by byte, each byte as the
character of that number. -/
def isJsonType (contentType : List UInt8) : Bool :=
  let header := contentType.map fun b => Char.ofNat b.toNat
  let media := header.takeWhile (· ≠ ';')
  let name := (Text.lowerString (String.ofList (Text.trim Text.isBlank media))).toList
  match name.dropWhile (· ≠ '/') with
  | _ :: subtype =>
      name.takeWhile (· ≠ '/') = "application".toList && !subtype.contains '/'
        && (subtype = "json".toList || "+json".toList.isSuffixOf subtype)
  | [] => false

/-- How much of a body is read: integers of 4300 digits at most, and at most 964 arrays and objects
inside each other, in the last three of which no fault of the text is reported. -/
def bodyLimits : Json.Limits := ⟨some 4300, 964, 3⟩

/-- Read the body.  One without a content type stays bytes. -/
def Request.readBody (r : Request) : Except BodyFault Body :=
  if r.body.isEmpty then .ok .absent
  else if isJsonType (r.contentType.getD []) then
    match Json.pointsOfBytes? r.body with
    | none => .error .unreadable
    | some points =>
        match Json.Reader.parse bodyLimits points with
        | .ok v => .ok (.json v)
        | .error (.malformed position) => .error (.malformed position)
        | .error _ => .error .unreadable
  else .ok (.other r.body)

/-! ## Checks -/

abbrev Checked (α : Type) := Except (List Problem) α

/-- Both of two parts, or the problems of both. -/
def both {α β : Type} : Checked α → Checked β → Checked (α × β)
  | .ok a, .ok b => .ok (a, b)
  | .error p, .error q => .error (p ++ q)
  | .error p, .ok _ => .error p
  | .ok _, .error q => .error q

def checkUser (s : String) : Checked Int :=
  (Text.Integer.parse s.toList).mapError fun why =>
    [Problem.ofInteger [.str "path", .str "user"] s why]

/-- The body, which must be an object. -/
def checkObject : Body → Checked Json.Value
  | .absent => .error [Problem.missing [.str "body"] .null]
  | .json (.obj members) => .ok (.obj members)
  | .json v => .error [Problem.notAnObject (.value v)]
  | .other bytes => .error [Problem.notAnObject (.bytes bytes)]

/-- The texts in a list, the first of which stands at `index`. -/
def checkStringsFrom (place : List Json.Value) (index : Nat) :
    List Json.Value → Checked (List LooseString)
  | [] => .ok []
  | v :: rest =>
      let first : Checked LooseString := match v with
        | .str s => .ok s
        | _ => .error [Problem.notAString (place ++ [.int index]) v]
      (both first (checkStringsFrom place (index + 1) rest)).map fun (s, ss) => s :: ss

def checkStrings (place : List Json.Value) : Json.Value → Checked (List LooseString)
  | .arr items => checkStringsFrom place 0 items
  | v => .error [Problem.notAList place v]

/-- The hosts that a package declares; none need be named. -/
def checkHosts (body : Body) : Checked (List LooseString) := do
  match (← checkObject body).member? "hosts" with
  | none => return []
  | some v => checkStrings [.str "body", .str "hosts"] v

/-- The packages of a verification request; one at least must be named. -/
def checkPackageNames (body : Body) : Checked (List LooseString) := do
  let place := [.str "body", .str "package_names"]
  let object ← checkObject body
  match object.member? "package_names" with
  | none => throw [Problem.missing place object]
  | some v =>
      match ← checkStrings place v with
      | [] => throw [Problem.emptyList place]
      | names => return names

def yesWords : List String := ["1", "t", "y", "on", "yes", "true"]

def noWords : List String := ["0", "f", "n", "no", "off", "false"]

/-- The truth value that a word stands for, in any case. -/
def boolOfWord? (s : String) : Option Bool :=
  let word := String.ofList (s.toList.map Char.toLower)
  if word ∈ yesWords then some true else if word ∈ noWords then some false else none

def boolOfInteger? (n : Int) : Option Bool :=
  if n = 1 then some true else if n = 0 then some false else none

/-- The integers of sixty-four bits end before this one. -/
def int64Bound : Int := 0x8000000000000000

/-- The integer of sixty-four bits that a value is, if it is one.  A fraction is one when it is
equal to an integer strictly between the bounds. -/
def int64OfValue? : Json.Value → Option Int
  | .int n => if -int64Bound ≤ n ∧ n < int64Bound then some n else none
  | .float x =>
      match (Decimal.Binary64.ofFloat x).int? with
      | some n => if -int64Bound < n ∧ n < int64Bound then some n else none
      | none => none
  | _ => none

/-- A truth value, also as a word or as a number of sixty-four bits. -/
def checkBool (place : List Json.Value) (v : Json.Value) : Checked Bool :=
  let known (b : Option Bool) : Checked Bool :=
    match b with
    | some b => .ok b
    | none => .error [Problem.unknownBool place v]
  match v with
  | .bool b => .ok b
  | .str s =>
      match s.string? with
      | some word => known (boolOfWord? word)
      | none => .error [Problem.notUnicode place v]
  | _ =>
      match int64OfValue? v with
      | some n => known (boolOfInteger? n)
      | none => .error [Problem.notABool place v]

/-- Whether links may be opened; the body must say so. -/
def checkAllowed (body : Body) : Checked Bool := do
  let place := [.str "body", .str "allowed"]
  let object ← checkObject body
  match object.member? "allowed" with
  | none => throw [Problem.missing place object]
  | some v => checkBool place v

end LinkOwnership.Web
