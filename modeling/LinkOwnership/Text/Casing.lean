/-
# LinkOwnership.Text.Casing -- lower case

`lower` is the full Unicode lower-casing of a text of points, in no language's tailoring.
Each character goes to its simple lower-case form (`CaseTable.lowerRuns`), but for two:

* capital I with a dot above (U+0130) becomes an i and a combining dot above, the one
  character whose lower case is two characters;
* capital sigma (U+03A3) becomes a final sigma (U+03C2) at the end of a word, and a small
  sigma (U+03C3) elsewhere.  A word ends there when the nearest character before it that is
  not ignorable is a letter and the nearest one after it is not, or is missing.

The dot of a host name is ignorable, so the labels of a host are not words of their own.  A
lone half of a surrogate pair stays as it is, and it is neither a letter nor ignorable.
-/
import LinkOwnership.Text.CaseTable
import LinkOwnership.Text.Loose

namespace LinkOwnership.Text

set_option autoImplicit false

/-- The simple lower-case form of a code point, read from ascending runs. -/
def lowerNumber : List CaseRun → Nat → Nat
  | [], n => n
  | run :: rest, n =>
      if n < run.first then n
      else if n ≤ run.last ∧ (n - run.first) % run.stride = 0 then run.target + (n - run.first)
      else lowerNumber rest n

def lowerSimple (c : Char) : Char := Char.ofNat (lowerNumber CaseTable.lowerRuns c.toNat)

/-- A character that the search for the neighbouring letters of a sigma looks past. -/
def isIgnorable (c : Char) : Bool := Spans.cover CaseTable.ignorable c.toNat

/-- A letter, among the characters that are not ignorable. -/
def isLetter (c : Char) : Bool := Spans.cover CaseTable.cased c.toNat

/-- Whether the first point that is not ignorable is a letter. -/
def startsWithLetter (t : List Point) : Bool :=
  match t.find? (fun c => !c.holds isIgnorable) with
  | some c => c.holds isLetter
  | none => false

/-- The lower case of one character, where `afterLetter` says what stands before it and
`rest` is what stands behind it. -/
def lowerChar (afterLetter : Bool) (c : Char) (rest : List Point) : List Char :=
  if c = '\u03a3' then [if afterLetter && !startsWithLetter rest then '\u03c2' else '\u03c3']
  else if c = '\u0130' then ['i', '\u0307']
  else [lowerSimple c]

/-- The lower case of a text behind a letter (`afterLetter`) or not. -/
def lowerAfter : Bool → List Point → List Point
  | _, [] => []
  | afterLetter, .char c :: rest =>
      (lowerChar afterLetter c rest).map .char ++
        lowerAfter (if isIgnorable c then afterLetter else isLetter c) rest
  | _, .half n :: rest => .half n :: lowerAfter false rest

def lower (t : List Point) : List Point := lowerAfter false t

def lowerString (s : String) : String :=
  String.ofList ((lower (LooseString.ofString s).points).filterMap Point.char?)

end LinkOwnership.Text
