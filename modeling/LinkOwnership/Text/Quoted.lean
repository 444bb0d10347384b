/-
# LinkOwnership.Text.Quoted -- a text between quotes, on one line

`quote` writes a text so that a reader can tell where it starts and ends, whatever it
holds.  Single quotes enclose it, or double quotes when it holds a single quote and no
double quote.  The enclosing quote and the backslash are escaped with a backslash; tab,
line feed and carriage return have names of their own; every other character that is not
printable is written by its code point, in two, four or eight hexadecimal digits.
`quoteLoose` does the same for a text with lone halves of surrogate pairs, none of which is
printable; on a string both agree (`quoteLoose_ofString`).
-/
import LinkOwnership.Text.Loose
import LinkOwnership.Text.PrintTable

namespace LinkOwnership.Text

set_option autoImplicit false

/-- The quote that encloses a text. -/
def enclosing (t : List Char) : Char :=
  if t.contains '\'' && !t.contains '"' then '"' else '\''

/-- The escape of a code point: two digits up to U+00FF, four up to U+FFFF, else eight. -/
def escapePoint (n : Nat) : List Char :=
  if n < 0x100 then '\\' :: 'x' :: Hex.padded 2 n
  else if n < 0x10000 then '\\' :: 'u' :: Hex.padded 4 n
  else '\\' :: 'U' :: Hex.padded 8 n

/-- One character of a text enclosed in `delimiter`. -/
def quoteChar (delimiter c : Char) : List Char :=
  if c = delimiter ∨ c = '\\' then ['\\', c]
  else if c = '\t' then ['\\', 't']
  else if c = '\n' then ['\\', 'n']
  else if c = '\r' then ['\\', 'r']
  else if isPrintable c then [c]
  else escapePoint c.toNat

def quote (t : List Char) : List Char :=
  let delimiter := enclosing t
  delimiter :: t.flatMap (quoteChar delimiter) ++ [delimiter]

def quoteString (s : String) : String := String.ofList (quote s.toList)

/-- One point of a text enclosed in `delimiter`. -/
def quotePoint (delimiter : Char) : Point → List Char
  | .char c => quoteChar delimiter c
  | .half n => escapePoint (firstHalf + n)

def quoteLoose (s : LooseString) : String :=
  let delimiter := enclosing (s.points.filterMap Point.char?)
  String.ofList (delimiter :: s.points.flatMap (quotePoint delimiter) ++ [delimiter])

theorem quoteLoose_ofString (s : String) : quoteLoose (.ofString s) = quoteString s := by
  have chars : (s.toList.map Point.char).filterMap Point.char? = s.toList := by
    rw [List.filterMap_map]; exact List.filterMap_some
  simp only [quoteLoose, quoteString, quote, LooseString.ofString, chars, List.flatMap_map]
  rfl

end LinkOwnership.Text
