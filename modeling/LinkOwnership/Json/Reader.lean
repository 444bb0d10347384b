/-
# LinkOwnership.Json.Reader -- reading a JSON text

`Reader.parse` reads one value with nothing but blanks around it.  Beyond the standard it
takes the numbers `NaN`, `Infinity` and `-Infinity`, and it combines the two escapes of a
surrogate pair.  A member that occurs twice keeps its first place and its last value.

A refusal says where the text goes wrong (`Fault.malformed`): at the character that cannot
stand there, at the end of a text that stops too early, at the opening quote of a string
that is never closed, at the `u` of a bad escape.  A text that is well formed can still go
beyond the `Limits` on the digits of an integer and on nesting.  A place is found out only
where some levels of nesting are left (`Limits.margin`), unless what is wrong is that no value
begins there.

A text is read point by point, because it may hold lone halves of surrogate pairs where
strings do.  Every function works on the points that are left and hands on fewer of them.
Until `parse` returns, the position of a refusal is counted back from the end.
-/
import LinkOwnership.Json.Value
import LinkOwnership.OrderedMap

namespace LinkOwnership.Json

set_option autoImplicit false

open LinkOwnership.Text (LooseString Point)

inductive Fault where
  /-- No JSON text continues this way, at the given position. -/
  | malformed (position : Nat)
  /-- An integer has more digits than are read. -/
  | oversized
  /-- Arrays and objects are nested too deep. -/
  | tooDeep
  deriving DecidableEq, Repr

/-- How much is read: digits of one integer, and arrays and objects inside each other.  Where
fewer than `margin` further ones could be opened, a text that goes wrong is as good as one that
is nested too deep. -/
structure Limits where
  digits : Option Nat
  depth : Nat
  margin : Nat

/-- What is reported of a fault that comes up where `depth` more levels are left. -/
def Limits.reported (limits : Limits) (depth : Nat) : Fault → Fault
  | .malformed position => if depth < limits.margin then .tooDeep else .malformed position
  | why => why

namespace Reader

def isSpace (c : Char) : Bool := c = ' ' || c = '\t' || c = '\n' || c = '\r'

def skipSpace (t : List Point) : List Point := t.drop (Text.leading isSpace t).length

/-- The text is wrong at the first of the points that are left. -/
def wrongAt {α : Type} (rest : List Point) : Except Fault α := .error (.malformed rest.length)

/-! ## Strings -/

/-- The number that four hexadecimal digits stand for. -/
def fourDigits? (a b c d : Point) : Option Nat :=
  ([a, b, c, d].mapM Point.char?).bind Text.Hex.natOfDigits?

def isHighSurrogate (n : Nat) : Bool := 0xD800 ≤ n && n < 0xDC00

def isLowSurrogate (n : Nat) : Bool := 0xDC00 ≤ n && n < 0xE000

/-- The second half of a surrogate pair, if the text goes on with one: its value. -/
def lowHalf : List Point → Except Fault (Option Nat)
  | .char '\\' :: .char 'u' :: a :: b :: c :: d :: _ :: rest =>
      match fourDigits? a b c d with
      | none => .error (.malformed (rest.length + 6))
      | some n => .ok (if isLowSurrogate n then some n else none)
  | _ => .ok none

/-- The escape that starts behind a backslash: the code point it stands for and how many
points it takes.  `opening` is the place of the opening quote. -/
def escape (opening : Nat) : List Point → Except Fault (Nat × Nat)
  | [] => .error (.malformed opening)
  | .char 'u' :: a :: b :: c :: d :: more :: rest => do
      let here := rest.length + 6
      match fourDigits? a b c d with
      | none => .error (.malformed here)
      | some n =>
          if isHighSurrogate n then
            match ← lowHalf (more :: rest) with
            | some low => return (0x10000 + (n - 0xD800) * 0x400 + (low - 0xDC00), 11)
            | none => return (n, 5)
          else return (n, 5)
  | c :: rest =>
      match c with
      | .char '"' => .ok ('"'.toNat, 1)
      | .char '\\' => .ok ('\\'.toNat, 1)
      | .char '/' => .ok ('/'.toNat, 1)
      | .char 'b' => .ok (0x08, 1)
      | .char 'f' => .ok (0x0C, 1)
      | .char 'n' => .ok (0x0A, 1)
      | .char 'r' => .ok (0x0D, 1)
      | .char 't' => .ok (0x09, 1)
      | .char 'u' => .error (.malformed (rest.length + 1))
      | _ => .error (.malformed (rest.length + 2))

/-- A point that cannot stand in a string without an escape. -/
def isControl (p : Point) : Bool :=
  match p with
  | .char c => c.toNat < 0x20
  | .half _ => false

/-- The points of a string, read up to its closing quote. -/
def stringFrom (opening : Nat) (t : List Point) : Except Fault (List Point × List Point) :=
  match t with
  | [] => .error (.malformed opening)
  | .char '"' :: rest => .ok ([], rest)
  | .char '\\' :: rest => do
      let (n, taken) ← escape opening rest
      let (ps, rest) ← stringFrom opening (rest.drop taken)
      return (.ofNat n :: ps, rest)
  | p :: rest =>
      if isControl p then .error (.malformed (rest.length + 1))
      else do
        let (ps, rest) ← stringFrom opening rest
        return (p :: ps, rest)
termination_by t.length
decreasing_by all_goals simp only [List.length_drop, List.length_cons]; omega

/-! ## Numbers -/

def natOfDigits (ds : List Char) : Nat := ds.foldl (fun n c => 10 * n + (c.toNat - '0'.toNat)) 0

/-- Whole digits without needless zeros: one zero, or digits that start with none. -/
def wholeDigits (t : List Point) : List Char :=
  match t with
  | .char '0' :: _ => ['0']
  | _ => Text.leading Char.isDigit t

/-- The decimals behind a point, if a point and a digit come next. -/
def fraction : List Point → List Char × List Point
  | .char '.' :: rest =>
      match Text.leading Char.isDigit rest with
      | [] => ([], .char '.' :: rest)
      | ds => (ds, rest.drop ds.length)
  | t => ([], t)

/-- The exponent, if a whole one comes next. -/
def exponent? (t : List Point) : Option (Int × List Point) :=
  match t with
  | .char e :: rest =>
      if e = 'e' ∨ e = 'E' then
        let (negative, unsigned) := match rest with
          | .char '-' :: more => (true, more)
          | .char '+' :: more => (false, more)
          | more => (false, more)
        match Text.leading Char.isDigit unsigned with
        | [] => none
        | ds =>
            let n : Int := natOfDigits ds
            some (if negative then -n else n, unsigned.drop ds.length)
      else none
  | _ => none

/-- A number without its sign, at the start of `t`.  `start` is where its sign stands. -/
def unsigned (limits : Limits) (start : List Point) (negative : Bool) (t : List Point) :
    Except Fault (Value × List Point) :=
  match wholeDigits t with
  | [] => wrongAt start
  | whole =>
      let rest := t.drop whole.length
      let (decimals, afterPoint) := fraction rest
      match exponent? afterPoint, decimals with
      | none, [] =>
          if limits.digits.any (· < whole.length) then .error .oversized
          else
            let n : Int := natOfDigits whole
            .ok (.int (if negative then -n else n), rest)
      | e, _ =>
          let (power, after) := e.getD (0, afterPoint)
          let x := Decimal.Binary64.ofDecimal negative (natOfDigits (whole ++ decimals))
            (power - decimals.length)
          .ok (.float x, after)

def constants : List (List Point × Value) := [
  (Value.points "null", .null), (Value.points "true", .bool true),
  (Value.points "false", .bool false)]

/-- The words for numbers that the standard does not have. -/
def infinities : List (List Point × Value) := [
  (Value.points "NaN", .float (0.0 / 0.0)), (Value.points "Infinity", .float (1.0 / 0.0)),
  (Value.points "-Infinity", .float (-1.0 / 0.0))]

/-- The entry whose word stands at the start of `t`. -/
def wordAt? (words : List (List Point × Value)) (t : List Point) : Option (List Point × Value) :=
  words.find? fun entry => entry.1.isPrefixOf t

/-- A constant or a number at the start of `t`, where `depth` more levels are left.  A number that
the standard does not have takes one of them. -/
def scalar (limits : Limits) (depth : Nat) (t : List Point) :
    Except Fault (Value × List Point) :=
  match wordAt? constants t, wordAt? infinities t with
  | some (word, v), _ => .ok (v, t.drop word.length)
  | none, some (word, v) => if depth = 0 then .error .tooDeep else .ok (v, t.drop word.length)
  | none, none =>
      match t with
      | .char '-' :: rest => unsigned limits t true rest
      | _ => unsigned limits t false t

/-! ## Values -/

mutual

/-- A value at the start of the text, which has no blank in front.  `fuel` bounds the number of
nested calls; the points that are left are enough. -/
def value (limits : Limits) : Nat → Nat → List Point → Except Fault (Value × List Point)
  | 0, _, t => wrongAt t
  | fuel + 1, depth, t =>
      match t with
      | .char '"' :: rest => do
          let (points, rest) ← (stringFrom t.length rest).mapError (limits.reported depth)
          return (.str ⟨points⟩, rest)
      | .char '{' :: rest =>
          if depth = 0 then .error .tooDeep
          else match skipSpace rest with
            | .char '}' :: rest => .ok (.obj [], rest)
            | rest => do
                let (members, rest) ← members limits fuel (depth - 1) rest
                return (.obj (OrderedMap.ofList members).entries, rest)
      | .char '[' :: rest =>
          if depth = 0 then .error .tooDeep
          else match skipSpace rest with
            | .char ']' :: rest => .ok (.arr [], rest)
            | rest => do
                let (items, rest) ← items limits fuel (depth - 1) rest
                return (.arr items, rest)
      | _ => scalar limits depth t

/-- The items of an array, at least one, up to the closing bracket. -/
def items (limits : Limits) : Nat → Nat → List Point → Except Fault (List Value × List Point)
  | 0, _, t => wrongAt t
  | fuel + 1, depth, t => do
      let (v, rest) ← value limits fuel depth t
      match skipSpace rest with
      | .char ']' :: rest => return ([v], rest)
      | .char ',' :: rest =>
          let (vs, rest) ← items limits fuel depth (skipSpace rest)
          return (v :: vs, rest)
      | rest => (wrongAt rest).mapError (limits.reported depth)

/-- The members of an object, at least one, up to the closing brace. -/
def members (limits : Limits) :
    Nat → Nat → List Point → Except Fault (List (LooseString × Value) × List Point)
  | 0, _, t => wrongAt t
  | fuel + 1, depth, t =>
      match t with
      | .char '"' :: rest => do
          let (points, rest) ← (stringFrom t.length rest).mapError (limits.reported depth)
          let name : LooseString := ⟨points⟩
          match skipSpace rest with
          | .char ':' :: rest =>
              let (v, rest) ← value limits fuel depth (skipSpace rest)
              match skipSpace rest with
              | .char '}' :: rest => return ([(name, v)], rest)
              | .char ',' :: rest =>
                  let (more, rest) ← members limits fuel depth (skipSpace rest)
                  return ((name, v) :: more, rest)
              | rest => (wrongAt rest).mapError (limits.reported depth)
          | rest => (wrongAt rest).mapError (limits.reported depth)
      | _ => (wrongAt t).mapError (limits.reported depth)

end

/-- Read one value with nothing but blanks around it. -/
def parse (limits : Limits) (t : List Point) : Except Fault Value :=
  let located : Except Fault Value := do
    let (v, rest) ← value limits (2 * t.length + 2) limits.depth (skipSpace t)
    match skipSpace rest with
    | [] => return v
    | rest => wrongAt rest
  located.mapError fun
    | .malformed left => .malformed (t.length - left)
    | other => other

def parseString (limits : Limits) (s : String) : Except Fault Value :=
  parse limits (Value.points s)

end Reader

end LinkOwnership.Json
