/-
# LinkOwnership.Json.Value -- JSON values

A `Value` is what a JSON text stands for.  Integers are kept apart from fractions, the members
of an object keep their order, and texts and names may hold lone halves of surrogate pairs,
which JSON can write with escapes.

`Value.write` gives the points of a JSON text, without blanks.  How texts are written in it is
left open; there are two ways:

* `Value.render` escapes whatever is not in the basic Latin block, so it is a string;
* `Value.body` lets every character above the controls stand for itself.

`Value.obstacle?` finds what keeps a value from being written: a number that is not finite, which
has no form in standard JSON though both ways spell it out, or arrays and objects nested too deep.

`Value.literal` is the spelling that messages show, with quoted strings (`Text.quote`)
and capitalised constants; it can be written when every integer in it can (`Value.fits`).
`Value.truthy` is what a value counts for where only yes or no matters: no number zero, empty text,
empty collection or absent value counts as yes.
-/
import LinkOwnership.Text.Integer
import LinkOwnership.Text.Quoted
import LinkOwnership.Decimal.Shortest

namespace LinkOwnership.Json

set_option autoImplicit false

open LinkOwnership.Text (LooseString Point)

inductive Value where
  | null
  | bool (b : Bool)
  | int (n : Int)
  | float (x : Float)
  | str (s : LooseString)
  | arr (items : List Value)
  | obj (members : List (LooseString × Value))
  deriving Inhabited

namespace Value

def member? : Value → String → Option Value
  | .obj members, name => members.lookup (.ofString name)
  | _, _ => none

/-! ## JSON texts -/

/-- Fractions have at least one decimal; from 10^16 on, and below 10^-4, they are written with an
exponent of at least two digits. -/
def fractionStyle : Decimal.NumberStyle := ⟨-4, 15, 2, "nan", "inf"⟩

/-- The same with the JSON words for what is no number. -/
def jsonFractionStyle : Decimal.NumberStyle :=
  { fractionStyle with nan := "NaN", infinity := "Infinity" }

def points (s : String) : List Point := s.toList.map .char

def escapeUnit (n : Nat) : List Char := '\\' :: 'u' :: Text.Hex.padded 4 n

/-- One character inside the quotes of a JSON text.  Outside the printable characters of the
basic Latin block it is escaped, by a surrogate pair if it does not fit sixteen bits. -/
def escapedChar (c : Char) : List Char :=
  let n := c.toNat
  if c = '"' ∨ c = '\\' then ['\\', c]
  else if 0x20 ≤ n ∧ n < 0x7F then [c]
  else if n < 0x10000 then escapeUnit n
  else
    escapeUnit (0xD800 + (n - 0x10000) / 0x400) ++ escapeUnit (0xDC00 + (n - 0x10000) % 0x400)

/-- One point inside the quotes of a JSON text in the basic Latin block. -/
def escapedPoint : Point → List Char
  | .char c => escapedChar c
  | .half n => escapeUnit (Text.firstHalf + n)

/-- A text between quotes, in the basic Latin block. -/
def escapedText (s : LooseString) : List Point :=
  ('"' :: s.points.flatMap escapedPoint ++ ['"']).map .char

/-- The escapes of controls that have names of their own. -/
def namedControls : List (Char × Char) :=
  [('\n', 'n'), ('\r', 'r'), ('\t', 't'), ('\x08', 'b'), ('\x0c', 'f')]

/-- One point inside the quotes of a JSON text in which only controls, quotes and backslashes
are escaped. -/
def plainPoint : Point → List Point
  | .char c =>
      if c = '"' ∨ c = '\\' then [.char '\\', .char c]
      else if 0x20 ≤ c.toNat then [.char c]
      else match namedControls.lookup c with
        | some name => [.char '\\', .char name]
        | none => (escapeUnit c.toNat).map .char
  | .half n => [.half n]

/-- A text between quotes, its characters standing for themselves. -/
def plainText (s : LooseString) : List Point :=
  .char '"' :: s.points.flatMap plainPoint ++ [.char '"']

mutual

/-- The points of a JSON text of the value; `text` writes the texts and names in it. -/
def write (text : LooseString → List Point) : Value → List Point
  | .null => points "null"
  | .bool b => points (if b then "true" else "false")
  | .int n => points (toString n)
  | .float x => points (jsonFractionStyle.render (.ofFloat x))
  | .str s => text s
  | .arr items => .char '[' :: writeItems text items ++ [.char ']']
  | .obj members => .char '\x7b' :: writeMembers text members ++ [.char '\x7d']

def writeItems (text : LooseString → List Point) : List Value → List Point
  | [] => []
  | v :: rest =>
      write text v ++ (if rest.isEmpty then [] else .char ',' :: writeItems text rest)

def writeMembers (text : LooseString → List Point) : List (LooseString × Value) → List Point
  | [] => []
  | (name, v) :: rest =>
      text name ++ .char ':' :: write text v
        ++ (if rest.isEmpty then [] else .char ',' :: writeMembers text rest)

end

/-- A JSON text of the value in the basic Latin block. -/
def render (v : Value) : String := String.ofList ((v.write escapedText).filterMap Point.char?)

/-- The JSON text of the value that is sent as the body of an answer. -/
def body (v : Value) : List Point := v.write plainText

/-! ## What is not written -/

inductive Obstacle where
  /-- A number that is not finite has no form in standard JSON. -/
  | notFinite
  /-- Such a number stands as deep as anything may, where no level is left to report it. -/
  | notFiniteAtBottom
  /-- Arrays and objects are nested too deep. -/
  | tooDeep
  deriving DecidableEq, Repr

mutual

/-- The first obstacle in a value, in the order of its text, when at most `depth` arrays and
objects may be inside each other. -/
def obstacle? (depth : Nat) : Value → Option Obstacle
  | .float x =>
      if x.isFinite then none else some (if depth = 0 then .notFiniteAtBottom else .notFinite)
  | .arr items => if depth = 0 then some .tooDeep else obstacleAmong? (depth - 1) items
  | .obj members => if depth = 0 then some .tooDeep else obstacleWithin? (depth - 1) members
  | _ => none

def obstacleAmong? (depth : Nat) : List Value → Option Obstacle
  | [] => none
  | v :: rest =>
      match obstacle? depth v with
      | some why => some why
      | none => obstacleAmong? depth rest

def obstacleWithin? (depth : Nat) : List (LooseString × Value) → Option Obstacle
  | [] => none
  | (_, v) :: rest =>
      match obstacle? depth v with
      | some why => some why
      | none => obstacleWithin? depth rest

end

/-- Nothing keeps the value from being written with `depth` levels left. -/
def Writable (depth : Nat) (v : Value) : Prop :=
  v.obstacle? depth = none ∧ Text.loneHalves? v.body = none

instance (depth : Nat) (v : Value) : Decidable (v.Writable depth) :=
  inferInstanceAs (Decidable (_ ∧ _))

/-! ## Other views -/

mutual

/-- The spelling of the value in a message. -/
def literal : Value → String
  | .null => "None"
  | .bool b => if b then "True" else "False"
  | .int n => toString n
  | .float x => fractionStyle.render (.ofFloat x)
  | .str s => Text.quoteLoose s
  | .arr items => "[" ++ ", ".intercalate (literalItems items) ++ "]"
  | .obj members => "\x7b" ++ ", ".intercalate (literalMembers members) ++ "\x7d"

def literalItems : List Value → List String
  | [] => []
  | v :: rest => literal v :: literalItems rest

def literalMembers : List (LooseString × Value) → List String
  | [] => []
  | (name, v) :: rest => (Text.quoteLoose name ++ ": " ++ literal v) :: literalMembers rest

end

mutual

/-- Whether all integers in the value can be written. -/
def fits : Value → Bool
  | .int n => Text.Integer.fits n
  | .arr items => fitsItems items
  | .obj members => fitsMembers members
  | _ => true

def fitsItems : List Value → Bool
  | [] => true
  | v :: rest => fits v && fitsItems rest

def fitsMembers : List (LooseString × Value) → Bool
  | [] => true
  | (_, v) :: rest => fits v && fitsMembers rest

end

/-- Whether the value counts as yes. -/
def truthy : Value → Bool
  | .null => false
  | .bool b => b
  | .int n => n != 0
  | .float x => x != 0
  | .str s => !s.points.isEmpty
  | .arr items => !items.isEmpty
  | .obj members => !members.isEmpty

/-- The integer that the value is equal to as a number; the truth values are one and zero. -/
def integer? : Value → Option Int
  | .bool b => some (if b then 1 else 0)
  | .int n => some n
  | .float x => (Decimal.Binary64.ofFloat x).int?
  | _ => none

end Value

end LinkOwnership.Json
