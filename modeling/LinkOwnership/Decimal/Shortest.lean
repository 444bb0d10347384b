/-
# LinkOwnership.Decimal.Shortest -- the fewest digits that read back

A binary fraction `m * 2 ^ q` stands for every real that rounds to it: the interval that
reaches half way to either neighbour, ends included when `m` is even.  `Shortest.digits`
finds the decimal number in that interval with the fewest digits, and of those the one
nearest to `m * 2 ^ q`.  It asks of one digit, of two, and so on up to seventeen, whether
either neighbour of the number on that decimal grid lies in the interval.  All arithmetic
is exact.

`NumberStyle` holds the choices of a written form and `NumberStyle.render` applies them.
-/
import LinkOwnership.Decimal.Binary64

namespace LinkOwnership.Decimal

set_option autoImplicit false

namespace Shortest

/-- The reals that round to a binary fraction, with the fraction itself, all over one
denominator: `low / unit` to `high / unit` around `centre / unit`. -/
structure Interval where
  low : Nat
  centre : Nat
  high : Nat
  unit : Nat
  closed : Bool
  deriving DecidableEq, Repr

/-- The interval of `significand * 2 ^ exponent`.  Below a power of two the neighbour is half
as far away, but for the smallest normal number. -/
def interval (significand : Nat) (exponent : Int) : Interval :=
  let below :=
    if significand = Binary64.hiddenBit ∧ Binary64.leastExponent < exponent then 1 else 2
  let (scale, unit) :=
    if 2 ≤ exponent then (Nat.pow 2 (exponent - 2).toNat, 1)
    else (1, Nat.pow 2 (2 - exponent).toNat)
  { low := (4 * significand - below) * scale
    centre := 4 * significand * scale
    high := (4 * significand + 2) * scale
    unit := unit
    closed := significand % 2 = 0 }

/-- The exponent of the first decimal digit of `n / unit`, for `0 < n`. -/
def magnitude (n unit : Nat) : Int :=
  if unit ≤ n then (Nat.toDigits 10 (n / unit)).length - 1
  else match (List.range 400).find? (fun j => unit ≤ n * Nat.pow 10 (j + 1)) with
    | some j => -(j + 1 : Int)
    | none => 0

/-- Numerator and denominator of `10 ^ k`. -/
def powerOfTen (k : Int) : Nat × Nat := (Nat.pow 10 k.toNat, Nat.pow 10 (-k).toNat)

def Interval.holds (i : Interval) (c : Nat) (k : Int) : Bool :=
  let (up, down) := powerOfTen k
  let here := c * up * i.unit
  if i.closed then i.low * down ≤ here && here ≤ i.high * down
  else i.low * down < here && here < i.high * down

/-- Of the two neighbours of the centre on the grid of `10 ^ k`, the nearest that lies in the
interval; of two equally near the even one. -/
def Interval.onGrid (i : Interval) (k : Int) : Option Nat :=
  let (up, down) := powerOfTen k
  let c := i.centre * down / (up * i.unit)
  let below := i.centre * down - c * up * i.unit
  let above := (c + 1) * up * i.unit - i.centre * down
  match i.holds c k, i.holds (c + 1) k with
  | true, false => some c
  | false, true => some (c + 1)
  | true, true =>
      some (if below < above then c else if above < below then c + 1
        else if c % 2 = 0 then c else c + 1)
  | false, false => none

/-- The same number with no zero at the end of its digits; `fuel` bounds their count. -/
def dropZeros : Nat → Nat → Int → Nat × Int
  | 0, c, k => (c, k)
  | fuel + 1, c, k => if c ≠ 0 ∧ c % 10 = 0 then dropZeros fuel (c / 10) (k + 1) else (c, k)

/-- Digits and exponent of the shortest decimal number that rounds to
`significand * 2 ^ exponent`, for `0 < significand`. -/
def digits (significand : Nat) (exponent : Int) : Nat × Int :=
  let i := interval significand exponent
  let top := magnitude i.centre i.unit
  let found := (List.range 17).findSome? fun (d : Nat) =>
    let k := top - (d : Int)
    (i.onGrid k).map fun c => (c, k)
  match found with
  | some (c, k) => dropZeros 20 c k
  | none => (0, 0)

end Shortest

/-- How a number is written: the exponents of the first digit that are written without an
exponent, the least number of digits of a written exponent, and the words for what is no
number. -/
structure NumberStyle where
  positionalFrom : Int
  positionalTo : Int
  exponentWidth : Nat
  nan : String
  infinity : String

namespace NumberStyle

/-- Digits with the point behind the first `point` of them; zeros fill the gaps, and a whole
number ends in `.0`. -/
def positional (ds : List Char) (point : Int) : List Char :=
  if point ≤ 0 then '0' :: '.' :: (List.replicate (-point).toNat '0' ++ ds)
  else if (ds.length : Int) ≤ point then
    ds ++ List.replicate (point.toNat - ds.length) '0' ++ ['.', '0']
  else ds.take point.toNat ++ '.' :: ds.drop point.toNat

/-- The first digit, the others behind a point, and the exponent with its sign. -/
def scientific (width : Nat) (ds : List Char) (exponent : Int) : List Char :=
  let size := Nat.toDigits 10 exponent.natAbs
  let mantissa := match ds with
    | [] => []
    | [d] => [d]
    | d :: more => d :: '.' :: more
  mantissa ++ 'e' :: (if exponent < 0 then '-' else '+')
    :: (List.replicate (width - size.length) '0' ++ size)

/-- The shortest text of a number that reads back as the number. -/
def render (style : NumberStyle) : Binary64 → String
  | .nan => style.nan
  | .infinite negative => (if negative then "-" else "") ++ style.infinity
  | .finite negative significand exponent =>
      let body :=
        if significand = 0 then positional ['0'] 1
        else
          let (c, k) := Shortest.digits significand exponent
          let ds := Nat.toDigits 10 c
          let first : Int := k + ds.length - 1
          if style.positionalFrom ≤ first ∧ first ≤ style.positionalTo then
            positional ds (first + 1)
          else scientific style.exponentWidth ds first
      (if negative then "-" else "") ++ String.ofList body

end NumberStyle

end LinkOwnership.Decimal
