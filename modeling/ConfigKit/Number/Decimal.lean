-- SUMMARY: The shortest decimal text that reads back as a floating-point number, in the notations of the formats.
import ConfigKit.Number.Binary64

/-!
# Decimal text of floating-point numbers

The digits of a number are the fewest that read back as it, and of those the nearest to it. They are
found on exact naturals: the reals that round to `m · 2 ^ q` form an interval, and the first grid of
multiples of a power of ten that meets it, from coarse to fine, gives the digits.

How digits and exponent become text is a choice of the format, held in `Decimal.Notation`.
-/

namespace ConfigKit

/-- The positive decimal `digits · 10 ^ exponent`. -/
structure Decimal where
  digits : Nat
  exponent : Int
  deriving DecidableEq

namespace Decimal

/-- The reals that round to a finite number, as `low / 4`, `value / 4` and `high / 4` in units of
`2 ^ exponent`; the ends belong to it when `closed`. -/
structure Interval where
  low : Nat
  value : Nat
  high : Nat
  exponent : Int
  closed : Bool

/-- The interval around a finite number. Below a power of two the neighbours stand twice as close. -/
def Interval.around (x : Binary64) : Interval :=
  let m := x.significand
  let below := if m = Nat.pow 2 52 ∧ x.exponent ≠ -1074 then 1 else 2
  { low := 4 * m - below, value := 4 * m, high := 4 * m + 2, exponent := x.exponent - 2
    closed := m % 2 = 0 }

/-- The multiple of `10 ^ k` in the interval that is nearest to its value, if one of the two around the
value lies in it. Of two equally near the even one is taken. -/
def Interval.onGrid? (i : Interval) (k : Int) : Option Decimal :=
  -- In units of `10 ^ k`, a bound `b` of the interval is `b * scale / unit`.
  let scale := Nat.pow 2 i.exponent.toNat * Nat.pow 10 (-k).toNat
  let unit := Nat.pow 10 k.toNat * Nat.pow 2 (-i.exponent).toNat
  let down := i.value * scale / unit
  let up := down + 1
  let within (t : Nat) : Bool :=
    if i.closed then i.low * scale ≤ t * unit && t * unit ≤ i.high * scale
    else i.low * scale < t * unit && t * unit < i.high * scale
  let toDown := i.value * scale - down * unit
  let toUp := up * unit - i.value * scale
  if within down && within up then
    if toDown < toUp || (toDown == toUp && down % 2 == 0) then some ⟨down, k⟩ else some ⟨up, k⟩
  else if within down then some ⟨down, k⟩
  else if within up then some ⟨up, k⟩
  else none

/-- The first grid that meets the interval, from `10 ^ k` down through `steps` finer ones. -/
def Interval.coarsest (i : Interval) : (steps : Nat) → (k : Int) → Decimal
  | 0, k => ⟨0, k⟩
  | steps + 1, k =>
    match i.onGrid? k with
    | some d => d
    | none => i.coarsest steps (k - 1)

/-- The shortest decimal that reads back as the magnitude of a finite number other than zero. The
search starts at a power of ten above the number: three tenths of its binary length are enough, and
seventeen digits always suffice. -/
def shortest (x : Binary64) : Decimal :=
  let i := Interval.around x
  let top : Int := ((i.high.log2 : Int) + 1 + i.exponent) * 30103 / 100000 + 1
  i.coarsest 24 top

/-! ## Text -/

/-- How a format writes floating-point numbers. -/
structure Notation where
  /-- Written before an exponent that is not negative. -/
  exponentSign : String
  positiveInfinity : String
  negativeInfinity : String
  notANumber : String

/-- Digits with an exponent: one digit, the others after a point, and the power of ten. -/
def scientific (sign : String) (digits : List Char) (power : Int) : String :=
  let mantissa :=
    match digits with
    | [] => ""
    | [d] => String.ofList [d]
    | d :: rest => String.ofList (d :: '.' :: rest)
  mantissa ++ "e" ++ (if power < 0 then "-" else sign) ++ toString power.natAbs

/-- Digits in their places, with a point and at least one digit on either side of it. -/
def positional (digits : List Char) (exponent : Int) : String :=
  if 0 ≤ exponent then
    String.ofList (digits ++ List.replicate exponent.toNat '0') ++ ".0"
  else
    let places := exponent.natAbs
    let padded := List.replicate (places + 1 - digits.length) '0' ++ digits
    let whole := padded.length - places
    String.ofList (padded.take whole) ++ "." ++ String.ofList (padded.drop whole)

/-- The text of a positive decimal. It is positional when its first digit stands for a power of ten from
the minus fifth to the fifteenth. -/
def text (format : Notation) (d : Decimal) : String :=
  let digits := Nat.toDigits 10 d.digits
  let power : Int := d.exponent + digits.length - 1
  if -5 ≤ power ∧ power < 16 then positional digits d.exponent
  else scientific format.exponentSign digits power

end Decimal

/-- The text of a floating-point number in a format. -/
def Binary64.text (format : Decimal.Notation) (x : Binary64) : String :=
  if x.isNaN then format.notANumber
  else if x.isInfinite then
    if x.isNegative then format.negativeInfinity else format.positiveInfinity
  else
    let magnitude := if x.isZero then "0.0" else (Decimal.shortest x).text format
    if x.isNegative then "-" ++ magnitude else magnitude

end ConfigKit
