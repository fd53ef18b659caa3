-- SUMMARY: Reading decimal text as the nearest floating-point number.
import ConfigKit.Number.Binary64

/-!
# Reading decimal text

`Binary64.ofText?` reads a decimal: a sign, digits with a point before, among or after them, and a power
of ten. At least one digit is needed on one side of the point. The result is the nearest number, which
may be infinity.
-/

namespace ConfigKit

namespace Decimal

def isDigit (c : Char) : Bool := '0' ≤ c && c ≤ '9'

def natOfDigits (digits : List Char) : Nat :=
  digits.foldl (fun n c => n * 10 + (c.toNat - '0'.toNat)) 0

/-- Reads an optional sign, and tells whether it is minus. -/
def readSign : List Char → Bool × List Char
  | '+' :: rest => (false, rest)
  | '-' :: rest => (true, rest)
  | cs => (false, cs)

/-- Reads the power of ten at the end of a decimal. -/
def readPower? : List Char → Option Int
  | [] => some 0
  | c :: rest =>
    if c = 'e' ∨ c = 'E' then
      let (negative, digits) := readSign rest
      if digits.isEmpty ∨ !digits.all isDigit then none
      else
        let n : Int := natOfDigits digits
        some (if negative then -n else n)
    else none

end Decimal

open Decimal in
/-- The number that a decimal text spells. -/
def Binary64.ofChars? (cs : List Char) : Option Binary64 := do
  let (negative, cs) := readSign cs
  let whole := cs.takeWhile isDigit
  let (fraction, cs) :=
    match cs.dropWhile isDigit with
    | '.' :: rest => (rest.takeWhile isDigit, rest.dropWhile isDigit)
    | rest => ([], rest)
  guard (!(whole.isEmpty && fraction.isEmpty))
  let power ← readPower? cs
  some (.ofDecimal negative (natOfDigits (whole ++ fraction)) (power - fraction.length))

def Binary64.ofText? (text : String) : Option Binary64 :=
  Binary64.ofChars? text.toList

end ConfigKit
