-- SUMMARY: Numbers of documents: integers that are kept exactly, and floating-point numbers.
import ConfigKit.Number.Decimal

/-!
# Numbers of documents

A number of a document is an integer, kept exactly, or a floating-point number. The two never compare
equal: `1` and `1.0` are different numbers.
-/

namespace ConfigKit

/-- An integer or a floating-point number. -/
inductive Number where
  | int (value : Int)
  | float (value : Binary64)
  deriving DecidableEq

namespace Number

/-- Integers that a document can hold: the signed and the unsigned ones of 64 bits. -/
def minInt : Int := -(Nat.pow 2 63 : Nat)
def maxInt : Int := (Nat.pow 2 64 : Nat) - 1

/-- Equality of values: floating-point numbers by `Binary64.sameValue`. -/
def sameValue : Number → Number → Bool
  | .int a, .int b => a == b
  | .float a, .float b => a.sameValue b
  | _, _ => false

end Number

end ConfigKit
