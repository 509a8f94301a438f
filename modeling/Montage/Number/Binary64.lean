import Montage.Number.Power
import Montage.Number.Rounding

/-! Doubles as exact numbers: what a `Float` denotes, and the `Float` nearest to a
quotient. -/

namespace Montage

/-- What the 64 bits of a double denote. A finite one is
`± significand * 2 ^ exponent`. -/
inductive Binary64 where
  | finite (negative : Bool) (significand : Nat) (exponent : Int)
  | infinite (negative : Bool)
  | undefined

namespace Binary64

def leastExponent : Int := -1074

def ofBits (bits : Nat) : Binary64 :=
  let negative := bits / twoTo 63 % 2 == 1
  let field := bits / twoTo 52 % twoTo 11
  let fraction := bits % twoTo 52
  if field = 2047 then
    if fraction = 0 then .infinite negative else .undefined
  else if field = 0 then .finite negative fraction leastExponent
  else .finite negative (twoTo 52 + fraction) (leastExponent + (field - 1 : Nat))

def ofFloat (number : Float) : Binary64 :=
  ofBits number.toBits.toNat

example : ofBits 0x3FF8000000000000 matches .finite false 0x18000000000000 (-52) := by decide

def ratio (significand : Nat) (exponent : Int) : Nat × Nat :=
  (significand * twoTo exponent.toNat, twoTo (-exponent).toNat)

example : ratio 3 2 = (12, 1) ∧ ratio 3 (-2) = (3, 4) := by decide

/-- The bits of the double nearest to `numerator / denominator`, a half to the even
neighbour; `none` beyond the greatest double. With the exponent chosen so that the
rounded significand has 53 bits, or the least one, significand and exponent add up to
the bits: a carry out of the fraction is the step to the next exponent. -/
def nearestBits? (numerator denominator : Nat) : Option Nat :=
  let scaled (exponent : Int) : Nat × Nat :=
    (numerator * twoTo (-exponent).toNat, denominator * twoTo exponent.toNat)
  let guess := if numerator = 0 then leastExponent
    else max ((numerator.log2 : Int) - denominator.log2 - 53) leastExponent
  let below := scaled guess
  let exponent := if twoTo 53 ≤ below.1 / below.2 then guess + 1 else guess
  let (scaledNumerator, scaledDenominator) := scaled exponent
  let bits := (exponent - leastExponent).toNat * twoTo 52 +
    nearestEven scaledNumerator scaledDenominator
  if bits < 2047 * twoTo 52 then some bits else none

/-- One, one tenth, the least double and a number beyond the greatest. -/
example : nearestBits? 1 1 = some 0x3FF0000000000000 ∧
    nearestBits? 1 10 = some 0x3FB999999999999A ∧
    nearestBits? 1 (twoTo 1074) = some 1 ∧ nearestBits? 0 7 = some 0 ∧
    nearestBits? (twoTo 1024) 1 = none := by
  decide +kernel

def nearest? (negative : Bool) (numerator denominator : Nat) : Option Float :=
  (nearestBits? numerator denominator).map fun bits =>
    Float.ofBits (UInt64.ofNat (bits + if negative then twoTo 63 else 0))

def ofInt? (number : Int) : Option Float :=
  nearest? (number < 0) number.natAbs 1

def infinity (negative : Bool) : Float :=
  Float.ofBits (UInt64.ofNat (2047 * twoTo 52 + if negative then twoTo 63 else 0))

def nan : Float :=
  Float.ofBits 0x7FF8000000000000

def truncated (negative : Bool) (significand : Nat) (exponent : Int) : Int :=
  let (numerator, denominator) := ratio significand exponent
  let whole : Int := (numerator / denominator : Nat)
  if negative then -whole else whole

example : truncated true 5 (-1) = -2 ∧ truncated false 3 1 = 6 := by decide

end Binary64

end Montage
