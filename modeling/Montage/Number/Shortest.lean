import Montage.Number.Binary64

/-! The text of a double with the fewest digits that read back as the same double. -/

namespace Montage

/-- The reals that round to a positive double, in quarters of its last place: from
`low` to `high`, the double itself at `middle`. The ends belong to it when its
significand is even. A quarter is `quarterNumerator / quarterDenominator`. -/
structure RoundingInterval where
  low : Nat
  middle : Nat
  high : Nat
  closed : Bool
  quarterNumerator : Nat
  quarterDenominator : Nat

namespace RoundingInterval

/-- Below a power of two the neighbours are twice as dense, so the interval reaches
only half as far down. -/
def ofSignificand (significand : Nat) (exponent : Int) : RoundingInterval :=
  let (quarterNumerator, quarterDenominator) := Binary64.ratio 1 (exponent - 2)
  let atPower := significand == twoTo 52 && exponent != Binary64.leastExponent
  { low := 4 * significand - if atPower then 1 else 2
    middle := 4 * significand
    high := 4 * significand + 2
    closed := significand % 2 == 0
    quarterNumerator
    quarterDenominator }

def decade (interval : RoundingInterval) : Int :=
  let numerator := interval.middle * interval.quarterNumerator
  let denominator := interval.quarterDenominator
  if denominator ≤ numerator then (digitCount (numerator / denominator) : Int) - 1
  else -(digitCount ((denominator - 1) / numerator) : Int)

/-- The multiple of `10 ^ power` inside the interval nearest to the double: of the two
neighbours on that grid the one inside, of two inside the nearer, of two as near the
even one. -/
def onGrid? (interval : RoundingInterval) (power : Int) : Option Nat :=
  let quarter := interval.quarterNumerator * tenTo (-power).toNat
  let step := interval.quarterDenominator * tenTo power.toNat
  let inside (count : Nat) : Bool :=
    if interval.closed then
      interval.low * quarter ≤ count * step && count * step ≤ interval.high * quarter
    else
      interval.low * quarter < count * step && count * step < interval.high * quarter
  let middle := interval.middle * quarter
  let lower := middle / step
  let upper := lower + 1
  let downward := middle - lower * step
  let upward := upper * step - middle
  match inside lower, inside upper with
  | false, false => none
  | true, false => some lower
  | false, true => some upper
  | true, true =>
      if downward < upward then some lower
      else if upward < downward then some upper
      else some (lower + lower % 2)

/-- The digits and the power of ten of the first grid with a hit, from one digit to
seventeen. Seventeen digits tell all doubles apart, so the search does not fail. -/
def shortest (interval : RoundingInterval) : Nat × Int :=
  let decade := interval.decade
  let grids := (List.range 17).map fun (more : Nat) => decade - more
  (grids.findSome? fun power => (interval.onGrid? power).map (·, power)).getD (0, 0)

end RoundingInterval

def dropZeros (digits : List Char) (power : Int) : List Char × Int :=
  let kept := (digits.reverse.dropWhile (· == '0')).reverse
  (kept, power + (digits.length - kept.length : Nat))

/-- Digits with a point, or with an exponent of at least two digits when the first
digit stands for less than `10 ^ -4` or for `10 ^ 16` or more. -/
def pointedDigits (digits : List Char) (power : Int) : List Char :=
  let leading := power + digits.length - 1
  if leading < -4 ∨ 16 ≤ leading then
    let sign := if leading < 0 then '-' else '+'
    let fraction := match digits.tail with
      | [] => []
      | more => '.' :: more
    digits.take 1 ++ fraction ++ 'e' :: sign :: paddedDigits 2 leading.natAbs
  else if leading < 0 then
    '0' :: '.' :: List.replicate (-leading - 1).toNat '0' ++ digits
  else if 0 ≤ power then
    digits ++ List.replicate power.toNat '0' ++ ['.', '0']
  else
    digits.take (leading + 1).toNat ++ '.' :: digits.drop (leading + 1).toNat

example : String.ofList (pointedDigits ['1', '2', '5'] (-2)) = "1.25" := by decide
example : String.ofList (pointedDigits ['5'] 0) = "5.0" := by decide
example : String.ofList (pointedDigits ['1'] 16) = "1e+16" := by decide
example : String.ofList (pointedDigits ['1', '5'] (-8)) = "1.5e-07" := by decide

def shortestText (number : Float) : String :=
  match Binary64.ofFloat number with
  | .undefined => "nan"
  | .infinite negative => if negative then "-inf" else "inf"
  | .finite negative significand exponent =>
      let sign := if negative then ['-'] else []
      if significand = 0 then String.ofList (sign ++ ['0', '.', '0'])
      else
        let (digits, power) := (RoundingInterval.ofSignificand significand exponent).shortest
        let (kept, lifted) := dropZeros (decimalDigits digits) power
        String.ofList (sign ++ pointedDigits kept lifted)

end Montage
