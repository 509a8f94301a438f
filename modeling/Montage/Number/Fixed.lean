import Montage.Number.Binary64

/-! Decimal texts with a fixed number of places, and the thousandths that ffmpeg
arguments are written in. Both round to the nearest, a half to the even neighbour. -/

namespace Montage

def fixedDigits (places numerator denominator : Nat) : List Char :=
  let units := nearestEven (numerator * tenTo places) denominator
  decimalDigits (units / tenTo places) ++ '.' :: paddedDigits places (units % tenTo places)

example : String.ofList (fixedDigits 1 49 4) = "12.2" := by decide

def fixedText (places : Nat) (number : Float) : String :=
  match Binary64.ofFloat number with
  | .undefined => "nan"
  | .infinite negative => if negative then "-inf" else "inf"
  | .finite negative significand exponent =>
      let (numerator, denominator) := Binary64.ratio significand exponent
      String.ofList <|
        (if negative then ['-'] else []) ++ fixedDigits places numerator denominator

/-! ## Thousandths -/

def thousandthsFraction (thousandths : Nat) : List Char :=
  if thousandths = 0 then []
  else '.' :: ((paddedDigits 3 thousandths).reverse.dropWhile (· == '0')).reverse

def thousandthsDigits (negative : Bool) (thousandths : Nat) : List Char :=
  (if negative && thousandths != 0 then ['-'] else []) ++
    decimalDigits (thousandths / 1000) ++ thousandthsFraction (thousandths % 1000)

example : String.ofList (thousandthsDigits true 1250) = "-1.25" := by decide
example : String.ofList (thousandthsDigits false 100000) = "100" := by decide
example : String.ofList (thousandthsDigits true 0) = "0" := by decide

def thousandthsText (number : Float) : String :=
  match Binary64.ofFloat number with
  | .undefined => "nan"
  | .infinite negative => if negative then "-inf" else "inf"
  | .finite negative significand exponent =>
      let (numerator, denominator) := Binary64.ratio significand exponent
      String.ofList (thousandthsDigits negative (nearestEven (numerator * 1000) denominator))

end Montage
