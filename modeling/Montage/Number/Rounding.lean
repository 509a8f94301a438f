/-! Rounding a quotient of naturals to a whole number. -/

namespace Montage

def nearestEven (numerator denominator : Nat) : Nat :=
  let quotient := numerator / denominator
  let twice := 2 * (numerator % denominator)
  if twice < denominator then quotient
  else if denominator < twice then quotient + 1
  else quotient + quotient % 2

example : nearestEven 5 2 = 2 ∧ nearestEven 7 2 = 4 ∧ nearestEven 8 3 = 3 := by decide

def decimalDigits (number : Nat) : List Char :=
  Nat.toDigits 10 number

def digitCount (number : Nat) : Nat :=
  (decimalDigits number).length

example : decimalDigits 1024 = ['1', '0', '2', '4'] ∧ digitCount 0 = 1 := by decide

def paddedDigits (width number : Nat) : List Char :=
  let digits := decimalDigits number
  List.replicate (width - digits.length) '0' ++ digits

example : paddedDigits 3 7 = ['0', '0', '7'] ∧ paddedDigits 3 1234 = ['1', '2', '3', '4'] := by
  decide

def integerText (number : Int) : String :=
  String.ofList ((if number < 0 then ['-'] else []) ++ decimalDigits number.natAbs)

/-- The most decimal digits of an integer that is read from a text or written into one. -/
def mostIntegerDigits : Nat := 4300

def hasFewDigits (number : Int) : Bool :=
  digitCount number.natAbs ≤ mostIntegerDigits

end Montage
