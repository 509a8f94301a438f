import Montage.Number.Binary64
import Montage.Text.Blank
import Montage.Text.Digit

/-! Numbers read from text: integers and doubles in decimal, with digits of any script,
single underscores between digits, and blanks around. -/

namespace Montage

/-- A numeral in ASCII: digits of other scripts by their value, other blanks as spaces.
What stands for nothing in a numeral becomes a question mark. -/
def plainNumeralChar (char : Char) : Char :=
  if char.toNat < 127 then char
  else if isBlank char then ' '
  else match digitValue? char with
    | some value => Nat.digitChar value
    | none => '?'

def numeralBody (text : List Char) : List Char :=
  let plain := text.map plainNumeralChar
  ((plain.dropWhile isAsciiBlank).reverse.dropWhile isAsciiBlank).reverse

def takeDigits (afterDigit : Bool) : List Char → List Char × List Char
  | [] => ([], [])
  | char :: rest =>
      if char.isDigit then
        let (digits, after) := takeDigits true rest
        (char :: digits, after)
      else if afterDigit && char == '_' && rest.head?.any Char.isDigit then
        takeDigits false rest
      else ([], char :: rest)

example : takeDigits false ['1', '_', '2', '_', '_', '3'] =
    (['1', '2'], ['_', '_', '3']) := by decide

def naturalOfDigits (digits : List Char) : Nat :=
  digits.foldl (fun number digit => 10 * number + (digit.toNat - '0'.toNat)) 0

def takeSign : List Char → Bool × List Char
  | '-' :: rest => (true, rest)
  | '+' :: rest => (false, rest)
  | chars => (false, chars)

def readInteger? (text : List Char) : Option Int :=
  let (negative, body) := takeSign (numeralBody text)
  match takeDigits false body with
  | ([], _) => none
  | (digits, []) =>
      if mostIntegerDigits < digits.length then none
      else
        let magnitude : Int := naturalOfDigits digits
        some (if negative then -magnitude else magnitude)
  | _ => none

example : readInteger? " -1_0\n".toList = some (-10) := by decide +kernel
example : readInteger? "1__0".toList = none := by decide +kernel

def floatOfDecimal (negative : Bool) (number : Nat) (power : Int) : Float :=
  let decade := power + digitCount number
  if number = 0 || decade < -400 then Float.ofBits (UInt64.ofNat (if negative then twoTo 63 else 0))
  else if 400 < decade then Binary64.infinity negative
  else
    (Binary64.nearest? negative (number * tenTo power.toNat) (tenTo (-power).toNat)).getD
      (Binary64.infinity negative)

def readPower? : List Char → Option Int
  | [] => some 0
  | mark :: rest =>
      if mark = 'e' || mark = 'E' then
        let (negative, body) := takeSign rest
        match takeDigits false body with
        | ([], _) => none
        | (digits, []) =>
            let magnitude : Int := naturalOfDigits digits
            some (if negative then -magnitude else magnitude)
        | _ => none
      else none

def readFloat? (text : List Char) : Option Float :=
  let (negative, body) := takeSign (numeralBody text)
  let name := String.ofList (body.map Char.toLower)
  if name = "inf" || name = "infinity" then some (Binary64.infinity negative)
  else if name = "nan" then some Binary64.nan
  else
    let (whole, afterWhole) := takeDigits false body
    let (fraction, afterFraction) := match afterWhole with
      | '.' :: rest => takeDigits false rest
      | rest => ([], rest)
    if whole.isEmpty && fraction.isEmpty then none
    else
      (readPower? afterFraction).map fun power =>
        floatOfDecimal negative (naturalOfDigits (whole ++ fraction)) (power - fraction.length)

end Montage
