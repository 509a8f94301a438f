import Montage.Document.Value

/-! Days and moments as documents write them. -/

namespace Montage.Document

def twoDigits? (tens ones : Char) : Option Nat :=
  if tens.isDigit && ones.isDigit then some (naturalOfDigits [tens, ones]) else none

def takeTwo? : List Char → Option (Nat × List Char)
  | tens :: ones :: rest => (twoDigits? tens ones).map (·, rest)
  | _ => none

def takeShort? (text : List Char) : Option (Nat × List Char) :=
  match takeTwo? text, text with
  | some taken, _ => some taken
  | none, ones :: rest => if ones.isDigit then some (naturalOfDigits [ones], rest) else none
  | none, [] => none

def after? (mark : Char) (text : List Char) : Option (List Char) :=
  if text.head? = some mark then some text.tail else none

def afterDay? (text : List Char) : Option (List Char) :=
  let isBlank (char : Char) := char = ' ' || char = '\t'
  match text with
  | first :: rest =>
      if first = 'T' || first = 't' then some rest
      else if isBlank first then some (rest.dropWhile isBlank)
      else none
  | [] => none

def readDay? (text : List Char) : Option (Day × List Char) := do
  let (century, rest) ← takeTwo? text
  let (year, rest) ← takeTwo? rest
  let (month, rest) ← takeShort? (← after? '-' rest)
  let (day, rest) ← takeShort? (← after? '-' rest)
  return (⟨100 * century + year, month, day⟩, rest)

def millionths (digits : List Char) : Nat :=
  naturalOfDigits (digits.take 6 ++ List.replicate (6 - digits.length) '0')

def readAhead? (text : List Char) : Option (Option Int) :=
  if text.isEmpty then some none
  else
    match text.dropWhile fun char => char = ' ' || char = '\t' with
    | ['Z'] => some (some 0)
    | sign :: rest => do
        if sign ≠ '+' ∧ sign ≠ '-' then none
        let (hours, rest) ← takeShort? rest
        let minutes ← if rest.isEmpty then some 0 else do
          let (minutes, rest) ← takeTwo? (← after? ':' rest)
          if rest.isEmpty then some minutes else none
        let seconds : Int := hours * 3600 + minutes * 60
        return some (if sign = '-' then -seconds else seconds)
    | [] => none

def readMoment? (day : Day) (text : List Char) : Option Moment := do
  let (hour, rest) ← takeShort? (← afterDay? text)
  let (minute, rest) ← takeTwo? (← after? ':' rest)
  let (second, rest) ← takeTwo? (← after? ':' rest)
  let fraction := after? '.' rest
  let digits := (fraction.getD []).takeWhile Char.isDigit
  let ahead ← readAhead? ((fraction.getD rest).drop digits.length)
  return ⟨day, hour, minute, second, millionths digits, ahead⟩

def readDate? (text : List Char) : Option Value := do
  let (day, rest) ← readDay? text
  if rest.isEmpty then return .day day
  else return .moment (← readMoment? day rest)

/-- Whether a text is a date where nothing says so. A day without a time then has two
digits for its month and its day. -/
def spellsMoment (text : List Char) : Bool :=
  match readDate? text with
  | some (.moment _) => true
  | some (.day _) => text.length == 10
  | _ => false

example : spellsMoment "2024-1-2 3:04:05.5 -1:30".toList ∧ ¬ spellsMoment "2024-1-2".toList := by
  decide +kernel

def existing? : Value → Option Value
  | .day day => if day.exists? then some (.day day) else none
  | .moment moment => if moment.exists? then some (.moment moment) else none
  | _ => none

end Montage.Document
