import Montage.Number.Rounding

/-! Days and moments, as documents hold them. -/

namespace Montage

structure Day where
  year : Nat
  month : Nat
  day : Nat
  deriving DecidableEq, Repr

structure Moment where
  day : Day
  hour : Nat
  minute : Nat
  second : Nat
  microsecond : Nat
  ahead : Option Int
  deriving DecidableEq, Repr

namespace Day

def isLeapYear (year : Nat) : Bool :=
  year % 4 == 0 && (year % 100 != 0 || year % 400 == 0)

def daysInMonth (year month : Nat) : Nat :=
  if month = 2 then if isLeapYear year then 29 else 28
  else if [4, 6, 9, 11].contains month then 30 else 31

def exists? (day : Day) : Bool :=
  1 ≤ day.year && day.year ≤ 9999 && 1 ≤ day.month && day.month ≤ 12 &&
    1 ≤ day.day && day.day ≤ daysInMonth day.year day.month

example : (Day.mk 2024 2 29).exists? ∧ ¬ (Day.mk 1900 2 29).exists? := by decide

private def padded (width number : Nat) : String :=
  String.ofList (paddedDigits width number)

def text (day : Day) : String :=
  padded 4 day.year ++ "-" ++ padded 2 day.month ++ "-" ++ padded 2 day.day

def literal (day : Day) : String :=
  s!"datetime.date({day.year}, {day.month}, {day.day})"

end Day

namespace Moment

def exists? (moment : Moment) : Bool :=
  moment.day.exists? && moment.hour < 24 && moment.minute < 60 && moment.second < 60 &&
    moment.ahead.all fun seconds => seconds.natAbs < 86400

private def padded2 (number : Nat) : String :=
  String.ofList (paddedDigits 2 number)

def aheadText (seconds : Int) : String :=
  let sign := if seconds < 0 then "-" else "+"
  let minutes := seconds.natAbs / 60
  sign ++ padded2 (minutes / 60) ++ ":" ++ padded2 (minutes % 60)

def text (moment : Moment) : String :=
  let fraction := if moment.microsecond = 0 then ""
    else "." ++ String.ofList (paddedDigits 6 moment.microsecond)
  moment.day.text ++ " " ++ padded2 moment.hour ++ ":" ++ padded2 moment.minute ++ ":" ++
    padded2 moment.second ++ fraction ++ (moment.ahead.map aheadText).getD ""

/-- The parts of a clock's lead, as a message names them: whole days toward the past and
the seconds left. -/
def aheadLiteral (seconds : Int) : String :=
  if seconds = 0 then "datetime.timezone.utc"
  else
    let days := Int.fdiv seconds 86400
    let left := seconds - days * 86400
    let parts := (if days = 0 then [] else ["days=" ++ integerText days]) ++
      (if left = 0 then [] else ["seconds=" ++ integerText left])
    "datetime.timezone(datetime.timedelta(" ++ ", ".intercalate parts ++ "))"

def literal (moment : Moment) : String :=
  let small :=
    if moment.microsecond ≠ 0 then [moment.second, moment.microsecond]
    else if moment.second ≠ 0 then [moment.second]
    else []
  let numbers := [moment.day.year, moment.day.month, moment.day.day, moment.hour,
    moment.minute] ++ small
  let parts := numbers.map (fun (number : Nat) => integerText number) ++
    (moment.ahead.map fun seconds => "tzinfo=" ++ aheadLiteral seconds).toList
  "datetime.datetime(" ++ ", ".intercalate parts ++ ")"

end Moment

end Montage
