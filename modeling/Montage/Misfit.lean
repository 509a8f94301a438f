/-! Values that do not fit where they stand. -/

namespace Montage

inductive Misfit where
  | wrongKind
  | noFields
  | notAPair
  /-- A text or an undefined number stands where an integer is needed. -/
  | notANumeral
  /-- An infinite number has no integer, or an integer is beyond the greatest double. -/
  | unbounded
  | noSuchMoment
  | notADate
  | noCharacters
  | notATruth
  | noSuchCharacter
  /-- An integer is to be written that has more than `mostIntegerDigits` digits. -/
  | tooManyDigits
  deriving DecidableEq, Repr

end Montage
