import Montage.Text.CharSet

/-! The decimal digits of all scripts. -/

namespace Montage

/-- Decimal digits. Each script has its ten in order, so a run holds one or more tens. -/
def digitChars : CharSet where
  runs := [
    48, 10, 1574, 10, 134, 10, 198, 10, 412, 10, 118, 10, 118, 10, 118, 10, 118, 10, 118,
    10, 118, 10, 118, 10, 118, 10, 118, 10, 96, 10, 118, 10, 70, 10, 278, 10, 70, 10, 1862,
    10, 38, 10, 300, 10, 128, 10, 166, 10, 6, 10, 182, 10, 86, 10, 134, 10, 6, 10, 35270,
    10, 678, 10, 38, 10, 198, 10, 22, 10, 86, 10, 406, 10, 21270, 10, 1414, 10, 2182, 10,
    812, 10, 128, 10, 60, 10, 144, 10, 278, 10, 342, 10, 118, 10, 374, 10, 102, 10, 102, 10,
    422, 10, 102, 10, 758, 10, 246, 10, 70, 10, 19638, 10, 86, 10, 134, 10, 27764, 50, 2368,
    10, 422, 10, 1622, 10, 4758, 10]

def digitValue? (char : Char) : Option Nat :=
  (digitChars.offset? char).map (· % 10)

example : digitValue? '7' = some 7 ∧ digitValue? '٣' = some 3 ∧ digitValue? 'x' = none := by
  decide +kernel

end Montage
