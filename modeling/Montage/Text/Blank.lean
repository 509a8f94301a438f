import Montage.Text.CharSet

/-! Blank characters. -/

namespace Montage

def blankChars : CharSet where
  runs := [
    9, 5, 14, 5, 100, 1, 26, 1, 5599, 1, 2431, 11, 29, 2, 5, 1, 47, 1, 4000, 1]

def isBlank (char : Char) : Bool :=
  blankChars.contains char

def isAsciiBlank (char : Char) : Bool :=
  char = ' ' || ('\t' ≤ char && char ≤ '\r')

example : isBlank '\u00a0' ∧ isBlank ' ' ∧ ¬ isBlank 'x' ∧ isAsciiBlank '\n' := by
  decide +kernel

end Montage
