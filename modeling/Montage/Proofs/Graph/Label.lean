import Montage.Graph.Builder
import Montage.Proofs.Number.Decimal

/-! The labels that a graph is built with: those of inputs, those that were drawn, and the
one of the video are all different, and all of them can be written. -/

namespace Montage

theorem drawnLabel_toList (number : Nat) :
    (drawnLabel number).toList = 'o' :: 'u' :: 't' :: Nat.toDigits 10 number := by
  simp [drawnLabel, integerText_natCast_toList]

theorem inputLabel_toList (index : Nat) :
    (inputLabel index).toList = Nat.toDigits 10 index ++ [':', 'v'] := by
  simp [inputLabel, integerText_natCast_toList]

/-! ## Labels differ -/

theorem drawnLabel_injective : Function.Injective drawnLabel := by
  intro first second equal
  apply toDigits_injective
  simpa [drawnLabel_toList] using congrArg String.toList equal

theorem inputLabel_injective : Function.Injective inputLabel := by
  intro first second equal
  apply toDigits_injective
  simpa [inputLabel_toList] using congrArg String.toList equal

theorem colon_mem_inputLabel (index : Nat) : ':' ∈ (inputLabel index).toList := by
  simp [inputLabel_toList]

theorem colon_not_mem_drawnLabel (number : Nat) : ':' ∉ (drawnLabel number).toList := by
  rw [drawnLabel_toList]
  intro member
  have digit : ':' ∈ Nat.toDigits 10 number := by simpa using member
  have isDigit := isDigit_of_mem_toDigits digit
  exact absurd isDigit (by decide)

theorem inputLabel_ne_drawnLabel (index number : Nat) :
    inputLabel index ≠ drawnLabel number := by
  intro equal
  exact colon_not_mem_drawnLabel number (equal ▸ colon_mem_inputLabel index)

theorem inputLabel_ne_videoLabel (index : Nat) : inputLabel index ≠ videoLabel := by
  intro equal
  have member := colon_mem_inputLabel index
  rw [equal] at member
  exact absurd member (by decide)

theorem drawnLabel_ne_videoLabel (number : Nat) : drawnLabel number ≠ videoLabel := by
  intro equal
  have texts := congrArg String.toList equal
  rw [drawnLabel_toList] at texts
  exact absurd (List.cons.inj texts).1 (by decide)

/-! ## Labels can be written -/

theorem isLabelChar_of_isDigit {char : Char} (digit : char.isDigit = true) :
    isLabelChar char = true := by
  simp [isLabelChar, Char.isAlphanum, digit]

theorem isLabel_of_all {label : List Char} (given : label ≠ [])
    (chars : ∀ char ∈ label, isLabelChar char = true) : isLabel label = true := by
  have lastIsNoLineFeed : label.getLast? ≠ some '\n' := by
    intro last
    exact absurd (chars '\n' (List.mem_of_getLast? last)) (by decide)
  simp only [isLabel, lastIsNoLineFeed, if_false, Bool.and_eq_true, List.all_eq_true]
  exact ⟨by simpa using given, chars⟩

theorem isLabelChar_of_mem_toDigits {number : Nat} {char : Char}
    (member : char ∈ Nat.toDigits 10 number) : isLabelChar char = true :=
  isLabelChar_of_isDigit (isDigit_of_mem_toDigits member)

theorem isLabel_drawnLabel (number : Nat) : isLabel (drawnLabel number).toList = true := by
  rw [drawnLabel_toList]
  apply isLabel_of_all (by simp)
  intro char member
  simp only [List.mem_cons] at member
  rcases member with rfl | rfl | rfl | member
  · decide
  · decide
  · decide
  · exact isLabelChar_of_mem_toDigits member

theorem isLabel_inputLabel (index : Nat) : isLabel (inputLabel index).toList = true := by
  rw [inputLabel_toList]
  apply isLabel_of_all (by simp)
  intro char member
  simp only [List.mem_append, List.mem_cons, List.not_mem_nil, or_false] at member
  rcases member with member | rfl | rfl
  · exact isLabelChar_of_mem_toDigits member
  · decide
  · decide

theorem isLabel_videoLabel : isLabel videoLabel.toList = true := by decide

end Montage
