import Montage.Number.Power
import Montage.Number.Rounding

/-! Decimal texts: what digits they have, and that numbers can be read back from them. -/

namespace Montage

theorem toDigits_injective : Function.Injective (Nat.toDigits 10) := by
  intro first second equal
  rw [← Nat.ofDigitChars_ten_toDigits (n := first), equal, Nat.ofDigitChars_ten_toDigits]

theorem isDigit_of_mem_toDigits {number : Nat} {char : Char}
    (member : char ∈ Nat.toDigits 10 number) : char.isDigit = true :=
  Nat.isDigit_of_mem_toDigits (by decide) (by decide) member

theorem integerText_toList_of_nonneg {number : Int} (nonneg : 0 ≤ number) :
    (integerText number).toList = Nat.toDigits 10 number.natAbs := by
  simp [integerText, decimalDigits, Int.not_lt.mpr nonneg]

theorem integerText_natCast_toList (number : Nat) :
    (integerText number).toList = Nat.toDigits 10 number :=
  integerText_toList_of_nonneg (Int.natCast_nonneg number)

/-! ## Few digits -/

theorem tenTo_pos (exponent : Nat) : 0 < tenTo exponent :=
  Nat.pow_pos (by decide)

theorem length_toDigits_le_iff {number width : Nat} (positive : 0 < width) :
    (Nat.toDigits 10 number).length ≤ width ↔ number < tenTo width :=
  Nat.length_toDigits_le_iff (by decide) positive

theorem hasFewDigits_iff {number : Int} :
    hasFewDigits number = true ↔ number.natAbs < tenTo mostIntegerDigits :=
  decide_eq_true_iff.trans (length_toDigits_le_iff (by decide))

/-- A number that is no greater has no more digits. -/
theorem hasFewDigits_of_natAbs_le {number greater : Int} (few : hasFewDigits greater = true)
    (atMost : number.natAbs ≤ greater.natAbs) : hasFewDigits number = true :=
  hasFewDigits_iff.mpr (Nat.lt_of_le_of_lt atMost (hasFewDigits_iff.mp few))

theorem hasFewDigits_neg (number : Int) : hasFewDigits (-number) = hasFewDigits number := by
  simp only [hasFewDigits, Int.natAbs_neg]

/-- The least number above zero that has too many digits. -/
@[irreducible] def overlong : Int :=
  tenTo mostIntegerDigits

theorem overlong_pos : 0 < overlong := by
  unfold overlong
  exact Int.natCast_pos.mpr (tenTo_pos mostIntegerDigits)

theorem not_nonneg_neg_overlong : ¬ 0 ≤ -overlong := by
  have above := overlong_pos
  omega

theorem not_hasFewDigits_overlong : hasFewDigits overlong = false := by
  rw [← Bool.not_eq_true, hasFewDigits_iff, overlong, Int.natAbs_natCast]
  exact Nat.lt_irrefl _

/-! ## Zeros in front -/

theorem ofDigitChars_paddedDigits (width number : Nat) :
    Nat.ofDigitChars 10 (paddedDigits width number) 0 = number := by
  simp only [paddedDigits, decimalDigits, Nat.ofDigitChars_append,
    Nat.ofDigitChars_replicate_zero, Nat.mul_zero, Nat.ofDigitChars_ten_toDigits]

theorem paddedDigits_injective {width first second : Nat}
    (equal : paddedDigits width first = paddedDigits width second) : first = second := by
  rw [← ofDigitChars_paddedDigits width first, equal, ofDigitChars_paddedDigits]

theorem isDigit_of_mem_paddedDigits {width number : Nat} {char : Char}
    (member : char ∈ paddedDigits width number) : char.isDigit = true := by
  rcases List.mem_append.mp member with member | member
  · rw [List.eq_of_mem_replicate member]
    rfl
  · exact isDigit_of_mem_toDigits member

theorem length_paddedDigits (width number : Nat) : width ≤ (paddedDigits width number).length := by
  simp only [paddedDigits, List.length_append, List.length_replicate]
  omega

end Montage
