import Mathlib.Algebra.Order.Field.Basic
import Mathlib.Algebra.Order.Field.Rat
import Mathlib.Algebra.Order.Monoid.Unbundled.WithTop
import Mathlib.Tactic.Linarith
import Mathlib.Tactic.NormNum
import Mathlib.Tactic.Ring
import Montage.Number.Fixed
import Montage.Proofs.Number.Numeral

/-! Numbers as arguments of ffmpeg hold them. Their texts are read back, and what they denote is
the double they were made from, rounded to thousandths. -/

namespace Montage

/-! ## Reading -/

def fractionOf? : List Char → Option ℚ
  | [] => some 0
  | '.' :: digits => (naturalOf? digits).map fun (number : Nat) => (number : ℚ) / 10 ^ digits.length
  | _ => none

def unsignedOf? (text : List Char) : Option ℚ := do
  let whole ← naturalOf? (text.takeWhile Char.isDigit)
  let fraction ← fractionOf? (text.dropWhile Char.isDigit)
  return whole + fraction

def secondsOf? : List Char → Option (WithTop ℚ)
  | ['i', 'n', 'f'] => some ⊤
  | '-' :: digits => (unsignedOf? digits).map fun (number : ℚ) => ((-number : ℚ) : WithTop ℚ)
  | digits => (unsignedOf? digits).map fun (number : ℚ) => (number : WithTop ℚ)

example : secondsOf? "-1.25".toList = some ((-5 / 4 : ℚ) : WithTop ℚ) := by decide +kernel

theorem isDigit_of_naturalOf? {digits : List Char} {number : Nat}
    (read : naturalOf? digits = some number) : ∀ char ∈ digits, char.isDigit = true := by
  unfold naturalOf? at read
  split at read
  · rename_i given
    exact List.all_eq_true.mp given.2
  · cases read

theorem isDigit_or_point_of_unsignedOf? {text : List Char} {number : ℚ}
    (read : unsignedOf? text = some number) :
    ∀ char ∈ text, char.isDigit = true ∨ char = '.' := by
  rcases Option.bind_eq_some_iff.mp read with ⟨whole, _, read⟩
  rcases Option.bind_eq_some_iff.mp read with ⟨fraction, fractionRead, _⟩
  intro char member
  rw [← List.takeWhile_append_dropWhile (p := Char.isDigit) (l := text), List.mem_append] at member
  rcases member with member | member
  · exact .inl (List.all_eq_true.mp List.all_takeWhile char member)
  · generalize text.dropWhile Char.isDigit = rest at fractionRead member
    unfold fractionOf? at fractionRead
    split at fractionRead
    · cases member
    · rcases Option.map_eq_some_iff.mp fractionRead with ⟨digits, digitsRead, _⟩
      rcases List.mem_cons.mp member with isPoint | member
      · exact .inr isPoint
      · exact .inl (isDigit_of_naturalOf? digitsRead char member)
    · cases fractionRead

/-- No bracket is in a text that denotes a number of seconds. -/
theorem ne_bracket_of_secondsOf? {text : List Char} {time : WithTop ℚ}
    (read : secondsOf? text = some time) : ∀ char ∈ text, char ≠ ')' := by
  have unsigned {text : List Char} {number : ℚ} (read : unsignedOf? text = some number) :
      ∀ char ∈ text, char ≠ ')' := by
    rintro char member rfl
    rcases isDigit_or_point_of_unsignedOf? read _ member with digit | point
    · exact absurd digit (by decide)
    · exact absurd point (by decide)
  unfold secondsOf? at read
  split at read
  · simp
  · rcases Option.map_eq_some_iff.mp read with ⟨number, numberRead, _⟩
    intro char member
    rcases List.mem_cons.mp member with rfl | member
    · decide
    · exact unsigned numberRead char member
  · rcases Option.map_eq_some_iff.mp read with ⟨number, numberRead, _⟩
    exact unsigned numberRead

/-! ## Rounding -/

theorem nearestEven_mul (numerator denominator : Nat) {factor : Nat} (positive : 0 < factor) :
    nearestEven (numerator * factor) (denominator * factor) =
      nearestEven numerator denominator := by
  have twice : 2 * (numerator % denominator * factor) = 2 * (numerator % denominator) * factor :=
    (Nat.mul_assoc ..).symm
  simp only [nearestEven, Nat.mul_div_mul_right _ _ positive, Nat.mul_mod_mul_right, twice,
    Nat.mul_lt_mul_right positive]

/-- Rounding a quotient does not depend on how it is written. -/
theorem nearestEven_congr {numerator denominator other otherDenominator : Nat}
    (positive : 0 < denominator) (otherPositive : 0 < otherDenominator)
    (same : numerator * otherDenominator = other * denominator) :
    nearestEven numerator denominator = nearestEven other otherDenominator := by
  rw [← nearestEven_mul numerator denominator otherPositive, same,
    Nat.mul_comm denominator, nearestEven_mul other otherDenominator positive]

theorem nearestEven_pos_iff {numerator denominator : Nat} (positive : 0 < denominator) :
    0 < nearestEven numerator denominator ↔ denominator < 2 * numerator := by
  unfold nearestEven
  rcases Nat.lt_or_ge numerator denominator with less | atLeast
  · simp only [Nat.div_eq_of_lt less, Nat.mod_eq_of_lt less]
    split
    · omega
    · split
      · omega
      · omega
  · have quotient : 0 < numerator / denominator := Nat.div_pos atLeast positive
    dsimp only
    split
    · omega
    · split
      · omega
      · omega

/-- The thousandth nearest to a number; of two that are equally near the even one. -/
def nearestThousandth (number : ℚ) : ℚ :=
  (if number < 0 then -1 else 1) * nearestEven (number.num.natAbs * 1000) number.den / 1000

example : nearestThousandth (1 / 2000) = 0 ∧ nearestThousandth (-3 / 2000) = -1 / 500 := by
  decide +kernel

theorem natAbs_num_div_den (number : ℚ) :
    (number.num.natAbs : ℚ) / number.den = |number| := by
  conv_rhs => rw [← Rat.num_div_den number, abs_div, Nat.abs_cast, ← Int.cast_abs]
  rw [Nat.cast_natAbs]

/-- The quotient that a rounded number comes from need not be in lowest terms. -/
theorem nearestThousandth_ratio (negative : Bool) (numerator : Nat) {denominator : Nat}
    (positive : 0 < denominator) :
    nearestThousandth ((if negative then -1 else 1) * (numerator / denominator)) =
      (if negative then -1 else 1) * nearestEven (numerator * 1000) denominator / 1000 := by
  have nonneg : (0 : ℚ) ≤ numerator / denominator :=
    div_nonneg (Nat.cast_nonneg _) (Nat.cast_nonneg _)
  generalize isNumber : (if negative then -1 else 1) * ((numerator : ℚ) / denominator) = number
  have magnitude : (number.num.natAbs : ℚ) / number.den = numerator / denominator := by
    rw [natAbs_num_div_den, ← isNumber]
    cases negative with
    | false => simp only [Bool.false_eq_true, if_false, one_mul, abs_of_nonneg nonneg]
    | true => simp only [if_true, neg_one_mul, abs_neg, abs_of_nonneg nonneg]
  have same : nearestEven (number.num.natAbs * 1000) number.den =
      nearestEven (numerator * 1000) denominator := by
    rw [div_eq_div_iff (Nat.cast_ne_zero.mpr number.den_pos.ne')
      (Nat.cast_ne_zero.mpr positive.ne')] at magnitude
    have crossed : number.num.natAbs * denominator = numerator * number.den := by
      exact_mod_cast magnitude
    apply nearestEven_congr number.den_pos positive
    rw [Nat.mul_right_comm, crossed, Nat.mul_right_comm]
  rw [nearestThousandth, same, ← isNumber]
  cases negative with
  | false => simp only [Bool.false_eq_true, if_false, one_mul, if_neg (not_lt.mpr nonneg)]
  | true =>
      rcases nonneg.eq_or_lt with zero | above
      · -- Zero has no sign, but neither has what it is rounded to.
        have none : numerator = 0 := by
          rcases div_eq_zero_iff.mp zero.symm with none | none
          · exact_mod_cast none
          · exact absurd (Nat.cast_eq_zero.mp none) positive.ne'
        simp [none, nearestEven]
      · simp only [if_true, neg_one_mul, if_pos (neg_neg_of_pos above)]

theorem nearestThousandth_nonneg {number : ℚ} (nonneg : 0 ≤ number) :
    0 ≤ nearestThousandth number := by
  rw [nearestThousandth, if_neg (not_lt.mpr nonneg), one_mul]
  exact div_nonneg (Nat.cast_nonneg _) (by norm_num)

/-- What is at most half a thousandth is lost. -/
theorem nearestThousandth_pos_iff (number : ℚ) :
    0 < nearestThousandth number ↔ 1 / 2000 < number := by
  have denominator : (0 : ℚ) < number.den := Nat.cast_pos.mpr number.den_pos
  rcases lt_or_ge number 0 with negative | nonneg
  · have notPositive : nearestThousandth number ≤ 0 := by
      rw [nearestThousandth, if_pos negative, neg_one_mul]
      exact div_nonpos_of_nonpos_of_nonneg (neg_nonpos.mpr (Nat.cast_nonneg _)) (by norm_num)
    exact iff_of_false (not_lt.mpr notPositive) (by linarith)
  · calc 0 < nearestThousandth number
        ↔ 0 < nearestEven (number.num.natAbs * 1000) number.den := by
          rw [nearestThousandth, if_neg (not_lt.mpr nonneg), one_mul,
            div_pos_iff_of_pos_right (by norm_num), Nat.cast_pos]
      _ ↔ number.den < 2 * (number.num.natAbs * 1000) := nearestEven_pos_iff number.den_pos
      _ ↔ (number.den : ℚ) < 2 * (number.num.natAbs * 1000) := by exact_mod_cast Iff.rfl
      _ ↔ 1 / 2000 < (number.num.natAbs : ℚ) / number.den := by
          rw [div_lt_div_iff₀ (by norm_num) denominator]
          constructor <;> intro <;> linarith
      _ ↔ 1 / 2000 < number := by rw [natAbs_num_div_den, abs_of_nonneg nonneg]

/-- A greater quotient is not rounded to less; where the whole parts are the same, the rests
decide. -/
theorem nearestEven_mono {numerator other denominator : Nat} (below : numerator ≤ other) :
    nearestEven numerator denominator ≤ nearestEven other denominator := by
  have wholes : numerator / denominator ≤ other / denominator := Nat.div_le_div_right below
  rcases wholes.lt_or_eq with less | same
  · have atMost : nearestEven numerator denominator ≤ numerator / denominator + 1 := by
      unfold nearestEven
      grind
    have atLeast : other / denominator ≤ nearestEven other denominator := by
      unfold nearestEven
      grind
    omega
  · have rests : numerator % denominator ≤ other % denominator := by
      have parts := Nat.div_add_mod numerator denominator
      have otherParts := Nat.div_add_mod other denominator
      rw [same] at parts
      omega
    unfold nearestEven
    rw [same]
    grind

theorem nearestThousandth_neg (number : ℚ) :
    nearestThousandth (-number) = -nearestThousandth number := by
  rcases lt_trichotomy number 0 with below | rfl | above
  · simp [nearestThousandth, below, not_lt.mpr below.le, neg_div]
  · decide +kernel
  · simp [nearestThousandth, above, not_lt.mpr above.le, neg_div]

theorem nearestThousandth_mono_of_nonneg {number other : ℚ} (nonneg : 0 ≤ number)
    (below : number ≤ other) : nearestThousandth number ≤ nearestThousandth other := by
  have otherNonneg := nonneg.trans below
  have crossed : number.num.natAbs * other.den ≤ other.num.natAbs * number.den := by
    have quotients : (number.num.natAbs : ℚ) / number.den ≤ other.num.natAbs / other.den := by
      rwa [natAbs_num_div_den, natAbs_num_div_den, abs_of_nonneg nonneg, abs_of_nonneg otherNonneg]
    rw [div_le_div_iff₀ (Nat.cast_pos.mpr number.den_pos) (Nat.cast_pos.mpr other.den_pos)]
      at quotients
    exact_mod_cast quotients
  rw [nearestThousandth, nearestThousandth, if_neg (not_lt.mpr nonneg),
    if_neg (not_lt.mpr otherNonneg), one_mul, one_mul]
  apply div_le_div_of_nonneg_right _ (by norm_num)
  rw [Nat.cast_le, ← nearestEven_mul _ number.den other.den_pos,
    ← nearestEven_mul _ other.den number.den_pos, Nat.mul_comm other.den]
  apply nearestEven_mono
  rw [Nat.mul_right_comm, Nat.mul_right_comm _ 1000]
  exact Nat.mul_le_mul_right 1000 crossed

theorem nearestThousandth_mono : Monotone nearestThousandth := by
  intro number other below
  rcases le_total 0 number with nonneg | negative
  · exact nearestThousandth_mono_of_nonneg nonneg below
  rcases le_total 0 other with otherNonneg | otherNegative
  · -- One is rounded to zero or below, the other to zero or above.
    have least := nearestThousandth_nonneg (neg_nonneg.mpr negative)
    rw [nearestThousandth_neg, neg_nonneg] at least
    exact least.trans (nearestThousandth_nonneg otherNonneg)
  · have mirrored := nearestThousandth_mono_of_nonneg (neg_nonneg.mpr otherNegative)
      (neg_le_neg below)
    rwa [nearestThousandth_neg, nearestThousandth_neg, neg_le_neg_iff] at mirrored

def toThousandth : WithTop ℚ → WithTop ℚ :=
  WithTop.map nearestThousandth

theorem toThousandth_nonneg {time : WithTop ℚ} (nonneg : 0 ≤ time) : 0 ≤ toThousandth time := by
  cases time with
  | top => exact le_top
  | coe number =>
      exact WithTop.coe_nonneg.mpr (nearestThousandth_nonneg (WithTop.coe_nonneg.mp nonneg))

theorem toThousandth_pos_iff (time : WithTop ℚ) :
    0 < toThousandth time ↔ ((1 / 2000 : ℚ) : WithTop ℚ) < time := by
  cases time with
  | top => exact iff_of_true (WithTop.coe_lt_top _) (WithTop.coe_lt_top _)
  | coe number =>
      rw [toThousandth, WithTop.map_coe, WithTop.coe_pos, WithTop.coe_lt_coe]
      exact nearestThousandth_pos_iff number

/-! ## Texts -/

/-- Digits without the zeros at their end. -/
theorem eq_append_zeros (digits : List Char) :
    ∃ zeros, digits =
      (digits.reverse.dropWhile (· == '0')).reverse ++ List.replicate zeros '0' := by
  refine ⟨(digits.reverse.takeWhile (· == '0')).length, ?_⟩
  have zeros : (digits.reverse.takeWhile (· == '0')).reverse =
      List.replicate (digits.reverse.takeWhile (· == '0')).length '0' := by
    rw [List.eq_replicate_iff]
    refine ⟨List.length_reverse, fun char member => ?_⟩
    exact beq_iff_eq.mp (List.all_eq_true.mp List.all_takeWhile char (List.mem_reverse.mp member))
  rw [← zeros, ← List.reverse_append, List.takeWhile_append_dropWhile, List.reverse_reverse]

theorem length_paddedDigits_of_lt {width number : Nat} (positive : 0 < width)
    (fits : number < 10 ^ width) : (paddedDigits width number).length = width := by
  have short := (Nat.length_toDigits_le_iff (by decide) positive).mpr fits
  simp only [paddedDigits, decimalDigits, List.length_append, List.length_replicate]
  omega

structure FractionDigits (thousandths : Nat) (digits : List Char) (zeros : Nat) : Prop where
  value : 10 ^ zeros * Nat.ofDigitChars 10 digits 0 = thousandths
  length : digits.length + zeros = 3
  nonempty : digits ≠ []
  isDigit : ∀ char ∈ digits, char.isDigit = true
  last : digits.getLast? ≠ some '0'

theorem exists_fractionDigits {thousandths : Nat} (some : thousandths ≠ 0)
    (fits : thousandths < 1000) :
    ∃ digits zeros, thousandthsFraction thousandths = '.' :: digits ∧
      FractionDigits thousandths digits zeros := by
  rcases eq_append_zeros (paddedDigits 3 thousandths) with ⟨zeros, padded⟩
  refine ⟨((paddedDigits 3 thousandths).reverse.dropWhile (· == '0')).reverse, zeros,
    if_neg some, ?_⟩
  have last : ((paddedDigits 3 thousandths).reverse.dropWhile (· == '0')).reverse.getLast? ≠
      Option.some '0' := by
    rw [List.getLast?_reverse]
    intro zero
    have kept := List.head?_dropWhile_not (· == '0') (paddedDigits 3 thousandths).reverse
    rw [zero] at kept
    cases kept
  generalize ((paddedDigits 3 thousandths).reverse.dropWhile (· == '0')).reverse = kept
    at padded last
  have value : 10 ^ zeros * Nat.ofDigitChars 10 kept 0 = thousandths := by
    have read := ofDigitChars_paddedDigits 3 thousandths
    rwa [padded, Nat.ofDigitChars_append, Nat.ofDigitChars_replicate_zero] at read
  refine ⟨value, ?_, ?_, ?_, last⟩
  · have whole := length_paddedDigits_of_lt (by decide : 0 < 3) fits
    rwa [padded, List.length_append, List.length_replicate] at whole
  · rintro rfl
    exact some (by simpa using value.symm)
  · intro char member
    exact isDigit_of_mem_paddedDigits (padded ▸ List.mem_append_left _ member)

theorem fractionOf?_thousandthsFraction {thousandths : Nat} (fits : thousandths < 1000) :
    fractionOf? (thousandthsFraction thousandths) = some ((thousandths : ℚ) / 1000) := by
  by_cases none : thousandths = 0
  · simp [none, fractionOf?, thousandthsFraction]
  rcases exists_fractionDigits none fits with ⟨digits, zeros, fraction, left⟩
  rw [fraction, fractionOf?, naturalOf?, if_pos ⟨left.nonempty, List.all_eq_true.mpr left.isDigit⟩,
    Option.map_some]
  congr 1
  rw [div_eq_div_iff (by positivity) (by norm_num), ← left.value]
  push_cast
  have powers : (1000 : ℚ) = 10 ^ digits.length * 10 ^ zeros := by
    rw [← pow_add, left.length]
    norm_num
  rw [powers]
  ring

theorem unsignedOf?_thousandthsDigits (thousandths : Nat) :
    unsignedOf? (decimalDigits (thousandths / 1000) ++ thousandthsFraction (thousandths % 1000)) =
      some ((thousandths : ℚ) / 1000) := by
  have digits : ∀ char ∈ decimalDigits (thousandths / 1000), char.isDigit = true :=
    fun char => isDigit_of_mem_toDigits
  have fraction : (thousandthsFraction (thousandths % 1000)).takeWhile Char.isDigit = [] ∧
      (thousandthsFraction (thousandths % 1000)).dropWhile Char.isDigit =
        thousandthsFraction (thousandths % 1000) := by
    unfold thousandthsFraction
    split
    · exact ⟨rfl, rfl⟩
    · exact ⟨rfl, rfl⟩
  have parts : (((thousandths / 1000 : Nat) : ℚ)) + (thousandths % 1000 : Nat) / 1000 =
      thousandths / 1000 := by
    have whole : (1000 * (thousandths / 1000 : Nat) + (thousandths % 1000 : Nat) : ℚ) =
        thousandths := by
      exact_mod_cast Nat.div_add_mod thousandths 1000
    linarith
  rw [unsignedOf?, List.takeWhile_append_of_pos digits, List.dropWhile_append_of_pos digits,
    fraction.1, fraction.2, List.append_nil, decimalDigits, naturalOf?_toDigits,
    fractionOf?_thousandthsFraction (Nat.mod_lt _ (by decide))]
  exact congrArg some parts

theorem secondsOf?_of_digit {text : List Char} {first : Char} {rest : List Char}
    (starts : text = first :: rest) (digit : first.isDigit = true) :
    secondsOf? text = (unsignedOf? text).map fun (number : ℚ) => (number : WithTop ℚ) := by
  unfold secondsOf?
  split
  · cases starts
    exact absurd digit (by decide)
  · cases starts
    exact absurd digit (by decide)
  · rfl

theorem secondsOf?_thousandthsDigits (negative : Bool) (thousandths : Nat) :
    secondsOf? (thousandthsDigits negative thousandths) =
      some (((if negative then -1 else 1) * thousandths / 1000 : ℚ) : WithTop ℚ) := by
  have read := unsignedOf?_thousandthsDigits thousandths
  rcases List.exists_cons_of_ne_nil (Nat.toDigits_ne_nil (b := 10) (n := thousandths / 1000)) with
    ⟨first, rest, digits⟩
  have digit : first.isDigit = true :=
    isDigit_of_mem_toDigits (digits ▸ List.mem_cons_self)
  have starts : decimalDigits (thousandths / 1000) ++ thousandthsFraction (thousandths % 1000) =
      first :: (rest ++ thousandthsFraction (thousandths % 1000)) := by
    rw [decimalDigits, digits, List.cons_append]
  unfold thousandthsDigits
  rw [List.append_assoc]
  by_cases sign : (negative && thousandths != 0) = true
  · rw [if_pos sign, List.singleton_append, secondsOf?, read, Option.map_some,
      if_pos (Bool.and_eq_true_iff.mp sign).1, neg_one_mul, neg_div]
  · have unsigned : (if negative then -1 else 1) * (thousandths : ℚ) = thousandths := by
      cases negative with
      | false => exact one_mul _
      | true =>
          have none : thousandths = 0 := by simpa using sign
          rw [none, Nat.cast_zero, mul_zero]
    rw [if_neg sign, List.nil_append, secondsOf?_of_digit starts digit, read, Option.map_some,
      unsigned]

/-! ## Doubles -/

namespace Binary64

def seconds? : Binary64 → Option (WithTop ℚ)
  | .finite negative significand exponent =>
      some (((if negative then -1 else 1) * (significand * 2 ^ exponent) : ℚ) : WithTop ℚ)
  | .infinite false => some ⊤
  | _ => none

theorem ratio_eq (significand : Nat) (exponent : Int) :
    ((ratio significand exponent).1 : ℚ) / (ratio significand exponent).2 =
      significand * 2 ^ exponent := by
  rcases Int.eq_nat_or_neg exponent with ⟨places, rfl | rfl⟩
  · simp [ratio]
  · simp [ratio, div_eq_mul_inv]

end Binary64

def Double.seconds? (number : Float) : Option (WithTop ℚ) :=
  (Binary64.ofFloat number).seconds?

/-- The text of a double denotes what the double stands for, rounded to thousandths. -/
theorem secondsOf?_thousandthsText (number : Float) :
    secondsOf? (thousandthsText number).toList =
      (Double.seconds? number).map toThousandth := by
  unfold thousandthsText Double.seconds?
  cases Binary64.ofFloat number with
  | finite negative significand exponent =>
      have positive : 0 < (Binary64.ratio significand exponent).2 := Nat.two_pow_pos _
      dsimp only
      rw [String.toList_ofList, secondsOf?_thousandthsDigits,
        ← nearestThousandth_ratio negative _ positive, Binary64.ratio_eq]
      rfl
  | infinite negative =>
      cases negative with
      | false => rfl
      | true => rfl
  | undefined => rfl

end Montage
