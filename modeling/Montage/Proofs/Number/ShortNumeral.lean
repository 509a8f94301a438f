import Mathlib.Data.List.Basic
import Montage.Proofs.Number.Amount

/-! The texts of numbers in thousandths: each is the shortest numeral of the thousandth nearest to
its number, and a greater number is never written as a smaller one. -/

namespace Montage

/-! ## The nearest thousandth -/

/-- Rounding a quotient leaves at most half of one, and exactly a half only to the even side. -/
theorem nearestEven_bounds (numerator : Nat) {denominator : Nat} (positive : 0 < denominator) :
    let count := nearestEven numerator denominator
    2 * numerator ≤ 2 * (count * denominator) + denominator ∧
      2 * (count * denominator) ≤ 2 * numerator + denominator ∧
      (2 * numerator = 2 * (count * denominator) + denominator ∨
        2 * (count * denominator) = 2 * numerator + denominator → count % 2 = 0) := by
  have parts := Nat.div_add_mod numerator denominator
  have rest := Nat.mod_lt numerator positive
  rw [Nat.mul_comm] at parts
  have next : (numerator / denominator + 1) * denominator =
      numerator / denominator * denominator + denominator := Nat.succ_mul ..
  unfold nearestEven
  dsimp only
  split
  · omega
  · split
    · rw [next]
      omega
    · rcases Nat.mod_two_eq_zero_or_one (numerator / denominator) with even | odd
      · rw [even, Nat.add_zero]
        omega
      · rw [odd, next]
        omega

structure IsNearestThousandth (exact rounded : ℚ) : Prop where
  near : |rounded - exact| ≤ 1 / 2000
  nearest : ∃ count : ℤ, rounded = count / 1000 ∧ ∀ other : ℤ, other ≠ count →
    |rounded - exact| ≤ |other / 1000 - exact| ∧
      (|rounded - exact| = |other / 1000 - exact| → Even count)

def LiesNear (exact : ℚ) (count : ℤ) : Prop :=
  |(count : ℚ) / 1000 - exact| ≤ 1 / 2000 ∧ (|(count : ℚ) / 1000 - exact| = 1 / 2000 → Even count)

theorem LiesNear.neg {exact : ℚ} {count : ℤ} (near : LiesNear exact count) :
    LiesNear (-exact) (-count) := by
  have mirrored : ((-count : ℤ) : ℚ) / 1000 - -exact = -((count : ℚ) / 1000 - exact) := by
    push_cast
    ring
  unfold LiesNear
  rw [mirrored, abs_neg]
  exact ⟨near.1, fun half => (near.2 half).neg⟩

/-- Two multiples of a thousandth lie at least one apart. -/
theorem LiesNear.isNearest {exact : ℚ} {count : ℤ} (near : LiesNear exact count) :
    IsNearestThousandth exact (count / 1000) := by
  refine ⟨near.1, count, rfl, fun other different => ?_⟩
  have step : (1 : ℚ) / 1000 ≤ |(other : ℚ) / 1000 - count / 1000| := by
    have whole : (1 : ℚ) ≤ |(other : ℚ) - count| := by
      exact_mod_cast Int.one_le_abs (sub_ne_zero.mpr different)
    rw [← sub_div, abs_div, abs_of_pos (by norm_num : (0 : ℚ) < 1000)]
    linarith
  have detour := abs_sub_le ((other : ℚ) / 1000) exact (count / 1000)
  rw [abs_sub_comm exact] at detour
  have close := near.1
  exact ⟨by linarith, fun same => near.2 (by linarith)⟩

theorem liesNear_of_nonneg {exact : ℚ} (nonneg : 0 ≤ exact) :
    LiesNear exact (nearestEven (exact.num.natAbs * 1000) exact.den : ℕ) := by
  have denominator : (0 : ℚ) < exact.den := Nat.cast_pos.mpr exact.den_pos
  have quotient := natAbs_num_div_den exact
  rw [abs_of_nonneg nonneg, div_eq_iff denominator.ne'] at quotient
  rcases nearestEven_bounds (exact.num.natAbs * 1000) exact.den_pos with ⟨above, below, tie⟩
  generalize nearestEven (exact.num.natAbs * 1000) exact.den = count at above below tie ⊢
  have upper : ((count : ℚ) / 1000 - exact) * exact.den ≤ 1 / 2000 * exact.den := by
    have bound : (2 * (count * exact.den) : ℚ) ≤ 2 * (exact.num.natAbs * 1000) + exact.den := by
      exact_mod_cast below
    linarith
  have lower : -(1 / 2000) * exact.den ≤ ((count : ℚ) / 1000 - exact) * exact.den := by
    have bound : (2 * (exact.num.natAbs * 1000) : ℚ) ≤ 2 * (count * exact.den) + exact.den := by
      exact_mod_cast above
    linarith
  rw [LiesNear, Int.cast_natCast]
  refine ⟨abs_le.mpr ⟨le_of_mul_le_mul_right lower denominator,
    le_of_mul_le_mul_right upper denominator⟩, fun half => ?_⟩
  rw [Int.even_coe_nat, Nat.even_iff]
  apply tie
  rcases (abs_eq (by norm_num)).mp half with more | less
  · refine .inr ?_
    have scaled := congrArg (· * (exact.den : ℚ)) more
    have equal : (2 * (count * exact.den) : ℚ) = 2 * (exact.num.natAbs * 1000) + exact.den := by
      linarith
    exact_mod_cast equal
  · refine .inl ?_
    have scaled := congrArg (· * (exact.den : ℚ)) less
    have equal : (2 * (exact.num.natAbs * 1000) : ℚ) = 2 * (count * exact.den) + exact.den := by
      linarith
    exact_mod_cast equal

theorem exists_liesNear_of_nonneg {exact : ℚ} (nonneg : 0 ≤ exact) :
    ∃ count : ℤ, nearestThousandth exact = count / 1000 ∧ LiesNear exact count := by
  refine ⟨_, ?_, liesNear_of_nonneg nonneg⟩
  rw [nearestThousandth, if_neg (not_lt.mpr nonneg), one_mul, Int.cast_natCast]

theorem isNearestThousandth (exact : ℚ) : IsNearestThousandth exact (nearestThousandth exact) := by
  rcases le_total 0 exact with nonneg | negative
  · rcases exists_liesNear_of_nonneg nonneg with ⟨count, same, near⟩
    exact same ▸ near.isNearest
  · rcases exists_liesNear_of_nonneg (neg_nonneg.mpr negative) with ⟨count, same, near⟩
    have mirrored := near.neg.isNearest
    rwa [neg_neg, Int.cast_neg, neg_div, ← same, nearestThousandth_neg, neg_neg] at mirrored

/-! ## Shape -/

def IsWhole (digits : List Char) : Prop :=
  digits = ['0'] ∨
    digits ≠ [] ∧ (∀ char ∈ digits, char.isDigit = true) ∧ digits.head? ≠ some '0'

def IsShortFraction (text : List Char) : Prop :=
  text = [] ∨ ∃ digits, text = '.' :: digits ∧ digits ≠ [] ∧ digits.length ≤ 3 ∧
    (∀ char ∈ digits, char.isDigit = true) ∧ digits.getLast? ≠ some '0'

structure IsShortNumeral (text : List Char) : Prop where
  parts : ∃ sign whole fraction, text = sign ++ whole ++ fraction ∧ (sign = [] ∨ sign = ['-']) ∧
    IsWhole whole ∧ IsShortFraction fraction
  given : text ≠ []
  unsignedZero : text ≠ ['-', '0']

theorem head?_toDigits_ne {number : Nat} (positive : 0 < number) :
    (Nat.toDigits 10 number).head? ≠ some '0' := by
  induction number using Nat.strongRecOn with
  | ind number induction =>
      rcases Nat.lt_or_ge number 10 with digit | more
      · rw [Nat.toDigits_of_lt_base digit, List.head?_cons, ne_eq, Option.some_inj,
          Nat.digitChar_eq_zero]
        exact positive.ne'
      · rw [Nat.toDigits_of_base_le (by decide) more,
          List.head?_append_of_ne_nil _ Nat.toDigits_ne_nil]
        exact induction (number / 10) (Nat.div_lt_self positive (by decide))
          (Nat.div_pos more (by decide))

theorem isWhole_decimalDigits (number : Nat) : IsWhole (decimalDigits number) := by
  rcases Nat.eq_zero_or_pos number with rfl | positive
  · exact .inl rfl
  · exact .inr ⟨Nat.toDigits_ne_nil, fun _ => isDigit_of_mem_toDigits, head?_toDigits_ne positive⟩

theorem isShortFraction_thousandthsFraction {thousandths : Nat} (fits : thousandths < 1000) :
    IsShortFraction (thousandthsFraction thousandths) := by
  by_cases none : thousandths = 0
  · rw [none]
    exact .inl rfl
  · rcases exists_fractionDigits none fits with ⟨digits, zeros, fraction, left⟩
    have length := left.length
    exact .inr ⟨digits, fraction, left.nonempty, by omega, left.isDigit, left.last⟩

theorem isShortNumeral_thousandthsDigits (negative : Bool) (thousandths : Nat) :
    IsShortNumeral (thousandthsDigits negative thousandths) where
  parts := by
    refine ⟨_, _, _, rfl, ?_, isWhole_decimalDigits _,
      isShortFraction_thousandthsFraction (Nat.mod_lt _ (by decide))⟩
    split
    · exact .inr rfl
    · exact .inl rfl
  given := by
    simp [thousandthsDigits, decimalDigits, Nat.toDigits_ne_nil]
  unsignedZero := by
    intro same
    have read := secondsOf?_thousandthsDigits negative thousandths
    have zero : secondsOf? ['-', '0'] = some ((0 : ℚ) : WithTop ℚ) := by decide +kernel
    rw [same, zero, Option.some_inj, WithTop.coe_inj] at read
    have none : thousandths = 0 := by
      have scaled := (div_eq_zero_iff.mp read.symm).resolve_right (by norm_num)
      cases negative <;> simpa using scaled
    rw [none] at same
    cases negative <;> cases same

/-! ## Texts -/

/-- The text depends on the number alone: how zero is signed does not matter to it. -/
theorem thousandthsDigits_congr {negative otherNegative : Bool} {thousandths other : Nat}
    (same : ((if negative then -1 else 1) * thousandths / 1000 : ℚ) =
      (if otherNegative then -1 else 1) * other / 1000) :
    thousandthsDigits negative thousandths = thousandthsDigits otherNegative other := by
  have scaled : (if negative then -1 else 1) * (thousandths : ℤ) =
      (if otherNegative then -1 else 1) * other := by
    have counts := (div_left_inj' (by norm_num)).mp same
    exact_mod_cast counts
  have counts : thousandths = other := by
    have magnitudes := congrArg Int.natAbs scaled
    cases negative <;> cases otherNegative <;> simpa using magnitudes
  subst counts
  by_cases none : thousandths = 0
  · rw [none, thousandthsDigits, thousandthsDigits, bne_self_eq_false, Bool.and_false,
      Bool.and_false]
  · have signs : negative = otherNegative := by
      grind
    rw [signs]

/-- A double that is a number is written as a count of thousandths. -/
theorem exists_thousandthsDigits {number : Float} {exact : ℚ}
    (isExact : Double.amount number = .number exact) :
    ∃ negative count, thousandthsText number = String.ofList (thousandthsDigits negative count) ∧
      nearestThousandth exact = (if negative then -1 else 1) * count / 1000 := by
  unfold Double.amount at isExact
  unfold thousandthsText
  generalize Binary64.ofFloat number = parts at isExact ⊢
  cases parts with
  | finite negative significand exponent =>
      cases isExact
      have positive : 0 < (Binary64.ratio significand exponent).2 := Nat.two_pow_pos _
      refine ⟨negative, _, rfl, ?_⟩
      rw [← Binary64.ratio_eq, nearestThousandth_ratio negative _ positive]
      rfl
  | infinite negative => cases isExact
  | undefined => cases isExact

structure Writes (text : String) (exact rounded : ℚ) : Prop where
  shape : IsShortNumeral text.toList
  denotes : secondsOf? text.toList = some (rounded : WithTop ℚ)
  nearest : IsNearestThousandth exact rounded

theorem writes_thousandthsText {number : Float} {exact : ℚ}
    (isExact : Double.amount number = .number exact) :
    Writes (thousandthsText number) exact (nearestThousandth exact) := by
  rcases exists_thousandthsDigits isExact with ⟨negative, count, text, rounded⟩
  rw [text, rounded]
  refine ⟨?_, ?_, rounded ▸ isNearestThousandth exact⟩
  · rw [String.toList_ofList]
    exact isShortNumeral_thousandthsDigits negative count
  · rw [String.toList_ofList]
    exact secondsOf?_thousandthsDigits negative count

theorem thousandthsText_congr {number other : Float} {exact otherExact : ℚ}
    (isExact : Double.amount number = .number exact)
    (otherIsExact : Double.amount other = .number otherExact)
    (same : nearestThousandth exact = nearestThousandth otherExact) :
    thousandthsText number = thousandthsText other := by
  rcases exists_thousandthsDigits isExact with ⟨negative, count, text, rounded⟩
  rcases exists_thousandthsDigits otherIsExact with ⟨otherNegative, other, otherText, otherRounded⟩
  rw [text, otherText, thousandthsDigits_congr (rounded ▸ otherRounded ▸ same)]

theorem exists_exact {number : Float} (finite : number.isFinite = true) :
    ∃ exact, Double.amount number = .number exact :=
  Amount.isFinite_iff.mp ((Measured.isFinite_eq number).symm.trans finite)

theorem exact_le_of_le {number other : Float} {exact otherExact : ℚ}
    (isExact : Double.amount number = .number exact)
    (otherIsExact : Double.amount other = .number otherExact) (below : number ≤ other) :
    exact ≤ otherExact := by
  have atMost : Quantity.atMost number other = true := decide_eq_true below
  rw [Measured.atMost_eq] at atMost
  change Quantity.atMost (Double.amount number) (Double.amount other) = true at atMost
  rwa [isExact, otherIsExact, Amount.atMost_number_iff] at atMost

/-- Every finite double is written as the thousandth nearest to it, in one form; a greater one is
not written as a smaller number, and two that are rounded to the same number as the same text. -/
theorem thousandthsText_rounds {number other : Float} (finite : number.isFinite = true)
    (otherFinite : other.isFinite = true) :
    ∃ exact otherExact rounded otherRounded,
      Double.amount number = .number exact ∧ Double.amount other = .number otherExact ∧
      Writes (thousandthsText number) exact rounded ∧
      Writes (thousandthsText other) otherExact otherRounded ∧
      (number ≤ other → rounded ≤ otherRounded) ∧
      (rounded = otherRounded → thousandthsText number = thousandthsText other) := by
  rcases exists_exact finite with ⟨exact, isExact⟩
  rcases exists_exact otherFinite with ⟨otherExact, otherIsExact⟩
  exact ⟨exact, otherExact, _, _, isExact, otherIsExact, writes_thousandthsText isExact,
    writes_thousandthsText otherIsExact,
    fun below => nearestThousandth_mono (exact_le_of_le isExact otherIsExact below),
    thousandthsText_congr isExact otherIsExact⟩

/-- A sixteenth lies halfway between two thousandths, and one hundred ends in zeros. -/
theorem thousandthsText_rounds_sixteenth :
    (0.0625 : Float).isFinite = true ∧ (100.0 : Float).isFinite = true ∧
      ∃ exact otherExact rounded otherRounded,
        Double.amount 0.0625 = .number exact ∧ Double.amount 100.0 = .number otherExact ∧
        Writes (thousandthsText 0.0625) exact rounded ∧
        Writes (thousandthsText 100.0) otherExact otherRounded ∧
        ((0.0625 : Float) ≤ 100.0 → rounded ≤ otherRounded) ∧
        (rounded = otherRounded → thousandthsText 0.0625 = thousandthsText 100.0) :=
  ⟨by decide +kernel, by decide +kernel,
    thousandthsText_rounds (by decide +kernel) (by decide +kernel)⟩

example : thousandthsText 0.0625 = "0.062" ∧ thousandthsText 100.0 = "100" ∧
    thousandthsText (-0.0004) = "0" := by
  decide +kernel

end Montage
