import Mathlib.Order.Compare
import Montage.Proofs.Number.Rational
import Montage.Proofs.Number.Seconds

/-! What quantities stand for: an exact number, one of two infinities, or nothing that is
defined. Doubles are compared by what they stand for. -/

namespace Montage

inductive Amount where
  | number (value : ℚ)
  | infinite (negative : Bool)
  | undefined
  deriving DecidableEq, Repr

namespace Amount

/-- How two amounts lie to each other; in no way when one of them is undefined. -/
def order? : Amount → Amount → Option Ordering
  | .number first, .number second => some (cmp first second)
  | .number _, .infinite negative => some (if negative then .gt else .lt)
  | .infinite negative, .number _ => some (if negative then .lt else .gt)
  | .infinite true, .infinite false => some .lt
  | .infinite false, .infinite true => some .gt
  | .infinite _, .infinite _ => some .eq
  | .undefined, _ | _, .undefined => none

def isNumber : Amount → Bool
  | .number _ => true
  | _ => false

def negated : Amount → Amount
  | .number value => .number (-value)
  | .infinite negative => .infinite (!negative)
  | .undefined => .undefined

/-- Nothing is lost in a sum, but for that of two infinities that lie apart. -/
def plus : Amount → Amount → Amount
  | .number first, .number second => .number (first + second)
  | .infinite negative, .infinite other =>
      if negative = other then .infinite negative else .undefined
  | .infinite negative, .number _ | .number _, .infinite negative => .infinite negative
  | .undefined, _ | _, .undefined => .undefined

instance : Quantity Amount where
  add := plus
  sub first second := first.plus second.negated
  ofScientific mantissa negative exponent :=
    .number (OfScientific.ofScientific mantissa negative exponent)
  less first second := first.order? second == some .lt
  atMost first second := (first.order? second).any Ordering.isLE
  isFinite := isNumber
  literal
    | .number value => Quantity.literal value
    | .infinite negative => if negative then "-inf" else "inf"
    | .undefined => "nan"
  thousandths
    | .number value => Quantity.thousandths value
    | .infinite negative => if negative then "-inf" else "inf"
    | .undefined => "nan"

example : (Amount.infinite false - .infinite false = .undefined) ∧
    Quantity.atMost (Amount.number 1) .undefined = false := by
  decide

variable {first second : ℚ}

theorem less_number_iff : Quantity.less (number first) (number second) = true ↔ first < second := by
  change (some (cmp first second) == some Ordering.lt) = true ↔ _
  rw [beq_iff_eq, Option.some_inj, cmp_eq_lt_iff]

theorem atMost_number_iff :
    Quantity.atMost (number first) (number second) = true ↔ first ≤ second := by
  change (cmp first second).isLE = true ↔ _
  rw [Ordering.isLE_iff_ne_gt, cmp_eq_gt_iff, not_lt]

theorem isFinite_iff {amount : Amount} :
    Quantity.isFinite amount = true ↔ ∃ value, amount = .number value := by
  cases amount with
  | number value => exact iff_of_true rfl ⟨value, rfl⟩
  | infinite negative => exact iff_of_false nofun (by simp)
  | undefined => exact iff_of_false nofun (by simp)

end Amount

/-- Quantities that are compared as what they stand for. -/
class Measured (τ : Type) [Quantity τ] where
  amount : τ → Amount
  less_eq : ∀ first second : τ,
    Quantity.less first second = Quantity.less (amount first) (amount second)
  atMost_eq : ∀ first second : τ,
    Quantity.atMost first second = Quantity.atMost (amount first) (amount second)
  isFinite_eq : ∀ quantity : τ, Quantity.isFinite quantity = Quantity.isFinite (amount quantity)
  zero : amount 0.0 = .number 0
  one : amount 1.0 = .number 1

export Measured (amount)

instance : Measured Amount where
  amount := id
  less_eq _ _ := rfl
  atMost_eq _ _ := rfl
  isFinite_eq _ := rfl
  zero := by decide +kernel
  one := by decide +kernel

/-! ## Doubles -/

open Float.Model
open Float.Model.UnpackedFloat

namespace Double

/-- Of two magnitudes that fit their places the one with the greater exponent is greater. -/
theorem magnitude_lt {mantissa other : Nat} {exponent otherExponent : Int}
    (fits : mantissa < 2 ^ 53) (least : -1074 ≤ exponent)
    (otherNormal : otherExponent = -1074 ∨ 2 ^ 52 ≤ other) (less : exponent < otherExponent) :
    (mantissa : ℚ) * 2 ^ exponent < other * 2 ^ otherExponent := by
  have full : 2 ^ 52 ≤ other := otherNormal.resolve_left (by omega)
  calc (mantissa : ℚ) * 2 ^ exponent
      < 2 ^ 53 * 2 ^ exponent :=
        mul_lt_mul_of_pos_right (by exact_mod_cast fits) (zpow_pos (by norm_num) exponent)
    _ = 2 ^ 52 * 2 ^ (exponent + 1) := by
        rw [zpow_add_one₀ (by norm_num)]
        ring
    _ ≤ 2 ^ 52 * 2 ^ otherExponent :=
        mul_le_mul_of_nonneg_left (zpow_le_zpow_right₀ (by norm_num) less) (by norm_num)
    _ ≤ other * 2 ^ otherExponent :=
        mul_le_mul_of_nonneg_right (by exact_mod_cast full) (zpow_nonneg (by norm_num) _)

theorem compares_magnitudes {mantissa other : Nat} {exponent otherExponent : Int}
    (canonical : mantissa < 2 ^ 53 ∧ -1074 ≤ exponent ∧ (exponent = -1074 ∨ 2 ^ 52 ≤ mantissa))
    (otherCanonical : other < 2 ^ 53 ∧ -1074 ≤ otherExponent ∧
      (otherExponent = -1074 ∨ 2 ^ 52 ≤ other)) :
    ((compare exponent otherExponent).then (compare mantissa other)).Compares
      ((mantissa : ℚ) * 2 ^ exponent) (other * 2 ^ otherExponent) := by
  rcases canonical with ⟨fits, least, normal⟩
  rcases otherCanonical with ⟨otherFits, otherLeast, otherNormal⟩
  rcases Int.lt_trichotomy exponent otherExponent with less | rfl | greater
  · rw [Int.compare_eq_lt.mpr less]
    exact magnitude_lt fits least otherNormal less
  · rw [Int.compare_eq_eq.mpr rfl]
    have place : (0 : ℚ) < 2 ^ exponent := zpow_pos (by norm_num) exponent
    rcases Nat.lt_trichotomy mantissa other with less | rfl | greater
    · rw [Nat.compare_eq_lt.mpr less]
      exact mul_lt_mul_of_pos_right (Nat.cast_lt.mpr less) place
    · rw [Nat.compare_eq_eq.mpr rfl]
      exact rfl
    · rw [Nat.compare_eq_gt.mpr greater]
      exact mul_lt_mul_of_pos_right (Nat.cast_lt.mpr greater) place
  · rw [Int.compare_eq_gt.mpr greater]
    exact magnitude_lt otherFits otherLeast normal greater

end Double

namespace Binary64

def amount : Binary64 → Amount
  | .finite negative significand exponent =>
      .number ((if negative then -1 else 1) * (significand * 2 ^ exponent))
  | .infinite negative => .infinite negative
  | .undefined => .undefined

theorem amount_zero (sign : Sign) : (ofUnpacked (.zero sign)).amount = .number 0 := by
  change Amount.number (_ * (((0 : ℕ) : ℚ) * _)) = _
  rw [Nat.cast_zero, zero_mul, mul_zero]

theorem amount_positive (mantissa : Nat) (exponent : Int) (positive : 0 < mantissa) :
    (ofUnpacked (.finite .positive mantissa exponent positive)).amount =
      .number (mantissa * 2 ^ exponent) :=
  congrArg Amount.number (one_mul _)

theorem amount_negative (mantissa : Nat) (exponent : Int) (positive : 0 < mantissa) :
    (ofUnpacked (.finite .negative mantissa exponent positive)).amount =
      .number (-(mantissa * 2 ^ exponent)) :=
  congrArg Amount.number (neg_one_mul _)

theorem order?_amount {first second : UnpackedFloat} (canonical : Double.IsCanonical first)
    (secondCanonical : Double.IsCanonical second) :
    (ofUnpacked first).amount.order? (ofUnpacked second).amount = first.compare second := by
  have place (exponent : Int) : (0 : ℚ) < 2 ^ exponent := zpow_pos (by norm_num) exponent
  have above {mantissa : Nat} (positive : 0 < mantissa) (exponent : Int) :
      (0 : ℚ) < mantissa * 2 ^ exponent := mul_pos (Nat.cast_pos.mpr positive) (place exponent)
  rcases first with sign | _ | sign | ⟨sign, mantissa, exponent, positive⟩
  · rcases second with otherSign | _ | otherSign | ⟨otherSign, other, otherExponent, otherPositive⟩
    · cases sign <;> cases otherSign <;> rfl
    · rfl
    · cases sign <;> rfl
    · cases sign <;> rfl
  · rfl
  · rw [amount_zero]
    rcases second with otherSign | _ | otherSign | ⟨otherSign, other, otherExponent, otherPositive⟩
    · cases otherSign <;> rfl
    · rfl
    · rw [amount_zero, Amount.order?, cmp_self_eq_eq]
      rfl
    · cases otherSign with
      | positive =>
          rw [amount_positive, Amount.order?, (cmp_eq_lt_iff _ _).mpr (above otherPositive _)]
          rfl
      | negative =>
          rw [amount_negative, Amount.order?,
            (cmp_eq_gt_iff _ _).mpr (neg_neg_of_pos (above otherPositive _))]
          rfl
  · rcases second with otherSign | _ | otherSign | ⟨otherSign, other, otherExponent, otherPositive⟩
    · cases otherSign <;> rfl
    · rfl
    · rw [amount_zero]
      cases sign with
      | positive =>
          rw [amount_positive, Amount.order?, (cmp_eq_gt_iff _ _).mpr (above positive _)]
          rfl
      | negative =>
          rw [amount_negative, Amount.order?,
            (cmp_eq_lt_iff _ _).mpr (neg_neg_of_pos (above positive _))]
          rfl
    · have magnitudes := Double.compares_magnitudes canonical secondCanonical
      have falls : StrictAnti fun number : ℚ => -number := fun _ _ less => neg_lt_neg less
      cases sign with
      | positive =>
          rw [amount_positive]
          cases otherSign with
          | positive =>
              rw [amount_positive, Amount.order?, magnitudes.cmp_eq]
              rfl
          | negative =>
              rw [amount_negative, Amount.order?, (cmp_eq_gt_iff _ _).mpr
                ((neg_neg_of_pos (above otherPositive _)).trans (above positive _))]
              rfl
      | negative =>
          rw [amount_negative]
          cases otherSign with
          | positive =>
              rw [amount_positive, Amount.order?, (cmp_eq_lt_iff _ _).mpr
                ((neg_neg_of_pos (above positive _)).trans (above otherPositive _))]
              rfl
          | negative =>
              rw [amount_negative, Amount.order?, falls.cmp_map_eq, ← cmp_swap,
                magnitudes.cmp_eq]
              rfl

theorem isFinite_amount (number : UnpackedFloat) :
    (ofUnpacked number).amount.isNumber = number.isFinite := by
  cases number <;> rfl

end Binary64

def Double.amount (number : Float) : Amount :=
  (Binary64.ofFloat number).amount

theorem Double.order?_amount (first second : Float) :
    (amount first).order? (amount second) =
      first.toModel.unpack.compare second.toModel.unpack := by
  rw [amount, amount, Binary64.ofFloat_eq_ofUnpacked, Binary64.ofFloat_eq_ofUnpacked]
  exact Binary64.order?_amount (isCanonical first) (isCanonical second)

instance : Measured Float where
  amount := Double.amount
  less_eq first second := by
    change decide (first < second) = ((Double.amount first).order? (Double.amount second) == _)
    rw [Double.order?_amount]
    exact Bool.eq_iff_iff.mpr (decide_eq_true_iff.trans Double.lt_iff)
  atMost_eq first second := by
    change decide (first ≤ second) = ((Double.amount first).order? (Double.amount second)).any _
    rw [Double.order?_amount]
    exact Bool.eq_iff_iff.mpr (decide_eq_true_iff.trans Double.le_iff)
  isFinite_eq number := by
    change number.isFinite = (Double.amount number).isNumber
    rw [Double.amount, Binary64.ofFloat_eq_ofUnpacked, Binary64.isFinite_amount]
    rfl
  zero := by decide +kernel
  one := by decide +kernel

end Montage
