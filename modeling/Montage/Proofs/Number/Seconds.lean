import Montage.Proofs.Number.Defined
import Montage.Proofs.Number.Thousandths
import Montage.Quantity

/-! Doubles as numbers of seconds. Times from zero on are written as such: their texts denote
them, rounded to thousandths. -/

namespace Montage

open Float.Model
open Float.Model.UnpackedFloat

namespace Binary64

def isNegative : Sign → Bool
  | .negative => true
  | .positive => false

def ofUnpacked : UnpackedFloat → Binary64
  | .notANumber => .undefined
  | .infinity sign => .infinite (isNegative sign)
  | .zero sign => .finite (isNegative sign) 0 leastExponent
  | .finite sign mantissa exponent _ => .finite (isNegative sign) mantissa exponent

theorem toNat_unpackExponent (bits : BitVec 64) :
    (@unpackExponent .binary64 bits).toNat = bits.toNat / twoTo 52 % twoTo 11 := by
  delta unpackExponent
  rw [BitVec.toNat_cast, BitVec.extractLsb_toNat, Nat.shiftRight_eq_div_pow]
  rfl

theorem toNat_unpackMantissa (bits : BitVec 64) :
    (@unpackMantissa .binary64 bits).toNat = bits.toNat % twoTo 52 := by
  delta unpackMantissa
  rw [BitVec.toNat_cast, BitVec.extractLsb_toNat, Nat.shiftRight_eq_div_pow, Nat.pow_zero,
    Nat.div_one]
  rfl

theorem toNat_unpackSign (bits : BitVec 64) :
    (@unpackSign .binary64 bits).toNat = bits.toNat / twoTo 63 % 2 := by
  delta unpackSign
  rw [BitVec.toNat_cast, BitVec.extractLsb_toNat, Nat.shiftRight_eq_div_pow]
  rfl

theorem isNegative_ofBitVec (bit : BitVec 1) :
    isNegative (Sign.ofBitVec bit) = (bit.toNat == 1) := by
  revert bit
  decide

theorem ofFloat_eq_ofUnpacked (number : Float) :
    ofFloat number = ofUnpacked number.toModel.unpack := by
  let bits : BitVec 64 := number.toModel.toBits.toBitVec
  change ofBits bits.toNat = ofUnpacked (UnpackedFloat.unpack .binary64 bits)
  have full_iff : (@unpackExponent .binary64 bits).toNat = 2047 ↔
      @unpackExponent .binary64 bits = -1#11 := (BitVec.toNat_eq (y := -1#11)).symm
  have least_iff : (@unpackExponent .binary64 bits).toNat = 0 ↔
      @unpackExponent .binary64 bits = 0#11 := (BitVec.toNat_eq (y := 0#11)).symm
  have none_iff : (@unpackMantissa .binary64 bits).toNat = 0 ↔
      @unpackMantissa .binary64 bits = 0#52 := (BitVec.toNat_eq (y := 0#52)).symm
  have zeroNotFull : 0#11 ≠ -1#11 := by decide
  unfold ofBits
  simp only [← toNat_unpackExponent, ← toNat_unpackMantissa, ← toNat_unpackSign,
    ← isNegative_ofBitVec, full_iff, least_iff, none_iff]
  rcases Double.unpack_cases bits with ⟨full, none, equal⟩ | ⟨full, notNone, equal⟩ |
    ⟨least, none, equal⟩ | ⟨least, -, _, equal⟩ | ⟨notFull, notLeast, _, equal⟩
  · rw [if_pos full, if_pos none, equal]
    rfl
  · rw [if_pos full, if_neg notNone, equal]
    rfl
  · rw [least, if_neg zeroNotFull, if_pos rfl, none, equal]
    rfl
  · rw [equal, least, if_neg zeroNotFull, if_pos rfl]
    rfl
  · have atLeastOne := mt least_iff.mp notLeast
    have place : leastExponent + ((@unpackExponent .binary64 bits).toNat - 1 : Nat) =
        (@unpackExponent .binary64 bits).toNat - 1075 := by
      rw [leastExponent]
      omega
    rw [if_neg notFull, if_neg notLeast, equal]
    exact congrArg₂ (Binary64.finite _) (Double.toNat_implicit _).symm place

end Binary64

namespace Double

def IsDefined (number : Float) : Prop :=
  number.toModel.unpack ≠ .notANumber

def ReachesZero (number : Float) : Prop :=
  reachesZero number.toModel.unpack = true

theorem isCanonical (number : Float) : IsCanonical number.toModel.unpack :=
  isCanonical_unpack number.toModel.toBits.toBitVec

theorem isDefined_of_isFinite {number : Float} (finite : number.isFinite = true) :
    IsDefined number :=
  ne_notANumber_of_isFinite finite

theorem lt_iff {first second : Float} :
    first < second ↔ first.toModel.unpack.lt second.toModel.unpack = true :=
  decide_eq_true_iff

theorem reachesZero_zero : ReachesZero 0.0 := by
  rw [ReachesZero, unpack_zero]
  rfl

/-! ## Sums and differences -/

theorem isDefined_add {first second : Float} (defined : IsDefined first)
    (finite : second.isFinite = true) : IsDefined (first + second) :=
  defined_unpack_pack (defined_add (isCanonical first) (isCanonical second) defined finite)

theorem isDefined_sub {first second : Float} (defined : IsDefined first)
    (finite : second.isFinite = true) : IsDefined (first - second) :=
  defined_unpack_pack (defined_sub (isCanonical first) (isCanonical second) defined finite)

theorem ReachesZero.add {first second : Float} (reaches : ReachesZero first)
    (secondReaches : ReachesZero second) : ReachesZero (first + second) :=
  reachesZero_unpack_pack (isTime_add (isCanonical first) (isCanonical second) reaches
    secondReaches)

theorem reachesZero_sub_self {number : Float} (finite : number.isFinite = true) :
    ReachesZero (number - number) :=
  reachesZero_unpack_pack (isTime_sub_self finite)

theorem reachesZero_zero_sub {number : Float} (below : number < 0.0) :
    ReachesZero (0.0 - number) := by
  rw [lt_iff, unpack_zero] at below
  have time := isTime_zero_sub (isCanonical number) below
  rw [← unpack_zero] at time
  exact reachesZero_unpack_pack time

theorem reachesZero_of_not_lt {number : Float} (defined : IsDefined number)
    (notBelow : ¬ number < 0.0) : ReachesZero number := by
  rw [lt_iff, unpack_zero, Bool.not_eq_true] at notBelow
  exact reachesZero_of_not_lt_zero defined notBelow

variable {upper lower : Float}

theorem reachesZero_and_isFinite (defined : IsDefined upper) (reaches : ReachesZero lower)
    (greater : ¬ upper ≤ lower) : ReachesZero upper ∧ lower.isFinite = true := by
  rw [le_iff, Bool.not_eq_true] at greater
  exact reachesZero_of_not_le defined reaches greater

theorem reachesZero_sub (defined : IsDefined upper) (finite : lower.isFinite = true)
    (greater : ¬ upper ≤ lower) : ReachesZero (upper - lower) := by
  have excess := not_sub_le_zero greater
  rw [le_iff, unpack_zero, le_zero, Bool.not_eq_true, Bool.not_eq_false'] at excess
  exact reachesZero_of_exceedsZero excess (isDefined_sub defined finite)

theorem isFinite_sub_of_reachesZero (finite : upper.isFinite = true)
    (lowerFinite : lower.isFinite = true) (reaches : ReachesZero lower)
    (greater : ¬ upper ≤ lower) : (upper - lower).isFinite = true := by
  rw [le_iff, Bool.not_eq_true] at greater
  exact isFinite_sub (fun _ _ _ _ => exponent_le_of_unpack) (isCanonical upper)
    (isCanonical lower) finite lowerFinite reaches greater

/-! ## Texts -/

theorem exists_seconds {number : Float} (reaches : ReachesZero number) :
    ∃ time, seconds? number = some time ∧ 0 ≤ time := by
  rw [seconds?, Binary64.ofFloat_eq_ofUnpacked]
  rw [ReachesZero] at reaches
  generalize number.toModel.unpack = unpacked at reaches ⊢
  rcases unpacked with sign | _ | sign | ⟨sign, mantissa, exponent, positive⟩
  · cases sign with
    | positive => exact ⟨⊤, rfl, le_top⟩
    | negative => cases reaches
  · cases reaches
  · refine ⟨_, rfl, WithTop.coe_nonneg.mpr ?_⟩
    simp
  · cases sign with
    | positive =>
        refine ⟨_, rfl, WithTop.coe_nonneg.mpr ?_⟩
        simp only [Binary64.isNegative, Bool.false_eq_true, if_false, one_mul]
        exact mul_nonneg (Nat.cast_nonneg mantissa) (zpow_nonneg (by norm_num) exponent)
    | negative => cases reaches

/-- The text of a time denotes it, rounded to thousandths. -/
theorem exists_secondsOf? {number : Float} (reaches : ReachesZero number) :
    ∃ time, seconds? number = some time ∧ 0 ≤ time ∧
      secondsOf? (Quantity.thousandths number).toList = some (toThousandth time) := by
  rcases exists_seconds reaches with ⟨time, isTime, nonneg⟩
  refine ⟨time, isTime, nonneg, ?_⟩
  have text : Quantity.thousandths number = thousandthsText number := rfl
  rw [text, secondsOf?_thousandthsText, isTime, Option.map_some]

end Double

end Montage
