import Mathlib.Algebra.Group.Nat.Defs

/-! Differences of doubles. Subtracting a double from a greater one never gives zero: the
difference is a multiple of the least double, so that rounding leaves something of it. -/

namespace Montage.Double

open Float.Model
open Float.Model.UnpackedFloat

def IsCanonical : UnpackedFloat → Prop
  | .finite _ mantissa exponent _ =>
      mantissa < 2 ^ 53 ∧ -1074 ≤ exponent ∧ (exponent = -1074 ∨ 2 ^ 52 ≤ mantissa)
  | _ => True

def exceedsZero : UnpackedFloat → Bool
  | .notANumber | .infinity .positive | .finite .positive .. => true
  | _ => false

theorem le_zero (number : UnpackedFloat) (sign : Sign) :
    number.le (.zero sign) = !exceedsZero number := by
  rcases number with sign | _ | sign | ⟨sign, mantissa, exponent, positive⟩
  · cases sign <;> rfl
  · rfl
  · rfl
  · cases sign <;> rfl

/-! ## Rounding -/

theorem targetExponent_eq (total : Int) :
    Format.binary64.targetExponent total = max (total - 53) (-1074) := rfl

theorem shiftRight_mantissa (extended : ExtendedMantissa) (places : Nat) :
    (extended >>> places).mantissa = extended.mantissa / 2 ^ places := by
  induction places with
  | zero => exact (Nat.div_one _).symm
  | succ places induction =>
      have last : (extended >>> (places + 1)).mantissa = (extended >>> places).mantissa / 2 := rfl
      rw [last, induction, Nat.div_div_eq_div_mul, Nat.pow_succ]

theorem ofMantissaAndAccuracy_mantissa (mantissa : Nat) (accuracy : Accuracy) :
    (ExtendedMantissa.ofMantissaAndAccuracy mantissa accuracy).mantissa = mantissa := by
  rcases accuracy with _ | order
  · rfl
  · cases order <;> rfl

theorem mantissa_le_roundedMantissa (extended : ExtendedMantissa) :
    extended.mantissa ≤ extended.roundedMantissa := by
  rcases extended with ⟨mantissa, roundBit, stickyBit⟩
  cases roundBit <;> cases stickyBit <;>
    simp [ExtendedMantissa.roundedMantissa, ExtendedMantissa.accuracy,
      Accuracy.roundToNearestEven]

theorem roundedMantissa_le (extended : ExtendedMantissa) :
    extended.roundedMantissa ≤ extended.mantissa + 1 := by
  rcases extended with ⟨mantissa, roundBit, stickyBit⟩
  cases roundBit <;> cases stickyBit <;>
    simp [ExtendedMantissa.roundedMantissa, ExtendedMantissa.accuracy,
      Accuracy.roundToNearestEven]
  omega

theorem shiftToTargetExponent_eq (mantissa : Nat) {exponent : Int} (least : -1074 ≤ exponent)
    (accuracy : Accuracy) :
    shiftToTargetExponent .binary64 mantissa exponent accuracy =
      (ExtendedMantissa.ofMantissaAndAccuracy mantissa accuracy >>> (mantissa.log2 - 52),
        exponent + (mantissa.log2 - 52 : Nat)) := by
  have places : (Format.binary64.targetExponent (totalExponent mantissa exponent) -
      exponent).toNat = mantissa.log2 - 52 := by
    rw [targetExponent_eq, totalExponent]
    omega
  simp only [shiftToTargetExponent, shiftToExponent, places]

theorem shifted_pos {mantissa : Nat} (positive : 0 < mantissa) :
    0 < mantissa / 2 ^ (mantissa.log2 - 52) := by
  apply Nat.div_pos _ (Nat.two_pow_pos _)
  calc 2 ^ (mantissa.log2 - 52) ≤ 2 ^ mantissa.log2 :=
        Nat.pow_le_pow_right (by decide) (Nat.sub_le _ _)
    _ ≤ mantissa := Nat.log2_self_le (Nat.ne_of_gt positive)

theorem shifted_lt (mantissa : Nat) : mantissa / 2 ^ (mantissa.log2 - 52) < 2 ^ 53 := by
  rw [Nat.div_lt_iff_lt_mul (Nat.two_pow_pos _), ← Nat.pow_add]
  calc mantissa < 2 ^ (mantissa.log2 + 1) := Nat.lt_log2_self
    _ ≤ 2 ^ (53 + (mantissa.log2 - 52)) := Nat.pow_le_pow_right (by decide) (by omega)

/-- What needs no more places than a mantissa and some more is rounded into as many. -/
theorem places_le_of_lt {mantissa rounded bound places : Nat} (positive : 0 < mantissa)
    (roundedPositive : 0 < rounded)
    (near : rounded ≤ mantissa / 2 ^ (mantissa.log2 - 52) + 1)
    (below : mantissa < bound * 2 ^ places) (fits : bound < 2 ^ 53) :
    (mantissa.log2 - 52) + (rounded.log2 - 52) ≤ places := by
  have long : mantissa.log2 < 53 + places := by
    rw [Nat.log2_lt (Nat.ne_of_gt positive), Nat.pow_add]
    exact Nat.lt_of_lt_of_le below (Nat.mul_le_mul_right _ (Nat.le_of_lt fits))
  have short := shifted_lt mantissa
  have carry : rounded.log2 < 54 :=
    (Nat.log2_lt (Nat.ne_of_gt roundedPositive)).mpr (by omega)
  by_cases all : mantissa.log2 - 52 = places
  · have noCarry : rounded.log2 < 53 := by
      have less := (Nat.div_lt_iff_lt_mul (Nat.two_pow_pos places)).mpr below
      rw [all] at near
      exact (Nat.log2_lt (Nat.ne_of_gt roundedPositive)).mpr (by omega)
    omega
  · omega

/-- Something that is not zero is not rounded to zero, nor to more places than a mantissa
has, nor beyond the places that it needs. -/
theorem roundWithAccuracy_finite {mantissa : Nat} {exponent : Int} (positive : 0 < mantissa)
    (least : -1074 ≤ exponent) (sign : Sign) (accuracy : Accuracy) :
    ∃ rounded place roundedPositive,
      roundWithAccuracy .binary64 sign mantissa exponent accuracy =
        .finite sign rounded place roundedPositive ∧ rounded < 2 ^ 53 ∧ -1074 ≤ place ∧
      ∀ bound places : Nat, mantissa < bound * 2 ^ places → bound < 2 ^ 53 →
        place ≤ exponent + places := by
  have once := shiftToTargetExponent_eq mantissa least accuracy
  generalize extendedIs : ExtendedMantissa.ofMantissaAndAccuracy mantissa accuracy >>>
    (mantissa.log2 - 52) = extended at once
  generalize placeIs : exponent + (mantissa.log2 - 52 : Nat) = place at once
  have placeLeast : -1074 ≤ place := by omega
  have twice := shiftToTargetExponent_eq extended.roundedMantissa placeLeast .exact
  have extendedMantissa : extended.mantissa = mantissa / 2 ^ (mantissa.log2 - 52) := by
    rw [← extendedIs, shiftRight_mantissa, ofMantissaAndAccuracy_mantissa]
  have roundedPositive : 0 < extended.roundedMantissa := by
    apply Nat.lt_of_lt_of_le _ (mantissa_le_roundedMantissa extended)
    rw [extendedMantissa]
    exact shifted_pos positive
  have near := roundedMantissa_le extended
  rw [extendedMantissa] at near
  let final := ExtendedMantissa.ofMantissaAndAccuracy extended.roundedMantissa .exact >>>
    (extended.roundedMantissa.log2 - 52)
  have finalMantissa : final.mantissa =
      extended.roundedMantissa / 2 ^ (extended.roundedMantissa.log2 - 52) := by
    rw [shiftRight_mantissa, ofMantissaAndAccuracy_mantissa]
  have finalPositive : 0 < final.mantissa := finalMantissa ▸ shifted_pos roundedPositive
  refine ⟨final.mantissa, place + (extended.roundedMantissa.log2 - 52 : Nat), finalPositive, ?_,
    finalMantissa ▸ shifted_lt extended.roundedMantissa, by omega, ?_⟩
  · unfold roundWithAccuracy
    rw [once]
    dsimp only
    rw [twice]
    exact dif_neg (Nat.ne_of_gt finalPositive)
  · intro bound places below fits
    have enough := places_le_of_lt positive roundedPositive near below fits
    omega

theorem round_finite {mantissa : Nat} {exponent : Int} (positive : 0 < mantissa)
    (least : -1074 ≤ exponent) (sign : Sign) :
    ∃ rounded place roundedPositive,
      UnpackedFloat.round .binary64 sign mantissa exponent =
        .finite sign rounded place roundedPositive ∧ rounded < 2 ^ 53 ∧ -1074 ≤ place ∧
      ∀ bound places : Nat, mantissa < bound * 2 ^ places → bound < 2 ^ 53 →
        place ≤ exponent + places := by
  let target := Format.binary64.targetExponent (totalExponent mantissa exponent)
  let shift := (exponent - target).toNat
  have shiftedPositive : 0 < mantissa <<< shift := by
    rw [Nat.shiftLeft_eq]
    exact Nat.mul_pos positive (Nat.two_pow_pos _)
  have shiftedLeast : -1074 ≤ exponent - shift := by
    have targetLeast : -1074 ≤ target := by
      simp only [target, targetExponent_eq]
      omega
    omega
  rcases roundWithAccuracy_finite shiftedPositive shiftedLeast sign .exact with
    ⟨rounded, place, roundedPositive, equal, short, placeLeast, enough⟩
  refine ⟨rounded, place, roundedPositive, equal, short, placeLeast, ?_⟩
  intro bound places below fits
  have shiftedBelow : mantissa <<< shift < bound * 2 ^ (places + shift) := by
    rw [Nat.shiftLeft_eq, Nat.pow_add, ← Nat.mul_assoc]
    exact Nat.mul_lt_mul_of_pos_right below (Nat.two_pow_pos _)
  have shiftedEnough := enough bound (places + shift) shiftedBelow fits
  omega

theorem normalize_of_pos {mantissa : Int} (positive : 0 < mantissa) (exponent : Int)
    (zeroSign : Sign) :
    UnpackedFloat.normalize .binary64 mantissa exponent zeroSign =
      UnpackedFloat.round .binary64 .positive mantissa.toNat exponent := by
  rw [UnpackedFloat.normalize, Int.compare_eq_gt.mpr positive]

/-! ## Bits -/

theorem unpackSign_packComponents {format : Format} (sign : Sign)
    (exponent : BitVec format.exponentBits)
    (mantissa : BitVec format.mantissaBitsWithoutImplicit) :
    unpackSign (packComponents format sign exponent mantissa) = sign.toBitVec := by
  apply BitVec.eq_of_getLsbD_eq
  intro place inside
  have first : place = 0 := by omega
  subst first
  delta unpackSign
  simp [packComponents, BitVec.getLsbD_append, BitVec.getElem_append]

theorem ofBitVec_toBitVec (sign : Sign) : Sign.ofBitVec sign.toBitVec = sign := by
  cases sign <;> rfl

/-- The double that bits stand for: infinite, undefined, zero, below all normal ones, or
normal. -/
theorem unpack_cases (bits : BitVec 64) :
    let exponent := @unpackExponent .binary64 bits
    let mantissa := @unpackMantissa .binary64 bits
    let sign := Sign.ofBitVec (@unpackSign .binary64 bits)
    let number := UnpackedFloat.unpack .binary64 bits
    (exponent = -1#11 ∧ mantissa = 0#52 ∧ number = .infinity sign) ∨
      (exponent = -1#11 ∧ mantissa ≠ 0#52 ∧ number = .notANumber) ∨
      (exponent = 0#11 ∧ mantissa = 0#52 ∧ number = .zero sign) ∨
      (exponent = 0#11 ∧ mantissa ≠ 0#52 ∧ ∃ positive,
        number = .finite sign mantissa.toNat (exponent.toNat - 1075 + 1) positive) ∨
      (exponent ≠ -1#11 ∧ exponent ≠ 0#11 ∧ ∃ positive,
        number = .finite sign (1#1 ++ mantissa).toNat (exponent.toNat - 1075) positive) := by
  intro exponent mantissa sign number
  by_cases full : exponent = -1#11
  · by_cases none : mantissa = 0#52
    · exact .inl ⟨full, none, (if_pos full).trans (if_pos none)⟩
    · exact .inr (.inl ⟨full, none, (if_pos full).trans (if_neg none)⟩)
  by_cases least : exponent = 0#11
  · by_cases none : mantissa = 0#52
    · exact .inr (.inr (.inl
        ⟨least, none, (if_neg full).trans ((if_pos least).trans (dif_pos none))⟩))
    · exact .inr (.inr (.inr (.inl
        ⟨least, none, _, (if_neg full).trans ((if_pos least).trans (dif_neg none))⟩)))
  · exact .inr (.inr (.inr (.inr ⟨full, least, _, (if_neg full).trans (if_neg least)⟩)))

theorem exceedsZero_unpack {bits : BitVec 64}
    (positive : @unpackSign .binary64 bits = Sign.positive.toBitVec)
    (notZero : @unpackExponent .binary64 bits ≠ 0#11 ∨ @unpackMantissa .binary64 bits ≠ 0#52) :
    exceedsZero (UnpackedFloat.unpack .binary64 bits) = true := by
  have sign : Sign.ofBitVec (@unpackSign .binary64 bits) = .positive := by
    rw [positive, ofBitVec_toBitVec]
  rcases unpack_cases bits with ⟨-, -, equal⟩ | ⟨-, -, equal⟩ | ⟨exponentZero, mantissaZero, -⟩ |
    ⟨-, -, _, equal⟩ | ⟨-, -, _, equal⟩
  · rw [equal, sign]
    rfl
  · rw [equal]
    rfl
  · exact absurd mantissaZero (notZero.resolve_left (not_not_intro exponentZero))
  · rw [equal, sign]
    rfl
  · rw [equal, sign]
    rfl

theorem exceedsZero_unpack_packComponents {exponent : BitVec 11} {mantissa : BitVec 52}
    (notZero : exponent ≠ 0#11 ∨ mantissa ≠ 0#52) :
    exceedsZero (UnpackedFloat.unpack .binary64
      (packComponents .binary64 .positive exponent mantissa)) = true := by
  apply exceedsZero_unpack (unpackSign_packComponents _ _ _)
  rwa [unpackExponent_packComponents, unpackMantissa_packComponents]

theorem toNat_implicit (mantissa : BitVec 52) :
    (1#1 ++ mantissa).toNat = 2 ^ 52 + mantissa.toNat := by
  rw [BitVec.toNat_append, ← Nat.shiftLeft_add_eq_or_of_lt mantissa.isLt]
  rfl

theorem isCanonical_unpack (bits : BitVec 64) :
    IsCanonical (UnpackedFloat.unpack .binary64 bits) := by
  have fits : (@unpackMantissa .binary64 bits).toNat < 2 ^ 52 :=
    (@unpackMantissa .binary64 bits).isLt
  rcases unpack_cases bits with ⟨-, -, equal⟩ | ⟨-, -, equal⟩ | ⟨-, -, equal⟩ |
    ⟨exponentZero, -, _, equal⟩ | ⟨-, exponentNonzero, _, equal⟩
  · rw [equal]
    trivial
  · rw [equal]
    trivial
  · rw [equal]
    trivial
  · have least : (@unpackExponent .binary64 bits).toNat = 0 := congrArg BitVec.toNat exponentZero
    rw [equal]
    refine ⟨Nat.lt_trans fits (by decide), ?_, .inl ?_⟩
    · omega
    · omega
  · have more : (@unpackExponent .binary64 bits).toNat ≠ 0 := by
      intro zero
      exact exponentNonzero (BitVec.eq_of_toNat_eq zero)
    have whole := toNat_implicit (@unpackMantissa .binary64 bits)
    rw [equal]
    refine ⟨?_, ?_, .inr ?_⟩
    · omega
    · omega
    · omega

theorem exceedsZero_unpack_pack {number : UnpackedFloat} (exceeds : exceedsZero number = true)
    (fits : ∀ sign mantissa exponent positive,
      number = .finite sign mantissa exponent positive → mantissa < 2 ^ 53 ∧ -1074 ≤ exponent) :
    exceedsZero (UnpackedFloat.unpack .binary64 (UnpackedFloat.pack .binary64 number)) = true := by
  rcases number with sign | _ | sign | ⟨sign, mantissa, exponent, positive⟩
  · cases sign with
    | positive => decide
    | negative => cases exceeds
  · decide
  · cases exceeds
  · cases sign with
    | negative => cases exceeds
    | positive =>
        rcases fits _ _ _ _ rfl with ⟨short, least⟩
        have bias : Format.binary64.exponentBias = 1023 := rfl
        have bits : Format.binary64.mantissaBits = 53 := rfl
        delta UnpackedFloat.pack
        dsimp only
        split
        · decide
        · split
          · apply exceedsZero_unpack_packComponents
            refine .inl fun zero => ?_
            have zeroNumber := congrArg BitVec.toNat zero
            rw [BitVec.toNat_ofNat, Nat.mod_eq_of_lt (by omega)] at zeroNumber
            simp only [BitVec.toNat_ofNat, Nat.zero_mod] at zeroNumber
            omega
          · rename_i notLong
            apply exceedsZero_unpack_packComponents
            refine .inr fun zero => ?_
            have below : mantissa < 2 ^ 52 := by
              apply (Nat.log2_lt (Nat.ne_of_gt positive)).mp
              have := (Nat.log2_lt (Nat.ne_of_gt positive)).mpr short
              omega
            have zeroNumber := congrArg BitVec.toNat zero
            rw [BitVec.toNat_ofNat, Nat.mod_eq_of_lt below] at zeroNumber
            simp only [BitVec.toNat_ofNat, Nat.zero_mod] at zeroNumber
            omega

/-! ## Differences -/

theorem aligned_lt {mantissa other : Nat} {exponent otherExponent : Int}
    (normal : exponent = -1074 ∨ 2 ^ 52 ≤ mantissa) (fits : other < 2 ^ 53)
    (least : -1074 ≤ otherExponent)
    (greater : otherExponent < exponent ∨ otherExponent = exponent ∧ other < mantissa) :
    other <<< (otherExponent - min exponent otherExponent).toNat <
      mantissa <<< (exponent - min exponent otherExponent).toNat := by
  rcases greater with later | ⟨rfl, more⟩
  · have long : 2 ^ 52 ≤ mantissa := normal.resolve_left (by omega)
    have otherStays : (otherExponent - min exponent otherExponent).toNat = 0 := by omega
    have places : 1 ≤ (exponent - min exponent otherExponent).toNat := by omega
    rw [otherStays, Nat.shiftLeft_zero, Nat.shiftLeft_eq]
    calc other < 2 ^ 52 * 2 ^ 1 := fits
      _ ≤ mantissa * 2 ^ (exponent - min exponent otherExponent).toNat :=
        Nat.mul_le_mul long (Nat.pow_le_pow_right (by decide) places)
  · simpa using more

theorem aligned_difference_pos {sign otherSign : Sign} {mantissa other : Nat}
    {exponent otherExponent : Int} {positive : 0 < mantissa} {otherPositive : 0 < other}
    (canonical : IsCanonical (.finite sign mantissa exponent positive))
    (otherCanonical : IsCanonical (.finite otherSign other otherExponent otherPositive))
    (greater : (UnpackedFloat.finite sign mantissa exponent positive).le
      (.finite otherSign other otherExponent otherPositive) = false) :
    0 < sign.apply (mantissa <<< (exponent - min exponent otherExponent).toNat : Nat) -
      otherSign.apply (other <<< (otherExponent - min exponent otherExponent).toNat : Nat) := by
  have shiftedPositive : 0 < mantissa <<< (exponent - min exponent otherExponent).toNat := by
    rw [Nat.shiftLeft_eq]
    exact Nat.mul_pos positive (Nat.two_pow_pos _)
  rcases canonical with ⟨fits, least, normal⟩
  rcases otherCanonical with ⟨otherFits, otherLeast, otherNormal⟩
  cases sign with
  | positive =>
      cases otherSign with
      | positive =>
          change ((compare exponent otherExponent).then (compare mantissa other)).isLE = false
            at greater
          have order : (compare exponent otherExponent).then (compare mantissa other) = .gt := by
            simpa using greater
          rw [Ordering.then_eq_gt, Int.compare_eq_gt, Int.compare_eq_eq, Nat.compare_eq_gt] at order
          have less := aligned_lt normal otherFits otherLeast
            (order.imp id fun same => ⟨same.1.symm, same.2⟩)
          simp only [Sign.apply]
          omega
      | negative =>
          have nonneg : (0 : Int) ≤
              (other <<< (otherExponent - min exponent otherExponent).toNat : Nat) :=
            Int.natCast_nonneg _
          simp only [Sign.apply]
          omega
  | negative =>
      cases otherSign with
      | positive => cases greater
      | negative =>
          change ((compare exponent otherExponent).then (compare mantissa other)).swap.isLE = false
            at greater
          have order : (compare exponent otherExponent).then (compare mantissa other) = .lt := by
            simpa using greater
          rw [Ordering.then_eq_lt, Int.compare_eq_lt, Int.compare_eq_eq, Nat.compare_eq_lt] at order
          have less := aligned_lt otherNormal fits least order
          rw [Int.min_comm] at less
          simp only [Sign.apply]
          omega

def IsExcess (number : UnpackedFloat) : Prop :=
  exceedsZero number = true ∧ ∀ sign mantissa exponent positive,
    number = .finite sign mantissa exponent positive → mantissa < 2 ^ 53 ∧ -1074 ≤ exponent

theorem IsExcess.ofCanonical {number : UnpackedFloat} (exceeds : exceedsZero number = true)
    (canonical : IsCanonical number) : IsExcess number := by
  refine ⟨exceeds, ?_⟩
  rintro sign mantissa exponent positive rfl
  exact ⟨canonical.1, canonical.2.1⟩

theorem isExcess_sub {first second : UnpackedFloat} (canonical : IsCanonical first)
    (secondCanonical : IsCanonical second) (greater : first.le second = false) :
    IsExcess (UnpackedFloat.sub .binary64 first second) := by
  have undefined : IsExcess .notANumber := .ofCanonical rfl trivial
  have infinite : IsExcess (.infinity .positive) := .ofCanonical rfl trivial
  rcases first with sign | _ | sign | ⟨sign, mantissa, exponent, positive⟩
  · rcases second with otherSign | _ | otherSign | ⟨otherSign, other, otherExponent, otherPositive⟩
    · cases sign <;> cases otherSign <;> first | exact infinite | cases greater
    · exact undefined
    · cases sign <;> first | exact infinite | cases greater
    · cases sign <;> first | exact infinite | cases greater
  · exact undefined
  · rcases second with otherSign | _ | otherSign | ⟨otherSign, other, otherExponent, otherPositive⟩
    · cases otherSign <;> first | exact infinite | cases greater
    · exact undefined
    · cases greater
    · cases otherSign with
      | positive => cases greater
      | negative => exact .ofCanonical rfl secondCanonical
  · rcases second with otherSign | _ | otherSign | ⟨otherSign, other, otherExponent, otherPositive⟩
    · cases sign <;> cases otherSign <;> first | exact infinite | cases greater
    · exact undefined
    · cases sign with
      | positive => exact .ofCanonical rfl canonical
      | negative => cases greater
    · have above := aligned_difference_pos canonical secondCanonical greater
      have least : -1074 ≤ min exponent otherExponent :=
        Int.le_min.mpr ⟨canonical.2.1, secondCanonical.2.1⟩
      rcases round_finite (Int.lt_toNat.mpr above) least .positive with
        ⟨rounded, place, roundedPositive, equal, short, placeLeast, -⟩
      have difference : UnpackedFloat.sub .binary64 (.finite sign mantissa exponent positive)
          (.finite otherSign other otherExponent otherPositive) =
            .finite .positive rounded place roundedPositive :=
        (normalize_of_pos above _ .positive).trans equal
      rw [difference]
      refine ⟨rfl, ?_⟩
      intro sign mantissa exponent positive same
      cases same
      exact ⟨short, placeLeast⟩

theorem le_iff {first second : Float} :
    first ≤ second ↔ first.toModel.unpack.le second.toModel.unpack = true :=
  decide_eq_true_iff

theorem unpack_zero : (0.0 : Float).toModel.unpack = .zero .positive := by
  have bits : (0.0 : Float).toModel.toBits = 0 := by decide +kernel
  rw [Float.Model.unpack, bits]
  rfl

/-- The difference of two doubles is not at most zero unless the first is at most the
second. -/
theorem not_sub_le_zero {first second : Float} (greater : ¬ first ≤ second) :
    ¬ first - second ≤ 0.0 := by
  rw [le_iff, Bool.not_eq_true] at greater
  have excess := isExcess_sub (isCanonical_unpack first.toModel.toBits.toBitVec)
    (isCanonical_unpack second.toModel.toBits.toBitVec) greater
  have exceeds : exceedsZero (first - second).toModel.unpack = true :=
    exceedsZero_unpack_pack excess.1 excess.2
  rw [le_iff, unpack_zero, le_zero, exceeds]
  decide

end Montage.Double
