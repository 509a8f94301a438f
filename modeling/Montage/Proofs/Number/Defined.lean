import Montage.Proofs.Number.Difference

/-! Sums and differences of doubles that are defined. Two of them are undefined only where two
infinities meet; a sum of times from zero on, and what is left of a time when an earlier one is
taken away, are such times again. -/

namespace Montage.Double

open Float.Model
open Float.Model.UnpackedFloat

def reachesZero : UnpackedFloat → Bool
  | .zero _ | .infinity .positive | .finite .positive .. => true
  | _ => false

theorem reachesZero_of_exceedsZero {number : UnpackedFloat} (exceeds : exceedsZero number = true)
    (defined : number ≠ .notANumber) : reachesZero number = true := by
  rcases number with sign | _ | sign | ⟨sign, mantissa, exponent, positive⟩
  · cases sign with
    | positive => rfl
    | negative => cases exceeds
  · exact absurd rfl defined
  · rfl
  · cases sign with
    | positive => rfl
    | negative => cases exceeds

/-! ## Packing -/

theorem isFinite_unpack_packComponents {exponent : BitVec 11} (notFull : exponent ≠ -1#11)
    (sign : Sign) (mantissa : BitVec 52) :
    (UnpackedFloat.unpack .binary64 (packComponents .binary64 sign exponent mantissa)).isFinite =
      true := by
  generalize bitsAre : packComponents .binary64 sign exponent mantissa = bits
  have stillNotFull : @unpackExponent .binary64 bits ≠ -1#11 := by
    rwa [← bitsAre, unpackExponent_packComponents]
  rcases unpack_cases bits with ⟨full, -, -⟩ | ⟨full, -, -⟩ | ⟨-, -, equal⟩ |
    ⟨-, -, _, equal⟩ | ⟨-, -, _, equal⟩
  · exact absurd full stillNotFull
  · exact absurd full stillNotFull
  · rw [equal]
    rfl
  · rw [equal]
    rfl
  · rw [equal]
    rfl

theorem unpack_packedInfinity (sign : Sign) :
    UnpackedFloat.unpack .binary64 (packedInfinity .binary64 sign) = .infinity sign := by
  have full : @unpackExponent .binary64 (packedInfinity .binary64 sign) = -1#11 := by
    cases sign <;> decide
  have none : @unpackMantissa .binary64 (packedInfinity .binary64 sign) = 0#52 := by
    cases sign <;> decide
  have signOf : Sign.ofBitVec (@unpackSign .binary64 (packedInfinity .binary64 sign)) = sign := by
    cases sign <;> rfl
  have unpacked : UnpackedFloat.unpack .binary64 (packedInfinity .binary64 sign) = _ :=
    (if_pos full).trans (if_pos none)
  rw [unpacked, signOf]

/-- A finite number is packed as one, or its exponent is too great. -/
theorem unpack_pack_finite (sign : Sign) (mantissa : Nat) (exponent : Int)
    (positive : 0 < mantissa) :
    (UnpackedFloat.unpack .binary64
      (UnpackedFloat.pack .binary64 (.finite sign mantissa exponent positive))).isFinite = true ∨
    971 < exponent ∧ UnpackedFloat.unpack .binary64
      (UnpackedFloat.pack .binary64 (.finite sign mantissa exponent positive)) =
        .infinity sign := by
  have bias : Format.binary64.exponentBias = 1023 := rfl
  delta UnpackedFloat.pack
  dsimp only
  split
  · rename_i overflow
    rw [bias] at overflow
    refine .inr ⟨?_, unpack_packedInfinity sign⟩
    omega
  · rename_i small
    split
    · refine .inl (isFinite_unpack_packComponents ?_ _ _)
      intro full
      have fullNumber := congrArg BitVec.toNat full
      rw [bias, BitVec.toNat_ofNat, Nat.mod_eq_of_lt (by omega)] at fullNumber
      have allOnes : (-1#11).toNat = 2047 := rfl
      omega
    · exact .inl (isFinite_unpack_packComponents (by decide) _ _)

theorem exponent_le_of_unpack {bits : BitVec 64} {sign : Sign} {mantissa : Nat} {exponent : Int}
    {positive : 0 < mantissa}
    (unpacked : UnpackedFloat.unpack .binary64 bits = .finite sign mantissa exponent positive) :
    exponent ≤ 971 := by
  rcases unpack_cases bits with ⟨-, -, equal⟩ | ⟨-, -, equal⟩ | ⟨-, -, equal⟩ |
    ⟨least, -, _, equal⟩ | ⟨notFull, -, _, equal⟩
  · cases equal.symm.trans unpacked
  · cases equal.symm.trans unpacked
  · cases equal.symm.trans unpacked
  · have leastNumber : (@unpackExponent .binary64 bits).toNat = 0 := congrArg BitVec.toNat least
    cases equal.symm.trans unpacked
    omega
  · have fits : (@unpackExponent .binary64 bits).toNat < 2048 :=
      (@unpackExponent .binary64 bits).isLt
    have notFullNumber : (@unpackExponent .binary64 bits).toNat ≠ 2047 :=
      fun fullNumber => notFull (BitVec.eq_of_toNat_eq fullNumber)
    cases equal.symm.trans unpacked
    omega

theorem ne_notANumber_of_isFinite {number : UnpackedFloat} (finite : number.isFinite = true) :
    number ≠ .notANumber := by
  rintro rfl
  cases finite

theorem defined_unpack_pack {number : UnpackedFloat} (defined : number ≠ .notANumber) :
    UnpackedFloat.unpack .binary64 (UnpackedFloat.pack .binary64 number) ≠ .notANumber := by
  rcases number with sign | _ | sign | ⟨sign, mantissa, exponent, positive⟩
  · have again : UnpackedFloat.unpack .binary64 (UnpackedFloat.pack .binary64 (.infinity sign)) =
        .infinity sign := unpack_packedInfinity sign
    rw [again]
    nofun
  · exact absurd rfl defined
  · apply ne_notANumber_of_isFinite
    cases sign with
    | positive => decide
    | negative => decide
  · rcases unpack_pack_finite sign mantissa exponent positive with finite | ⟨-, infinite⟩
    · exact ne_notANumber_of_isFinite finite
    · rw [infinite]
      nofun

/-! ## Operations on what is unpacked -/

theorem normalize_of_neg {mantissa : Int} (negative : mantissa < 0) (exponent : Int)
    (zeroSign : Sign) :
    UnpackedFloat.normalize .binary64 mantissa exponent zeroSign =
      UnpackedFloat.round .binary64 .negative (-mantissa).toNat exponent := by
  rw [UnpackedFloat.normalize, Int.compare_eq_lt.mpr negative]

theorem normalize_ne_notANumber (mantissa : Int) {exponent : Int} (least : -1074 ≤ exponent)
    (zeroSign : Sign) :
    UnpackedFloat.normalize .binary64 mantissa exponent zeroSign ≠ .notANumber := by
  intro undefined
  rcases Int.lt_trichotomy mantissa 0 with negative | rfl | positive
  · rcases round_finite (Int.lt_toNat.mpr (Int.neg_pos.mpr negative)) least .negative with
      ⟨_, _, _, equal, -⟩
    rw [normalize_of_neg negative, equal] at undefined
    cases undefined
  · cases undefined
  · rcases round_finite (Int.lt_toNat.mpr positive) least .positive with ⟨_, _, _, equal, -⟩
    rw [normalize_of_pos positive, equal] at undefined
    cases undefined

section

variable {first second : UnpackedFloat} (canonical : IsCanonical first)
  (secondCanonical : IsCanonical second) (defined : first ≠ .notANumber)
  (finite : second.isFinite = true)
include canonical secondCanonical defined finite

theorem defined_add : UnpackedFloat.add .binary64 first second ≠ .notANumber := by
  rcases second with _ | _ | otherSign | ⟨otherSign, other, otherExponent, otherPositive⟩
  · cases finite
  · cases finite
  · rcases first with sign | _ | sign | ⟨sign, mantissa, exponent, positive⟩
    · nofun
    · exact absurd rfl defined
    · cases sign <;> cases otherSign <;> nofun
    · nofun
  · rcases first with sign | _ | sign | ⟨sign, mantissa, exponent, positive⟩
    · nofun
    · exact absurd rfl defined
    · nofun
    · exact normalize_ne_notANumber _ (Int.le_min.mpr ⟨canonical.2.1, secondCanonical.2.1⟩) _

theorem defined_sub : UnpackedFloat.sub .binary64 first second ≠ .notANumber := by
  rcases second with _ | _ | otherSign | ⟨otherSign, other, otherExponent, otherPositive⟩
  · cases finite
  · cases finite
  · rcases first with sign | _ | sign | ⟨sign, mantissa, exponent, positive⟩
    · nofun
    · exact absurd rfl defined
    · cases sign <;> cases otherSign <;> nofun
    · nofun
  · rcases first with sign | _ | sign | ⟨sign, mantissa, exponent, positive⟩
    · nofun
    · exact absurd rfl defined
    · nofun
    · exact normalize_ne_notANumber _ (Int.le_min.mpr ⟨canonical.2.1, secondCanonical.2.1⟩) _

end

def IsTime (number : UnpackedFloat) : Prop :=
  reachesZero number = true ∧ ∀ sign mantissa exponent positive,
    number = .finite sign mantissa exponent positive → mantissa < 2 ^ 53 ∧ -1074 ≤ exponent

theorem IsTime.ofCanonical {number : UnpackedFloat} (reaches : reachesZero number = true)
    (canonical : IsCanonical number) : IsTime number := by
  refine ⟨reaches, ?_⟩
  rintro sign mantissa exponent positive rfl
  exact ⟨canonical.1, canonical.2.1⟩

theorem isTime_normalize {mantissa exponent : Int} (positive : 0 < mantissa)
    (least : -1074 ≤ exponent) (zeroSign : Sign) :
    IsTime (UnpackedFloat.normalize .binary64 mantissa exponent zeroSign) := by
  rcases round_finite (Int.lt_toNat.mpr positive) least .positive with
    ⟨rounded, place, roundedPositive, equal, short, placeLeast, -⟩
  rw [normalize_of_pos positive, equal]
  refine ⟨rfl, ?_⟩
  intro sign mantissa exponent positive same
  cases same
  exact ⟨short, placeLeast⟩

theorem isTime_add {first second : UnpackedFloat} (canonical : IsCanonical first)
    (secondCanonical : IsCanonical second) (reaches : reachesZero first = true)
    (secondReaches : reachesZero second = true) :
    IsTime (UnpackedFloat.add .binary64 first second) := by
  have infinite : IsTime (.infinity .positive) := .ofCanonical rfl trivial
  rcases first with sign | _ | sign | ⟨sign, mantissa, exponent, positive⟩
  · cases sign with
    | negative => cases reaches
    | positive =>
        rcases second with otherSign | _ | otherSign | ⟨otherSign, _, _, _⟩
        · cases otherSign with
          | negative => cases secondReaches
          | positive => exact infinite
        · cases secondReaches
        · exact infinite
        · exact infinite
  · cases reaches
  · rcases second with otherSign | _ | otherSign | ⟨otherSign, other, otherExponent, otherPositive⟩
    · exact .ofCanonical secondReaches trivial
    · cases secondReaches
    · cases sign <;> cases otherSign <;> exact .ofCanonical rfl trivial
    · exact .ofCanonical secondReaches secondCanonical
  · rcases second with otherSign | _ | otherSign | ⟨otherSign, other, otherExponent, otherPositive⟩
    · exact .ofCanonical secondReaches trivial
    · cases secondReaches
    · exact .ofCanonical reaches canonical
    · cases sign with
      | negative => cases reaches
      | positive =>
          cases otherSign with
          | negative => cases secondReaches
          | positive =>
              refine isTime_normalize ?_ (Int.le_min.mpr ⟨canonical.2.1, secondCanonical.2.1⟩) _
              have shifted : (0 : Int) <
                  (mantissa <<< (exponent - min exponent otherExponent).toNat : Nat) := by
                rw [Nat.shiftLeft_eq]
                exact Int.natCast_pos.mpr (Nat.mul_pos positive (Nat.two_pow_pos _))
              exact Int.add_pos_of_pos_of_nonneg shifted (Int.natCast_nonneg _)

theorem reachesZero_unpack_pack {number : UnpackedFloat} (time : IsTime number) :
    reachesZero (UnpackedFloat.unpack .binary64 (UnpackedFloat.pack .binary64 number)) = true := by
  rcases time with ⟨reaches, fits⟩
  rcases number with sign | _ | sign | ⟨sign, mantissa, exponent, positive⟩
  · cases sign with
    | negative => cases reaches
    | positive => decide
  · cases reaches
  · cases sign with
    | negative => decide
    | positive => decide
  · cases sign with
    | negative => cases reaches
    | positive =>
        exact reachesZero_of_exceedsZero (exceedsZero_unpack_pack rfl fits)
          (defined_unpack_pack nofun)

/-! ## Times that follow each other -/

theorem reachesZero_of_not_lt_zero {number : UnpackedFloat} (defined : number ≠ .notANumber)
    {sign : Sign} (notBelow : number.lt (.zero sign) = false) : reachesZero number = true := by
  rcases number with sign | _ | sign | ⟨sign, mantissa, exponent, positive⟩
  · cases sign with
    | positive => rfl
    | negative => cases notBelow
  · exact absurd rfl defined
  · rfl
  · cases sign with
    | positive => rfl
    | negative => cases notBelow

/-- What is not at most a time reaches zero, and the time is finite. -/
theorem reachesZero_of_not_le {upper lower : UnpackedFloat} (defined : upper ≠ .notANumber)
    (reaches : reachesZero lower = true) (greater : upper.le lower = false) :
    reachesZero upper = true ∧ lower.isFinite = true := by
  rcases upper with sign | _ | sign | ⟨sign, mantissa, exponent, positive⟩
  · rcases lower with otherSign | _ | otherSign | ⟨otherSign, other, otherExponent, otherPositive⟩
    · cases otherSign with
      | positive => cases sign <;> cases greater
      | negative => cases reaches
    · cases reaches
    · cases sign with
      | positive => exact ⟨rfl, rfl⟩
      | negative => cases greater
    · cases sign with
      | positive => exact ⟨rfl, rfl⟩
      | negative => cases greater
  · exact absurd rfl defined
  · rcases lower with otherSign | _ | otherSign | ⟨otherSign, other, otherExponent, otherPositive⟩
    · cases otherSign with
      | positive => cases greater
      | negative => cases reaches
    · cases reaches
    · exact ⟨rfl, rfl⟩
    · exact ⟨rfl, rfl⟩
  · rcases lower with otherSign | _ | otherSign | ⟨otherSign, other, otherExponent, otherPositive⟩
    · cases otherSign with
      | positive => cases greater
      | negative => cases reaches
    · cases reaches
    · cases sign with
      | positive => exact ⟨rfl, rfl⟩
      | negative => cases greater
    · cases sign with
      | positive => exact ⟨rfl, rfl⟩
      | negative =>
          cases otherSign with
          | positive => cases greater
          | negative => cases reaches

theorem isTime_sub_self {number : UnpackedFloat} (finite : number.isFinite = true) :
    IsTime (UnpackedFloat.sub .binary64 number number) := by
  rcases number with sign | _ | sign | ⟨sign, mantissa, exponent, positive⟩
  · cases finite
  · cases finite
  · cases sign <;> exact .ofCanonical rfl trivial
  · have none : UnpackedFloat.sub .binary64 (.finite sign mantissa exponent positive)
        (.finite sign mantissa exponent positive) = .zero .positive := by
      change UnpackedFloat.normalize .binary64
        (sign.apply (mantissa <<< (exponent - min exponent exponent).toNat : Nat) -
          sign.apply (mantissa <<< (exponent - min exponent exponent).toNat : Nat)) _ .positive = _
      rw [Int.sub_self]
      rfl
    rw [none]
    exact .ofCanonical rfl trivial

/-- The time that something lies before zero. -/
theorem isTime_zero_sub {number : UnpackedFloat} (canonical : IsCanonical number) {sign : Sign}
    (below : number.lt (.zero sign) = true) :
    IsTime (UnpackedFloat.sub .binary64 (.zero sign) number) := by
  rcases number with sign | _ | sign | ⟨sign, mantissa, exponent, positive⟩
  · cases sign with
    | positive => cases below
    | negative => exact .ofCanonical rfl trivial
  · cases below
  · cases below
  · cases sign with
    | positive => cases below
    | negative => exact .ofCanonical rfl canonical

/-- What is left of a finite time when a smaller one is taken away is finite. -/
theorem isFinite_sub {first second : UnpackedFloat}
    (bounded : ∀ sign mantissa exponent positive,
      first = .finite sign mantissa exponent positive → exponent ≤ 971)
    (canonical : IsCanonical first) (secondCanonical : IsCanonical second)
    (finite : first.isFinite = true) (secondFinite : second.isFinite = true)
    (reaches : reachesZero second = true) (greater : first.le second = false) :
    (UnpackedFloat.unpack .binary64
      (UnpackedFloat.pack .binary64 (UnpackedFloat.sub .binary64 first second))).isFinite =
        true := by
  have packed {sign : Sign} {mantissa : Nat} {exponent : Int} {positive : 0 < mantissa}
      (small : exponent ≤ 971) :
      (UnpackedFloat.unpack .binary64 (UnpackedFloat.pack .binary64
        (.finite sign mantissa exponent positive))).isFinite = true := by
    rcases unpack_pack_finite sign mantissa exponent positive with finite | ⟨great, -⟩
    · exact finite
    · omega
  rcases second with _ | _ | otherSign | ⟨otherSign, other, otherExponent, otherPositive⟩
  · cases secondFinite
  · cases secondFinite
  · rcases first with _ | _ | sign | ⟨sign, mantissa, exponent, positive⟩
    · cases finite
    · cases finite
    · cases greater
    · exact packed (bounded _ _ _ _ rfl)
  · rcases first with _ | _ | sign | ⟨sign, mantissa, exponent, positive⟩
    · cases finite
    · cases finite
    · cases otherSign with
      | positive => cases greater
      | negative => cases reaches
    · have above := aligned_difference_pos canonical secondCanonical greater
      have least : -1074 ≤ min exponent otherExponent :=
        Int.le_min.mpr ⟨canonical.2.1, secondCanonical.2.1⟩
      have small := bounded _ _ _ _ rfl
      cases otherSign with
      | negative => cases reaches
      | positive =>
          cases sign with
          | negative => cases greater
          | positive =>
              rcases round_finite (Int.lt_toNat.mpr above) least .positive with
                ⟨rounded, place, roundedPositive, equal, -, -, enough⟩
              have difference : UnpackedFloat.sub .binary64
                  (.finite .positive mantissa exponent positive)
                  (.finite .positive other otherExponent otherPositive) =
                    .finite .positive rounded place roundedPositive :=
                (normalize_of_pos above _ .positive).trans equal
              have taken : (0 : Int) <
                  (other <<< (otherExponent - min exponent otherExponent).toNat : Nat) := by
                rw [Nat.shiftLeft_eq]
                exact Int.natCast_pos.mpr (Nat.mul_pos otherPositive (Nat.two_pow_pos _))
              have below := enough mantissa (exponent - min exponent otherExponent).toNat
                (by
                  rw [← Nat.shiftLeft_eq]
                  simp only [Sign.apply] at above ⊢
                  omega) canonical.1
              rw [difference]
              exact packed (by omega)

end Montage.Double
