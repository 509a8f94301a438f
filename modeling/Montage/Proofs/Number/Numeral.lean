import Montage.Proofs.Number.Decimal

/-! The numbers that decimal texts denote, and that the texts of numbers denote them. Digits are
read without an end: a numeral may be as long as it likes. -/

namespace Montage

/-! ## Integers -/

def naturalOf? (digits : List Char) : Option Nat :=
  if digits ≠ [] ∧ digits.all Char.isDigit then some (Nat.ofDigitChars 10 digits 0) else none

def integerOf? : List Char → Option Int
  | '-' :: digits => (naturalOf? digits).map fun (number : Nat) => -(number : Int)
  | digits => (naturalOf? digits).map Int.ofNat

example : integerOf? ['-', '1', '2'] = some (-12) ∧ integerOf? ['1', 'x'] = none := by decide

theorem naturalOf?_toDigits (number : Nat) : naturalOf? (Nat.toDigits 10 number) = some number := by
  have digits : (Nat.toDigits 10 number).all Char.isDigit = true :=
    List.all_eq_true.mpr fun _ => isDigit_of_mem_toDigits
  rw [naturalOf?, if_pos ⟨Nat.toDigits_ne_nil, digits⟩, Nat.ofDigitChars_ten_toDigits]

theorem integerOf?_toDigits (number : Nat) :
    integerOf? (Nat.toDigits 10 number) = some (number : Int) := by
  have noSign : ∀ rest, Nat.toDigits 10 number ≠ '-' :: rest := by
    intro rest equal
    have member : '-' ∈ Nat.toDigits 10 number := equal ▸ List.mem_cons_self
    exact absurd (isDigit_of_mem_toDigits member) (by decide)
  unfold integerOf?
  split
  · exact absurd ‹_› (noSign _)
  · rw [naturalOf?_toDigits]
    rfl

/-- An integer is read back from its text. -/
theorem integerOf?_integerText (number : Int) :
    integerOf? (integerText number).toList = some number := by
  rcases Int.lt_or_le number 0 with negative | nonneg
  · have text : (integerText number).toList = '-' :: Nat.toDigits 10 number.natAbs := by
      simp [integerText, decimalDigits, negative]
    rw [text, integerOf?, naturalOf?_toDigits, Option.map_some]
    congr 1
    omega
  · rw [integerText_toList_of_nonneg nonneg, integerOf?_toDigits]
    congr 1
    omega

theorem eq_sign_or_isDigit_of_mem_integerText {number : Int} {char : Char}
    (member : char ∈ (integerText number).toList) : char = '-' ∨ char.isDigit = true := by
  rw [integerText, String.toList_ofList, List.mem_append] at member
  rcases member with sign | digit
  · split at sign
    · exact .inl (List.mem_singleton.mp sign)
    · cases sign
  · exact .inr (isDigit_of_mem_toDigits digit)

end Montage
