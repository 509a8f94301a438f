/-! Powers of two, in which doubles are measured, and of ten, in which numerals are. -/

namespace Montage

abbrev twoTo (exponent : Nat) : Nat :=
  Nat.pow 2 exponent

abbrev tenTo (exponent : Nat) : Nat :=
  Nat.pow 10 exponent

example : twoTo 10 = 1024 ∧ tenTo 3 = 1000 ∧ twoTo 0 = tenTo 0 := by decide

end Montage
