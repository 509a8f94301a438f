import Montage.Number.Fixed
import Montage.Number.Shortest

/-! The numbers in which times and opacities are measured. A montage is computed with
doubles; its laws about time are stated for any such numbers. -/

namespace Montage

/-- Numbers that measure times in seconds and opacities. Comparisons answer for any two
of them, also where one is undefined. -/
class Quantity (τ : Type) extends Add τ, Sub τ, OfScientific τ where
  less : τ → τ → Bool
  atMost : τ → τ → Bool
  isFinite : τ → Bool
  literal : τ → String
  /-- The number rounded to thousandths, as arguments of ffmpeg hold it. -/
  thousandths : τ → String

namespace Quantity

variable {τ : Type} [Quantity τ]

def later (first second : τ) : τ :=
  if less first second then second else first

def earlier (first second : τ) : τ :=
  if less second first then second else first

/-- The two numbers are the same point: neither smaller nor undefined. -/
def same (first second : τ) : Bool :=
  atMost first second && atMost second first

instance : Quantity Float where
  less first second := first < second
  atMost first second := first ≤ second
  isFinite number := number.isFinite
  literal := shortestText
  thousandths := thousandthsText

end Quantity

end Montage
