import Mathlib.Algebra.Order.Group.Basic
import Mathlib.Algebra.Order.Ring.Rat
import Montage.Proofs.Timeline.Window

/-! Times as exact fractions. Nothing of them is lost when they are added or subtracted, so
that what holds of them is not a matter of rounding. -/

namespace Montage

instance : Quantity ℚ where
  less first second := first < second
  atMost first second := first ≤ second
  isFinite _ := true
  literal := toString
  thousandths number :=
    let thousandths := nearestEven (number.num.natAbs * 1000) number.den
    String.ofList (thousandthsDigits (number < 0) thousandths)

example : Quantity.thousandths (-5 / 4 : ℚ) = "-1.25" := by decide +kernel

theorem rational_zero : (0.0 : ℚ) = 0 := by decide +kernel

instance : LawfulQuantity ℚ where
  not_sub_atMost_zero {upper lower} greater := by
    have above : ¬ upper ≤ lower := of_decide_eq_false greater
    apply decide_eq_false
    rw [rational_zero]
    exact fun atMost => above (sub_nonpos.mp atMost)

/-- A window lasts from its start to its stop. -/
theorem Window.start_add_duration (window : Window ℚ) :
    window.start + window.duration = window.stop :=
  add_sub_cancel window.start window.stop

end Montage
