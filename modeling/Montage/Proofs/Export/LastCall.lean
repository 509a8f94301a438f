import Montage.Export.Exporter

/-! The arguments of the last call. There are none when the rate cannot be written. -/

namespace Montage

variable {τ : Type} [Quantity τ]

def behindInputs (plan : Plan τ) (text output : String) (settings : Settings) : List String :=
  ["-filter_complex", text, "-map", "[" ++ plan.videoLabel ++ "]",
    "-map", integerText plan.audioIndex ++ ":a"] ++
  codecArguments settings.codec ++
  ["-c:a", settings.audioCodec, "-r", settings.fps.plain,
    "-t", Quantity.thousandths plan.duration, "-y", output]

theorem compositionArguments_eq (plan : Plan τ) (text output : String) (settings : Settings) :
    compositionArguments plan text output settings =
      if settings.fps.isWritable then
        .ok (plan.inputArguments ++ behindInputs plan text output settings)
      else .error .tooManyDigits := by
  unfold compositionArguments Value.write
  cases settings.fps.isWritable with
  | false => rfl
  | true => simp [behindInputs, bind, Except.bind, pure, Except.pure]

variable {plan : Plan τ} {text output : String} {settings : Settings} {arguments : List String}

theorem compositionArguments_eq_ok_iff :
    compositionArguments plan text output settings = .ok arguments ↔
      settings.fps.isWritable = true ∧
        plan.inputArguments ++ behindInputs plan text output settings = arguments := by
  rw [compositionArguments_eq]
  cases settings.fps.isWritable <;> simp

theorem compositionArguments_of_rate (rate : settings.fps.isWritable = true) (plan : Plan τ)
    (text output : String) : compositionArguments plan text output settings =
      .ok (plan.inputArguments ++ behindInputs plan text output settings) :=
  compositionArguments_eq_ok_iff.mpr ⟨rate, rfl⟩

theorem compositionArguments_ne_nil
    (written : compositionArguments plan text output settings = .ok arguments) :
    arguments ≠ [] := by
  obtain ⟨-, rfl⟩ := compositionArguments_eq_ok_iff.mp written
  simp [behindInputs]

end Montage
