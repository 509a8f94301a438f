import Montage.Export.Extraction
import Montage.Proofs.Number.Difference

/-! Clips that play. A window that is not empty is longer than zero, so that every clip with
a window is extracted. -/

namespace Montage

/-- Numbers in which a difference is at most zero only where it must be. -/
class LawfulQuantity (τ : Type) [Quantity τ] : Prop where
  not_sub_atMost_zero : ∀ {upper lower : τ}, Quantity.atMost upper lower = false →
    Quantity.atMost (upper - lower) 0.0 = false

instance : LawfulQuantity Float where
  not_sub_atMost_zero greater :=
    decide_eq_false (Double.not_sub_le_zero (of_decide_eq_false greater))

variable {τ : Type} [Quantity τ] {clip : Clip τ} {timeline : Timeline τ} {window : Window τ}

theorem Clip.window_not_empty (plays : clip.window? timeline = some window) :
    Quantity.atMost window.stop window.start = false := by
  simp only [window?] at plays
  split at plays
  · cases plays
  · rename_i notEmpty
    cases plays
    exact eq_false_of_ne_true notEmpty

def Clip.extractionIn (clip : Clip τ) (stream : Stream) (timeline : Timeline τ)
    (workspace : Workspace) (ordinal : Int) (settings : Settings) (window : Window τ) :
    Extraction τ where
  window
  output := workspace.assetPath stream.name clip.track ordinal stream.format
  arguments := trimArguments clip.source (clip.sourcePart timeline)
    (workspace.assetPath stream.name clip.track ordinal stream.format).text
    (stream.arguments settings)

theorem Clip.extraction?_eq [LawfulQuantity τ] (clip : Clip τ) (stream : Stream)
    (timeline : Timeline τ) (workspace : Workspace) (ordinal : Int) (settings : Settings) :
    clip.extraction? stream timeline workspace ordinal settings =
      (clip.window? timeline).map
        (clip.extractionIn stream timeline workspace ordinal settings) := by
  unfold extraction?
  cases plays : clip.window? timeline with
  | none => rfl
  | some window =>
      have notZero : Quantity.atMost (clip.sourcePart timeline).duration 0.0 = false := by
        simp only [sourcePart, plays]
        exact LawfulQuantity.not_sub_atMost_zero (window_not_empty plays)
      simp only [notZero, Bool.false_eq_true, if_false, Option.map_some]
      rfl

end Montage
