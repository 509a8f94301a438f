import Montage.Timeline.Basic

/-! Clips that ask for more than their source has. -/

namespace Montage

variable {τ : Type} [Quantity τ]

structure Overrun (τ : Type) where
  index : Nat
  trimEnd : τ
  sourceDuration : τ

/-- The clips whose trim end lies past the end of their source by more than a twentieth of
a second: less than that is a matter of how containers round. -/
def Timeline.overruns (timeline : Timeline τ) (sourceDuration : String → τ) :
    List (Overrun τ) :=
  timeline.clips.zipIdx.filterMap fun (clip, index) =>
    let duration := sourceDuration clip.source
    if Quantity.less (duration + 0.05) clip.trimEnd then some ⟨index, clip.trimEnd, duration⟩
    else none

end Montage
