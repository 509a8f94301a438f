import Montage.Timeline.Check

/-! Where a clip plays once the timeline is cut to its global trim. -/

namespace Montage

variable {τ : Type} [Quantity τ]

structure Window (τ : Type) where
  start : τ
  stop : τ

namespace Window

def bounds (window : Window τ) : List τ :=
  [window.start, window.stop]

def duration (window : Window τ) : τ :=
  window.stop - window.start

end Window

def Clip.outputStart (clip : Clip τ) (timeline : Timeline τ) : τ :=
  clip.startTime - timeline.trimStart

def Clip.window? (clip : Clip τ) (timeline : Timeline τ) : Option (Window τ) :=
  let start := clip.outputStart timeline
  let lower := Quantity.later start 0.0
  let upper := Quantity.earlier (start + clip.duration) timeline.duration
  if Quantity.atMost upper lower then none else some ⟨lower, upper⟩

structure SourcePart (τ : Type) where
  start : τ
  duration : τ

/-- The part of its source that a clip plays; of length zero when it plays nothing. -/
def Clip.sourcePart (clip : Clip τ) (timeline : Timeline τ) : SourcePart τ :=
  match clip.window? timeline with
  | none => ⟨clip.trimStart, 0.0⟩
  | some window =>
      let cut := window.start - clip.outputStart timeline
      ⟨clip.trimStart + cut, window.duration⟩

def greatest : List τ → τ
  | [] => 0.0
  | first :: rest => rest.foldl Quantity.later first

def CheckedTimeline.outputDuration (checked : CheckedTimeline τ) : τ :=
  greatest (checked.mainClips.filterMap fun clip =>
    (clip.window? checked.timeline).map Window.stop)

end Montage
