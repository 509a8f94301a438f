import Montage.Timeline.Basic

/-! Which timelines are well formed, what is wrong with the others, and the clips of a
well-formed one in the order in which they are heard and drawn. -/

namespace Montage

inductive Violation (τ : Type) where
  | noClips
  | clipTimeNotFinite (index : Nat) (source field : String) (time : τ)
  | trimRange (index : Nat) (source : String) (trimStart trimEnd : τ)
  | negativeTrack (index : Nat) (track : Track)
  | opacity (index : Nat) (value : τ)
  | misfit (cause : Misfit)
  | sizeNotPositive (index : Nat) (size : List Value)
  | blendMode (index : Nat) (mode : String)
  | trimNotFinite (field : String) (time : τ)
  | globalRange (trimStart trimEnd : τ)
  | noMainClip

def blendModes : List String :=
  ["multiply", "normal", "overlay", "screen"]

variable {τ : Type} [Quantity τ]

namespace Violation

private def rangeText (first last : τ) : String :=
  "[" ++ Quantity.literal first ++ ", " ++ Quantity.literal last ++ ")"

def message : Violation τ → String
  | .noClips => "Timeline has no clips"
  | .clipTimeNotFinite index source field time =>
      s!"Clip {index} ({source}): {field} must be finite, got " ++ Quantity.literal time
  | .trimRange index source trimStart trimEnd =>
      s!"Clip {index} ({source}): invalid trim range " ++ rangeText trimStart trimEnd
  | .negativeTrack index track =>
      s!"Clip {index}: track must be >= 0, got " ++ track.literal
  | .opacity index value =>
      s!"Clip {index}: opacity must be within [0, 1], got " ++ Quantity.literal value
  | .misfit _ => "overlay size must be two numbers"
  | .sizeNotPositive index size =>
      s!"Clip {index}: overlay size must be positive, got " ++ (Value.tuple size).literal
  | .blendMode index mode =>
      s!"Clip {index}: invalid blend_mode '" ++ mode ++ "'. Valid: " ++
        (Value.list (blendModes.map .text)).literal
  | .trimNotFinite field time =>
      s!"Timeline {field} must be finite, got " ++ Quantity.literal time
  | .globalRange trimStart trimEnd => "Invalid global trim range " ++ rangeText trimStart trimEnd
  | .noMainClip => "Timeline has no clip on the main track (track 0)"

def isWritable : Violation τ → Bool
  | .negativeTrack _ track => track.toValue.isWritable
  | .sizeNotPositive _ size => Value.areWritable size
  | _ => true

end Violation

/-- A timeline that passed every check, with its main clips in order of their start and
its overlay clips in order of track and start, each with the way it is drawn. Clips that
start together keep their order. -/
structure CheckedTimeline (τ : Type) where
  timeline : Timeline τ
  mainClips : List (Clip τ)
  layers : List (Layer τ)

def require (holds : Bool) (violation : Violation τ) : Except (Violation τ) Unit :=
  if holds then .ok () else .error violation

/-! ## Checks -/

def sizeIsPositive (size : List Value) : Except Misfit Bool := do
  let (width, height) ← twoOf size
  if ← width.isAtMostZero then return false
  return !(← height.isAtMostZero)

def Overlay.check (overlay : Overlay τ) (index : Nat) : Except (Violation τ) Unit := do
  let opacity := overlay.opacity
  require (Quantity.atMost 0.0 opacity && Quantity.atMost opacity 1.0) (.opacity index opacity)
  require (← (sizeIsPositive overlay.size).mapError .misfit) (.sizeNotPositive index overlay.size)
  require (blendModes.contains overlay.blendMode) (.blendMode index overlay.blendMode)

def Clip.check (clip : Clip τ) (index : Nat) : Except (Violation τ) Unit := do
  let finite (field : String) (time : τ) :=
    require (Quantity.isFinite time) (.clipTimeNotFinite index clip.source field time)
  finite "trim_start" clip.trimStart
  finite "trim_end" clip.trimEnd
  finite "start_time" clip.startTime
  require (!(Quantity.less clip.trimStart 0.0 || Quantity.atMost clip.trimEnd clip.trimStart))
    (.trimRange index clip.source clip.trimStart clip.trimEnd)
  require (0 ≤ clip.track.number) (.negativeTrack index clip.track)
  match clip.overlay with
  | some overlay => overlay.check index
  | none => pure ()

def checkClips : List (Clip τ) → (index : Nat) → Except (Violation τ) Unit
  | [], _ => .ok ()
  | clip :: rest, index => do
      clip.check index
      checkClips rest (index + 1)

def Timeline.checkTrim (timeline : Timeline τ) : Except (Violation τ) Unit := do
  let finite (field : String) (time : τ) :=
    require (Quantity.isFinite time) (.trimNotFinite field time)
  finite "global_trim_start" timeline.trimStart
  match timeline.trimEnd with
  | some trimEnd => finite "global_trim_end" trimEnd
  | none => pure ()
  require (!Quantity.atMost timeline.resolvedEnd timeline.trimStart)
    (.globalRange timeline.trimStart timeline.resolvedEnd)

/-! ## Order -/

def startsFirst (clip other : Clip τ) : Bool :=
  !Quantity.less other.startTime clip.startTime

def drawnFirst (clip other : Clip τ) : Bool :=
  clip.track.number < other.track.number ||
    (clip.track.number == other.track.number && startsFirst clip other)

def Timeline.mainClips (timeline : Timeline τ) : List (Clip τ) :=
  (timeline.clips.filter (·.track.isMain)).mergeSort startsFirst

def Timeline.overlayClips (timeline : Timeline τ) : List (Clip τ) :=
  (timeline.clips.filter (!·.track.isMain)).mergeSort drawnFirst

def Layer.ofClip (clip : Clip τ) : Layer τ where
  clip
  overlay := clip.overlay.getD .standard

/-- Checks a timeline and sorts its clips. The first violation wins: clips, then the
global trim, then the main track. -/
def Timeline.check (timeline : Timeline τ) : Except (Violation τ) (CheckedTimeline τ) := do
  require (!timeline.clips.isEmpty) .noClips
  checkClips timeline.clips 0
  timeline.checkTrim
  require (timeline.clips.any (·.track.isMain)) .noMainClip
  return {
    timeline
    mainClips := timeline.mainClips
    layers := timeline.overlayClips.map .ofClip }

end Montage
