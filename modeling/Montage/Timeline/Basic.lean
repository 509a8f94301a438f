import Montage.Document.Value
import Montage.Quantity

/-! Clips on the tracks of a timeline. Track 0 is the main track: it fills the picture and
gives all of the sound. The clips of other tracks are drawn on top of it. -/

namespace Montage

/-- A track as it was given. A truth value counts as track 0 or 1 and keeps its
spelling. -/
inductive Track where
  | numbered (number : Int)
  | truth (value : Bool)
  deriving DecidableEq, Repr

namespace Track

def number : Track → Int
  | .numbered number => number
  | .truth value => value.toInt

def toValue : Track → Value
  | .numbered number => .int number
  | .truth value => .bool value

def literal (track : Track) : String :=
  track.toValue.literal

def isMain (track : Track) : Bool :=
  track.number == 0

example : (Track.truth false).isMain ∧ (Track.truth true).number = 1 := by decide

end Track

variable {τ : Type}

structure Overlay (τ : Type) where
  position : List Value
  size : List Value
  opacity : τ
  blendMode : String

def Overlay.standard [Quantity τ] : Overlay τ where
  position := pairOf 0 0
  size := pairOf 640 360
  opacity := 0.8
  blendMode := "normal"

structure Clip (τ : Type) where
  source : String
  trimStart : τ
  trimEnd : τ
  track : Track
  startTime : τ
  overlay : Option (Overlay τ)

def Clip.ofTrim [Quantity τ] (source : String) (trimStart trimEnd : τ) : Clip τ where
  source
  trimStart
  trimEnd
  track := .numbered 0
  startTime := 0.0
  overlay := none

structure Timeline (τ : Type) where
  clips : List (Clip τ)
  trimStart : τ
  trimEnd : Option τ

def Timeline.ofClips [Quantity τ] (clips : List (Clip τ)) : Timeline τ where
  clips
  trimStart := 0.0
  trimEnd := none

structure Layer (τ : Type) where
  clip : Clip τ
  overlay : Overlay τ

section

variable [Quantity τ]

def Clip.duration (clip : Clip τ) : τ :=
  clip.trimEnd - clip.trimStart

def Clip.endTime (clip : Clip τ) : τ :=
  clip.startTime + clip.duration

def Timeline.resolvedEnd (timeline : Timeline τ) : τ :=
  match timeline.trimEnd with
  | some trimEnd => trimEnd
  | none =>
      match timeline.clips.map Clip.endTime with
      | [] => timeline.trimStart
      | first :: rest => rest.foldl Quantity.later first

def Timeline.duration (timeline : Timeline τ) : τ :=
  timeline.resolvedEnd - timeline.trimStart

end

end Montage
