import Montage.Graph.Plan
import Montage.Tool.Run
import Montage.Workspace

/-! One stream of one clip, cut out of its source into a file of the workspace. -/

namespace Montage

variable {τ : Type} [Quantity τ]

def trimArguments (source : String) (part : SourcePart τ) (output : String)
    (streams : List String) : List String :=
  ["-ss", Quantity.thousandths part.start, "-i", source,
    "-t", Quantity.thousandths part.duration] ++ streams ++ ["-y", output]

inductive Stream where
  | video
  | audio
  deriving DecidableEq, Repr

namespace Stream

def name : Stream → String
  | .video => "video"
  | .audio => "audio"

def format : Stream → String
  | .video => "mp4"
  | .audio => "m4a"

def stage : Stream → Stage
  | .video => .preprocessing
  | .audio => .audioAssembling

def arguments (settings : Settings) : Stream → List String
  | .video =>
      "-an" :: if settings.streamCopy then ["-c:v", "copy"] else codecArguments settings.codec
  | .audio => ["-vn", "-c:a", if settings.streamCopy then "copy" else settings.audioCodec]

end Stream

structure Extraction (τ : Type) where
  window : Window τ
  output : Path
  arguments : List String

def Clip.extraction? (clip : Clip τ) (stream : Stream) (timeline : Timeline τ)
    (workspace : Workspace) (ordinal : Int) (settings : Settings) : Option (Extraction τ) :=
  match clip.window? timeline with
  | none => none
  | some window =>
      let part := clip.sourcePart timeline
      if Quantity.atMost part.duration 0.0 then none
      else
        let output := workspace.assetPath stream.name clip.track ordinal stream.format
        some {
          window
          output
          arguments := trimArguments clip.source part output.text (stream.arguments settings) }

def extract (clip : Clip τ) (stream : Stream) (timeline : Timeline τ) (workspace : Workspace)
    (settings : Settings) (ordinal : Int) : Act (Option (Extraction τ)) :=
  match clip.extraction? stream timeline workspace ordinal settings with
  | none => do
      Act.writeLog .debug "preprocess"
        ("Skipping " ++ stream.name ++ " of " ++ clip.source ++ ": outside the output window")
      return none
  | some extraction => do
      let _ ← Act.ofExcept .misfit clip.track.toValue.write
      let _ ← runTool extraction.arguments (some stream.stage.name)
      return some extraction

def ordinalsFrom (seen : List Int) : List Int → List Nat
  | [] => []
  | track :: rest => seen.count track :: ordinalsFrom (track :: seen) rest

def trackOrdinals (tracks : List Track) : List Nat :=
  ordinalsFrom [] (tracks.map Track.number)

example : trackOrdinals [.numbered 0, .numbered 2, .numbered 0, .truth false] = [0, 0, 1, 2] := by
  decide

end Montage
