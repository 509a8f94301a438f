import Montage.Document.Value

/-! What can be chosen for an export. -/

namespace Montage

/-- The choices for one export. `canvas` is the size of the picture, `fps` its rate;
both are kept as given. With `streamCopy` clips are cut at key frames without encoding
them anew. `timeout` limits one call of ffmpeg, in seconds. Extractions run on up to
`workers` calls at once. -/
structure Settings where
  ffmpeg : Option String := none
  canvas : List Value := pairOf 1920 1080
  fps : Value := .int 30
  codec : String := "libx264"
  audioCodec : String := "aac"
  streamCopy : Bool := false
  workers : Int := 1
  timeout : Option Float := some 3600.0
  workspaceRoot : Option String := none

def gpuCodec : String :=
  "h264_nvenc"

def codecArguments (codec : String) : List String :=
  let quality := if codec = gpuCodec then "-cq" else "-crf"
  ["-c:v", codec, quality, "20", "-pix_fmt", "yuv420p"]

end Montage
