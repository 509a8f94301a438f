import Montage.Document.Value

/-! What is wrong with a manifest. -/

namespace Montage

inductive ManifestFault where
  | noClips
  | clipsNotAList
  | clipNotAMap (index : Nat) (given : Value)
  | fieldMissing (index : Nat) (field : String)
  | trackNotAnInteger (index : Nat) (given : Value)
  | overlayOnMainTrack (index : Nat)
  | notAPair (field : String) (given : Value)
  | notNumbers (field : String) (given : Value)
  | notANumber (field : String) (given : Value)
  | notFinite (field : String) (given : Value)
  | badRate (given : Value)
  | unknownVariable (name : String)

namespace ManifestFault

def shown? : ManifestFault → Option Value
  | .clipNotAMap _ given | .trackNotAnInteger _ given | .notAPair _ given
  | .notNumbers _ given | .notANumber _ given | .notFinite _ given | .badRate given => some given
  | .noClips | .clipsNotAList | .fieldMissing .. | .overlayOnMainTrack _
  | .unknownVariable _ => none

def message : ManifestFault → String
  | .noClips => "Timeline manifest: missing required 'clips' field"
  | .clipsNotAList => "Timeline manifest: 'clips' must be a list"
  | .clipNotAMap index given => s!"Clip {index}: expected a mapping, got " ++ given.literal
  | .fieldMissing index field => s!"Clip {index}: missing required field '" ++ field ++ "'"
  | .trackNotAnInteger index given => s!"Clip {index}: track must be an int, got " ++ given.literal
  | .overlayOnMainTrack index =>
      s!"Clip {index}: overlay settings are only valid on tracks > 0"
  | .notAPair field given => field ++ " must be a two-element list, got " ++ given.literal
  | .notNumbers field given => field ++ " must contain numbers, got " ++ given.literal
  | .notANumber field given => field ++ " must be a number, got " ++ given.literal
  | .notFinite field given => field ++ " must be finite, got " ++ given.literal
  | .badRate given =>
      "Timeline manifest: output.fps must be a positive int, got " ++ given.literal
  | .unknownVariable name => "Unknown path variable: $\x7b" ++ name ++ "\x7d"

end ManifestFault

end Montage
