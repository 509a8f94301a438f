import Montage.Document.Reading
import Montage.Manifest.Field
import Montage.Manifest.Template
import Montage.Settings

/-! Timelines that are written down: the clips, the global trim, and what the manifest says
of the output. Only the presence and the kinds of fields are looked at here; whether the
timeline is well formed is asked when it is checked. -/

namespace Montage

structure Manifest where
  timeline : Timeline Float
  resolution : Option (Int × Int)
  rate : Option Value

namespace Manifest

private def fitting (result : Except Misfit α) : Except Problem α :=
  result.mapError .misfit

private def fault (cause : ManifestFault) : Except Problem α :=
  .error (.ofFault cause)

def orEmpty (given : Option Value) : Value :=
  match given with
  | some value => if value.isGiven then value else .map []
  | none => .map []

/-! ## Clips -/

def readOverlay (block : Value) (index : Nat) : Except Problem (Overlay Float) := do
  let standard : Overlay Float := .standard
  let field (name : String) (default : Value) : Except Problem Value :=
    return (← fitting (block.field? name)).getD default
  let place (name : String) := s!"Clip {index} overlay." ++ name
  let position ← field "position" (.tuple standard.position)
  let size ← field "size" (.tuple standard.size)
  let (x, y) ← readPair Value.toInteger (place "position") position
  let (width, height) ← readPair Value.toInteger (place "size") size
  let opacity ← readNumber (place "opacity") (← field "opacity" (.float standard.opacity))
  let mode ← field "blend_mode" (.text standard.blendMode)
  return {
    position := pairOf x y
    size := pairOf width height
    opacity
    blendMode := ← fitting mode.write }

def readTrack (given : Value) (index : Nat) : Except Problem Track :=
  match given with
  | .int number => .ok (.numbered number)
  | .bool truth => .ok (.truth truth)
  | _ => fault (.trackNotAnInteger index given)

def requiredField (entries : List (Value × Value)) (index : Nat) (name : String) :
    Except Problem Value :=
  match Value.lookup? (.text name) entries with
  | some value => .ok value
  | none => fault (.fieldMissing index name)

def readClip (entry : Value) (index : Nat) (paths : Value) : Except Problem (Clip Float) := do
  let .map entries := entry | fault (.clipNotAMap index entry)
  let source ← requiredField entries index "source"
  let trimStart ← requiredField entries index "trim_start"
  let trimEnd ← requiredField entries index "trim_end"
  let field (name : String) (default : Value) : Value :=
    (Value.lookup? (.text name) entries).getD default
  let track ← readTrack (field "track" (.int 0)) index
  let overlay ← match Value.lookup? (.text "overlay") entries with
    | none => pure none
    | some block =>
        if track.isMain then fault (.overlayOnMainTrack index)
        else some <$> readOverlay (orEmpty block) index
  let time (name : String) := readNumber (s!"Clip {index} " ++ name)
  return {
    source := ← expandVariables paths (← fitting source.write)
    trimStart := ← time "trim_start" trimStart
    trimEnd := ← time "trim_end" trimEnd
    track
    startTime := ← time "start_time" (field "start_time" (.float 0.0))
    overlay }

def readClips (paths : Value) : (entries : List Value) → (index : Nat) →
    Except Problem (List (Clip Float))
  | [], _ => .ok []
  | entry :: rest, index => do
      let clip ← readClip entry index paths
      return clip :: (← readClips paths rest (index + 1))

/-! ## The whole -/

/-- The rate is an integer above zero or the truth value for one. -/
def readRate (given : Value) : Except Problem Value :=
  match given with
  | .int number => if 0 < number then .ok given else fault (.badRate given)
  | .bool true => .ok given
  | _ => fault (.badRate given)

def readOutput (block : Value) (name : String) (read : Value → Except Problem α) :
    Except Problem (Option α) := do
  if ← fitting (block.holds name) then
    return some (← read (← fitting (block.under name)))
  else return none

def readTrim (block : Value) : Except Problem (Float × Option Float) := do
  let start ← readNumber "global_trim.start" ((← fitting (block.field? "start")).getD (.float 0.0))
  match ← fitting (block.field? "end") with
  | none | some .null => return (start, none)
  | some given => return (start, some (← readNumber "global_trim.end" given))

def ofValue (given : Value) : Except Problem Manifest := do
  let document := orEmpty given
  if !(← fitting (document.holds "clips")) then fault .noClips
  let .list entries := ← fitting (document.under "clips") | fault .clipsNotAList
  let paths := (← fitting (document.field? "paths")).getD (.map [])
  let clips ← readClips paths entries 0
  let (trimStart, trimEnd) ← readTrim (orEmpty (← fitting (document.field? "global_trim")))
  let output := orEmpty (← fitting (document.field? "output"))
  let resolution ← readOutput output "resolution" (readPair Value.toInteger "output.resolution")
  let rate ← readOutput output "fps" readRate
  return { timeline := { clips, trimStart, trimEnd }, resolution, rate }

def ofText (text : String) : Except Problem Manifest := do
  let document ← (Document.valueOf text).mapError fun
    | .unreadable => Problem.unreadableDocument
    | .misfit cause => .misfit cause
  ofValue document

def applyOutput (manifest : Manifest) (settings : Settings) : Settings :=
  let sized := match manifest.resolution with
    | some (width, height) => { settings with canvas := pairOf width height }
    | none => settings
  match manifest.rate with
  | some rate => { sized with fps := rate }
  | none => sized

end Manifest

end Montage
