import Montage.Export.Extraction

/-! The sound of the main clips, joined in their order. -/

namespace Montage

variable {τ : Type} [Quantity τ]

/-! ## The list of parts -/

/-- A single quote within quotes: they are closed, the quote is written with a backslash,
and they are opened again. -/
def listedChars (path : List Char) : List Char :=
  "file '".toList ++ path.flatMap closeAroundQuote ++ ['\'']

def Host.listedLine (host : Host) (path : Path) : String :=
  String.ofList (listedChars (host.resolve path).text.toList)

def Host.listText (host : Host) (paths : List Path) : String :=
  "\n".intercalate (paths.map host.listedLine) ++ "\n"

def joinArguments (list output : Path) : List String :=
  ["-f", "concat", "-safe", "0", "-i", list.text, "-c", "copy", "-y", output.text]

/-! ## Files -/

def Act.writeFile (path : Path) (content : String) : Act Unit := do
  let host := (← getThe Session).host
  let tree ← Act.ofExcept .file (host.tree.write host.workingPlace path content)
  Act.changeHost fun host => { host with tree }

def Act.copyFile (source target : Path) : Act Unit := do
  let host := (← getThe Session).host
  let content ← Act.ofExcept .file (host.tree.read host.workingPlace source)
  Act.writeFile target content

/-! ## The whole -/

def extractSound (checked : CheckedTimeline τ) (workspace : Workspace) (settings : Settings) :
    Act (List Path) := do
  let ordinals := trackOrdinals (checked.mainClips.map Clip.track)
  let extractions ← (checked.mainClips.zip ordinals).mapM fun (clip, ordinal) =>
    extract clip .audio checked.timeline workspace settings ordinal
  return (extractions.filterMap id).map Extraction.output

def joinSound (parts : List Path) (workspace : Workspace) : Act Path := do
  let output := workspace.file "audio.m4a"
  match parts with
  | [] =>
      Act.fail {
        kind := .missingAudio
        message := "no audio track available"
        stage := some Stage.audioAssembling.name }
  | [part] =>
      Act.copyFile part output
      Act.writeLog .debug "audio" ("Single audio segment copied to " ++ output.text)
      return output
  | _ =>
      let list := workspace.file "audio-concat.txt"
      let host := (← getThe Session).host
      Act.writeFile list (host.listText parts)
      Act.writeLog .debug "audio" s!"Concatenating {parts.length} audio segments"
      let _ ← runTool (joinArguments list output) (some Stage.audioAssembling.name)
      return output

def assembleSound (checked : CheckedTimeline τ) (workspace : Workspace)
    (settings : Settings) : Act Path := do
  joinSound (← extractSound checked workspace settings) workspace

end Montage
