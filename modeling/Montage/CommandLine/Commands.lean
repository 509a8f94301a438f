import Montage.CommandLine.Request
import Montage.Export.Exporter
import Montage.Manifest.Basic
import Montage.Timeline.Overrun
import Montage.Timeline.Sources

/-! The commands: what they do on a machine, what they print and how they end. -/

namespace Montage

inductive Halt where
  | usage (fault : UsageFault)
  | failed
  | broken (problem : Problem)

abbrev CommandStep (α : Type) := ExceptT Halt (StateM Session) α

namespace CommandStep

def ofExcept (result : Except Problem α) : CommandStep α :=
  match result with
  | .ok value => pure value
  | .error problem => throw (.broken problem)

def changeHost (change : Host → Host) : CommandStep Unit :=
  modify (·.updateHost change)

def print (line : String) : CommandStep Unit :=
  changeHost (·.print line)

def complain (line : String) : CommandStep Unit :=
  changeHost (·.complain line)

def orTell (result : Except Problem α) : CommandStep α :=
  match result with
  | .ok value => pure value
  | .error (.failure failure) => do
      complain failure.message
      throw .failed
  | .error problem => throw (.broken problem)

end CommandStep

open CommandStep

/-! ## Timelines -/

def ExportChoices.isSingle (choices : ExportChoices) : Except UsageFault Bool :=
  let isSingle := choices.source.isSome || choices.start.isSome || choices.stop.isSome
  if isSingle && choices.manifest.isSome then .error .mixedModes
  else if !isSingle && choices.manifest.isNone then .error .nothingToExport
  else .ok isSingle

def ExportChoices.settings (choices : ExportChoices) : Settings where
  ffmpeg := choices.ffmpeg
  codec := if choices.gpu then gpuCodec else ({} : Settings).codec
  streamCopy := choices.streamCopy
  workers := choices.workers
  timeout := some choices.timeout
  workspaceRoot := choices.workspaceRoot

def Host.loadManifest (host : Host) (name : String) (settings : Settings) :
    Except Problem (Timeline Float × Settings) := do
  let text ← (host.tree.readSpelled host.workingPlace name).mapError .file
  let manifest ← Manifest.ofText text
  return (manifest.timeline, manifest.applyOutput settings)

def resolveChoices (choices : ExportChoices) : CommandStep (Timeline Float × Settings) := do
  let isSingle ← match choices.isSingle with
    | .ok isSingle => pure isSingle
    | .error fault => throw (.usage fault)
  match isSingle, choices.source, choices.start, choices.stop with
  | true, some source, some start, some stop =>
      if choices.workers < 1 then throw (.usage .noWorkers)
      return (.ofTrim source start stop, choices.settings)
  | true, _, _, _ => throw (.usage .incompleteClip)
  | false, _, _, _ =>
      if choices.workers < 1 then throw (.usage .noWorkers)
      ofExcept ((← get).host.loadManifest (choices.manifest.getD "") choices.settings)

/-! ## Checking only -/

def secondsText (seconds : Float) : String :=
  fixedText 1 seconds ++ "s"

def Clip.summary (clip : Clip Float) : String :=
  "@" ++ secondsText clip.startTime ++ "  [" ++ secondsText clip.trimStart ++ ", " ++
    secondsText clip.trimEnd ++ ")  " ++ clip.source

def Overrun.warning (overrun : Overrun Float) : String :=
  s!"  WARN   clip {overrun.index}: trim_end " ++ secondsText overrun.trimEnd ++
    " is past source end " ++ secondsText overrun.sourceDuration

def tellLayer (layer : Layer Float) : CommandStep Unit := do
  let track ← ofExcept (layer.clip.track.toValue.write.mapError Problem.misfit)
  print ("  t" ++ track ++ "    " ++ layer.clip.summary)

def tellTimeline (timeline : Timeline Float) (checked : CheckedTimeline Float)
    (sourceDuration : String → Float) : CommandStep Unit := do
  print (s!"Timeline valid: {checked.mainClips.length} main clip(s), " ++
    s!"{checked.layers.length} overlay clip(s)")
  checked.mainClips.forM fun clip => print ("  main  " ++ clip.summary)
  checked.layers.forM tellLayer
  (timeline.overruns sourceDuration).forM fun overrun => print overrun.warning
  print "All paths verified."

def validateOnly (timeline : Timeline Float) : CommandStep Unit := do
  let checked ← orTell (timeline.check.mapError Problem.ofViolation)
  let host := (← get).host
  ofExcept (host.checkSources timeline)
  tellTimeline timeline checked host.sourceDuration

/-! ## Exporting -/

def stagePrinter : Observer where
  line stage :=
    match stage with
    | .cleaningUp | .done => none
    | _ => some ("  " ++ stage.name)

def exportAndTell (timeline : Timeline Float) (settings : Settings) (output : String) :
    CommandStep Unit := do
  print (s!"Exporting {timeline.clips.length} clip(s) to " ++ output)
  let (outcome, after) :=
    (exportTimeline stagePrinter settings timeline output none).run.run (← get)
  set after
  let result ← ofExcept outcome
  result.warnings.forM fun warning => complain ("  WARN   " ++ warning.message)
  if result.isOk then
    print ("\n" ++ result.report ++ " (" ++ secondsText after.host.exportSeconds ++ ")")
  else
    complain result.report
    throw .failed

def checkOrExport (choices : ExportChoices) (timeline : Timeline Float) (settings : Settings) :
    CommandStep Unit := do
  if choices.validateOnly then validateOnly timeline
  else
    let output := choices.output.getD ""
    if output.isEmpty then throw (.usage .outputMissing)
    ofExcept ((← get).host.checkSources timeline)
    modify fun session => { session with
      runner := session.host.newRunner settings.ffmpeg settings.timeout }
    exportAndTell timeline settings output

def exportCommand (choices : ExportChoices) : CommandStep Unit := do
  let (timeline, settings) ← resolveChoices choices
  checkOrExport choices timeline settings

def checkCommand (choices : CheckChoices) : CommandStep Unit := do
  let (answer, after) := (← get).host.probeFfmpeg choices.ffmpeg
  changeHost fun _ => after
  print (← orTell answer)

/-! ## Whole command lines -/

structure CommandOutcome where
  ending : Except Problem Nat
  output : String
  complaints : String
  host : Host

def usageText : String :=
  "usage: " ++ programName ++ " export [source] [--start S --end S] [--manifest FILE]\n" ++
    "                        [--output FILE | --validate] [options]\n" ++
    "       " ++ programName ++ " check [--ffmpeg PROGRAM]\n"

def shownLog (verbose : Bool) (log : List LogLine) : String :=
  String.join <| (log.filter fun line => verbose || line.isGrave).map fun line =>
    (if verbose then line.text else line.message) ++ "\n"

def runCommand (verbose : Bool) (command : CommandStep Unit) (host : Host) : CommandOutcome :=
  let session : Session := { host, runner := host.newRunner none none }
  let (result, after) := command.run.run session
  let ended (ending : Except Problem Nat) (last : String) : CommandOutcome :=
    { ending
      output := after.host.printed
      complaints := shownLog verbose after.host.log ++ after.host.complained ++ last
      host := after.host }
  match result with
  | .ok () => ended (.ok 0) ""
  | .error .failed => ended (.ok 1) ""
  | .error (.usage fault) =>
      ended (.ok 2) (usageText ++ (UsageError.mk programName fault).text ++ "\n")
  | .error (.broken problem) => ended (.error problem) ""

def runCommandLine (words : List String) (host : Host) : CommandOutcome :=
  match readRequest [] words with
  | .ok (.help code) => { ending := .ok code, output := usageText, complaints := "", host }
  | .ok (.exportVideo choices) => runCommand choices.verbose (exportCommand choices) host
  | .ok (.checkFfmpeg choices) => runCommand false (checkCommand choices) host
  | .error error =>
      { ending := .ok 2, output := "", complaints := usageText ++ error.text ++ "\n", host }

end Montage
