import Montage.Export.Assets
import Montage.Export.Report
import Montage.Export.Soundtrack

/-! An export from its timeline to its video. The stages follow each other; a failure leads
straight to cleaning up, and the workspace is removed in the end. -/

namespace Montage

variable {τ : Type} [Quantity τ]

def compositionArguments (plan : Plan τ) (graphText output : String) (settings : Settings) :
    Except Misfit (List String) := do
  let rate ← settings.fps.write
  return plan.inputArguments ++
    ["-filter_complex", graphText, "-map", "[" ++ plan.videoLabel ++ "]",
      "-map", integerText plan.audioIndex ++ ":a"] ++
    codecArguments settings.codec ++
    ["-c:a", settings.audioCodec, "-r", rate,
      "-t", Quantity.thousandths plan.duration, "-y", output]

structure Observer where
  line : Stage → Option String := fun _ => none
  cancels : Stage → Bool := fun _ => false
  breaksOff : Stage → Option Problem := fun _ => none

def enterStage (observer : Observer) (stage : Stage) : Act Unit := do
  modify fun (session : Session) => { session with stages := session.stages ++ [stage] }
  Act.writeLog .info "pipeline" ("Export stage: " ++ stage.name)
  match observer.line stage with
  | some line => Act.changeHost (·.print line)
  | none => pure ()
  if observer.cancels stage then Act.change fun session => ((), session.cancel)
  match observer.breaksOff stage with
  | some problem => throw problem
  | none => pure ()

def Act.attempt (step : Act α) : Act (Except Problem α) :=
  fun session => let (result, after) := step session; (.ok result, after)

def Act.onHost (step : Host → Except Problem α × Host) : Act α :=
  fun session =>
    let (result, host) := step session.host
    (result, { session with host })

def prepare (observer : Observer) (settings : Settings) (timeline : Timeline τ)
    (exportId : Option String) : Act (CheckedTimeline τ × Workspace) := do
  enterStage observer .validating
  let checked ← Act.ofExcept Problem.ofViolation timeline.check
  let workspace ← Act.onHost (Workspace.acquire exportId settings.workspaceRoot)
  return (checked, workspace)

def planComposition (checked : CheckedTimeline τ) (settings : Settings)
    (mainAssets : List (Asset (Clip τ) τ)) (layerAssets : List (Asset (Layer τ) τ))
    (audio : Path) : Act (Plan τ × String) := do
  let (plan, offCanvas) := planMontage checked settings mainAssets layerAssets audio.text
  offCanvas.forM fun source =>
    Act.writeLog .debug "filtergraph"
      ("Overlay " ++ source ++ " lies off the canvas, composited as normal")
  let plan ← Act.ofExcept .misfit plan
  let text ← Act.ofExcept .graph (renderGraph plan.nodes)
  return (plan, text)

def makeOutputDirectory (output : String) : Act Unit :=
  Act.onHost fun host =>
    let directory := (Path.ofText output).parent
    let (made, tree) :=
      FileTree.makeDirectories host.workingPlace directory.parts.length directory host.tree
    (made.mapError .file, { host with tree })

def arrange (observer : Observer) (settings : Settings) (checked : CheckedTimeline τ)
    (workspace : Workspace) (output : String) : Act (List String) := do
  enterStage observer .preprocessing
  let mainAssets ← extractMain checked workspace settings
  let layerAssets ← extractLayers checked workspace settings
  enterStage observer .audioAssembling
  let audio ← assembleSound checked workspace settings
  enterStage observer .graphBuilding
  let (plan, text) ← planComposition checked settings mainAssets layerAssets audio
  Act.writeLog .debug "pipeline" ("Filter graph: " ++ text)
  enterStage observer .composing
  makeOutputDirectory output
  Act.ofExcept .misfit (compositionArguments plan text output settings)

def compose (arguments : List String) : Act Unit := do
  let _ ← runTool arguments (some Stage.composing.name)

def produce (observer : Observer) (settings : Settings) (checked : CheckedTimeline τ)
    (workspace : Workspace) (output : String) : Act Unit := do
  compose (← arrange observer settings checked workspace output)

def settleFailure (failure : Failure) : Act Failure := do
  let settled := match (← getThe Session).stages.getLast? with
    | some stage => failure.during stage
    | none => failure
  Act.writeLog .error "pipeline"
    ("Export failed during " ++ settled.stage.getD "None" ++ ": " ++ settled.message)
  return settled

def cleanUp (observer : Observer) (workspace : Option Workspace) :
    Act (List CleanupWarning) := do
  enterStage observer .cleaningUp
  let warnings ← match workspace with
    | none => pure []
    | some workspace => Act.onHost fun host =>
        let (warning, _, after) := workspace.release host
        (.ok warning.toList, after)
  enterStage observer .done
  return warnings

def settle (output : String) (exportId : Option String) :
    Except Problem Unit → Act (Except Problem ExportResult)
  | .ok () => return .ok { exportId, outputPath := some output }
  | .error (.failure failure) => do
      return .ok { exportId, failure := some (← settleFailure failure) }
  | .error problem => return .error problem

/-- Ends an export whose work is over. The workspace is removed, also when a problem goes
on. -/
def conclude (observer : Observer) (output : String) (exportId : Option String)
    (workspace : Option Workspace) (produced : Except Problem Unit) : Act ExportResult := do
  let result ← settle output ((workspace.map Workspace.exportId).or exportId) produced
  let warnings ← cleanUp observer workspace
  match result with
  | .ok result => return { result with warnings }
  | .error problem => throw problem

/-- Exports a timeline as a video. A failure is part of the result; any other problem goes
on once the workspace is removed. A cancellation of an earlier export does not count. The
extractions of several workers are on the schedule of `runPool`. -/
def exportTimeline (observer : Observer) (settings : Settings) (timeline : Timeline τ)
    (output : String) (exportId : Option String) : Act ExportResult := do
  Act.change fun session => ((), session.reset)
  let prepared ← (prepare observer settings timeline exportId).attempt
  let produced ← match prepared with
    | .ok (checked, workspace) => (produce observer settings checked workspace output).attempt
    | .error problem => pure (.error problem)
  conclude observer output exportId (prepared.toOption.map Prod.snd) produced

def Timeline.ofTrim (source : String) (trimStart trimEnd : τ) : Timeline τ :=
  .ofClips [.ofTrim source trimStart trimEnd]

end Montage
