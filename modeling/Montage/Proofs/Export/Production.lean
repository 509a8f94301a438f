import Montage.Proofs.Export.LastCall
import Montage.Proofs.Export.Sound
import Montage.Proofs.Graph.Compilation

/-! What the work of an export does in its workspace, step after step. -/

namespace Montage

variable {before : Session} {observer : Observer}

/-! ## Steps that are no deeds -/

structure Observer.OnlyWatches (observer : Observer) : Prop where
  cancels : ∀ stage, observer.cancels stage = false
  breaksOff : ∀ stage, observer.breaksOff stage = none

theorem Observer.default_onlyWatches : ({} : Observer).OnlyWatches :=
  ⟨fun _ => rfl, fun _ => rfl⟩

theorem run_enterStage (watches : observer.OnlyWatches) (stage : Stage) (before : Session) :
    ∃ log printed, enterStage observer stage before =
      (.ok (), { before with
        stages := before.stages ++ [stage]
        host := { before.host with log, printed } }) := by
  unfold enterStage
  rw [watches.cancels stage, watches.breaksOff stage]
  cases observer.line stage with
  | none => exact ⟨_, _, rfl⟩
  | some line => exact ⟨_, _, rfl⟩

theorem enterStage_did (watches : observer.OnlyWatches) (stage : Stage) (before : Session) :
    ∃ after, enterStage observer stage before = (.ok (), after) ∧ before.Did [] after := by
  rcases run_enterStage watches stage before with ⟨log, printed, ran⟩
  exact ⟨_, ran, Session.did_of_same ⟨rfl, rfl, rfl, rfl⟩ rfl rfl⟩

theorem forM_writeLog_did (message : String → String) (sources : List String) :
    ∀ before : Session, ∃ after,
      sources.forM (fun source => Act.writeLog .debug "filtergraph" (message source)) before =
        (.ok (), after) ∧ before.Did [] after := by
  induction sources with
  | nil => exact fun before => ⟨before, rfl, .refl before⟩
  | cons source rest induction =>
      intro before
      rcases induction (before.updateHost (·.writeLog .debug "filtergraph" (message source))) with
        ⟨after, ran, did⟩
      exact ⟨after, ran, (before.did_writeLog _ _ _).trans did⟩

variable {τ : Type} [Quantity τ]

theorem planComposition_did {checked : CheckedTimeline τ} {settings : Settings}
    {mainAssets : List (Asset (Clip τ) τ)} {layerAssets : List (Asset (Layer τ) τ)} {audio : Path}
    {plan : Plan τ} {text : String}
    (planned : (planMontage checked settings mainAssets layerAssets audio.text).1 = .ok plan)
    (rendered : renderGraph plan.nodes = .ok text) (before : Session) :
    ∃ after, planComposition checked settings mainAssets layerAssets audio before =
      (.ok (plan, text), after) ∧ before.Did [] after := by
  unfold planComposition
  rcases planning : planMontage checked settings mainAssets layerAssets audio.text with
    ⟨result, offCanvas⟩
  rw [planning] at planned
  cases planned
  rcases forM_writeLog_did
    (fun source => "Overlay " ++ source ++ " lies off the canvas, composited as normal")
    offCanvas before with ⟨after, ran, did⟩
  refine ⟨after, (run_bind_of_ok ran _).trans ?_, did⟩
  simp only [Act.ofExcept, pure_bind, rendered]
  rfl

/-! ## The last steps -/

def makesDirectory (host : Host) (output : String) (tree : FileTree) : Prop :=
  let directory := (Path.ofText output).parent
  (FileTree.makeDirectories host.workingPlace directory.parts.length directory tree).1 = .ok ()

theorem makesDirectory_here {host : Host} {tree : FileTree}
    (working : tree.isDirectory host.workingPlace = true) {output : String}
    (here : (Path.ofText output).parent = ⟨"", []⟩) : makesDirectory host output tree := by
  have located : tree.locate host.workingPlace ⟨"", []⟩ = .ok host.workingPlace := by
    refine FileTree.locate_eq_ok_iff.mpr ⟨?_, by decide +kernel, rfl⟩
    rw [String.contains_char_eq]
    decide +kernel
  have there := FileTree.isDirectory_iff.mp working
  have notMade : tree.makeDirectory host.workingPlace ⟨"", []⟩ = .error .alreadyExists := by
    rw [FileTree.makeDirectory, located]
    simp only [bind, Except.bind, there]
    rfl
  have ensured : tree.ensureDirectory host.workingPlace ⟨"", []⟩ = .ok tree := by
    simp only [FileTree.ensureDirectory, notMade, located, working, if_true]
  rw [makesDirectory, here]
  unfold FileTree.makeDirectories
  rw [ensured]

theorem makeOutputDirectory_did {output : String}
    (made : makesDirectory before.host output before.host.tree) :
    ∃ after, makeOutputDirectory output before = (.ok (), after) ∧
      before.Did [.makeDirectory (Path.ofText output).parent] after := by
  simp only [makesDirectory] at made
  rcases ran : FileTree.makeDirectories before.host.workingPlace
    (Path.ofText output).parent.parts.length (Path.ofText output).parent before.host.tree with
    ⟨result, tree⟩
  rw [ran] at made
  cases made
  refine ⟨{ before with host := { before.host with tree } }, ?_, ⟨rfl, rfl, rfl, rfl⟩,
    (List.append_nil _).symm, ?_⟩
  · simp only [makeOutputDirectory, Act.onHost, ran]
    rfl
  · rw [effects_singleton, Deed.effect, ran]

theorem compose_did (delivers : before.Delivers) {arguments : List String}
    (given : arguments ≠ []) :
    ∃ after, compose arguments before = (.ok (), after) ∧
      before.Did [.compose arguments] after := by
  rcases runTool_of_delivers delivers given (some Stage.composing.name) with
    ⟨stdout, after, ran, world, calls, tree⟩
  refine ⟨after, run_bind_of_ok ran _, world, calls, ?_⟩
  rw [effects_singleton, Deed.effect, tree]

/-! ## The whole work -/

def exportExtractions (checked : CheckedTimeline τ) (workspace : Workspace)
    (settings : Settings) : List (Extraction τ) :=
  extractions id .video checked.mainClips checked.timeline workspace settings ++
    extractions Layer.clip .video checked.layers checked.timeline workspace settings ++
    extractions id .audio checked.mainClips checked.timeline workspace settings

def soundParts (checked : CheckedTimeline τ) (workspace : Workspace) : List Path :=
  (assetNames id .audio checked.mainClips checked.timeline).map workspace.file

theorem assetNames_ne_nil_of_soundParts {checked : CheckedTimeline τ} {workspace : Workspace}
    (someParts : soundParts checked workspace ≠ []) :
    assetNames id .audio checked.mainClips checked.timeline ≠ [] := by
  intro none
  exact someParts (by rw [soundParts, none]; rfl)

def withAssets {α : Type} (observer : Observer) (settings : Settings)
    (checked : CheckedTimeline τ) (workspace : Workspace)
    (rest : List (Asset (Clip τ) τ) → List (Asset (Layer τ) τ) → Path → Act α) : Act α := do
  enterStage observer .preprocessing
  let mainAssets ← extractMain checked workspace settings
  let layerAssets ← extractLayers checked workspace settings
  enterStage observer .audioAssembling
  let audio ← assembleSound checked workspace settings
  rest mainAssets layerAssets audio

def planRest (observer : Observer) (settings : Settings) (checked : CheckedTimeline τ)
    (mainAssets : List (Asset (Clip τ) τ)) (layerAssets : List (Asset (Layer τ) τ))
    (audio : Path) : Act (Plan τ × String) := do
  enterStage observer .graphBuilding
  let (plan, text) ← planComposition checked settings mainAssets layerAssets audio
  Act.writeLog .debug "pipeline" ("Filter graph: " ++ text)
  enterStage observer .composing
  return (plan, text)

theorem planRest_did (watches : observer.OnlyWatches) {settings : Settings}
    {checked : CheckedTimeline τ} {mainAssets : List (Asset (Clip τ) τ)}
    {layerAssets : List (Asset (Layer τ) τ)} {audio : Path} {plan : Plan τ} {text : String}
    (planned : (planMontage checked settings mainAssets layerAssets audio.text).1 = .ok plan)
    (rendered : renderGraph plan.nodes = .ok text) (before : Session) :
    ∃ after, planRest observer settings checked mainAssets layerAssets audio before =
      (.ok (plan, text), after) ∧ before.Did [] after := by
  rcases enterStage_did watches .graphBuilding before with ⟨building, ranBuilding, buildingDid⟩
  rcases planComposition_did planned rendered building with ⟨planning, ranPlan, planDid⟩
  have logDid := planning.did_writeLog .debug "pipeline" ("Filter graph: " ++ text)
  rcases enterStage_did watches .composing (planning.updateHost
    (·.writeLog .debug "pipeline" ("Filter graph: " ++ text))) with
    ⟨composing, ranComposing, composingDid⟩
  refine ⟨composing, ?_, ((buildingDid.then_same planDid).then_same logDid).then_same composingDid⟩
  unfold planRest
  rw [run_bind_of_ok ranBuilding, run_bind_of_ok ranPlan]
  dsimp only
  rw [Act.run_writeLog, run_bind_of_ok ranComposing]
  rfl

def arrangePlan (observer : Observer) (settings : Settings) (checked : CheckedTimeline τ)
    (workspace : Workspace) : Act (Plan τ × String) :=
  withAssets observer settings checked workspace (planRest observer settings checked)

def lastSteps (output : String) (written : Except Misfit (List String)) : Act Unit := do
  makeOutputDirectory output
  compose (← Act.ofExcept .misfit written)

theorem produce_eq (observer : Observer) (settings : Settings) (checked : CheckedTimeline τ)
    (workspace : Workspace) (output : String) :
    produce observer settings checked workspace output = (do
      let (plan, text) ← arrangePlan observer settings checked workspace
      lastSteps output (compositionArguments plan text output settings)) := by
  simp only [produce, arrange, arrangePlan, withAssets, planRest, lastSteps, bind_assoc, pure_bind]

def videoDeeds (plan : Plan τ) (text output : String) (settings : Settings) : List Deed :=
  [.makeDirectory (Path.ofText output).parent,
    .compose (plan.inputArguments ++ behindInputs plan text output settings)]

def soundtrackDeeds (checked : CheckedTimeline τ) (workspace : Workspace) (settings : Settings) :
    List Deed :=
  (exportExtractions checked workspace settings).map .ofExtraction ++
    soundDeeds (soundParts checked workspace) workspace

variable [LawfulQuantity τ] {workspace : Workspace} {place : Place} {start : Session}
  {checked : CheckedTimeline τ}

/-- Up to the sound everything is extracted, whatever is made of it afterwards. -/
theorem withAssets_gathers {α : Type} (watches : observer.OnlyWatches) (delivers : start.Delivers)
    (stands : workspace.Stands start.host place)
    (canHold : ∀ name ∈ extractedNames checked, workspace.CanHold name) (settings : Settings)
    (rest : List (Asset (Clip τ) τ) → List (Asset (Layer τ) τ) → Path → Act α) :
    ∃ gathered, withAssets observer settings checked workspace rest start =
        (joinSound (soundParts checked workspace) workspace >>=
          rest (survivors id checked.mainClips checked.timeline workspace)
            (survivors Layer.clip checked.layers checked.timeline workspace)) gathered ∧
      Filled workspace place start
        ((exportExtractions checked workspace settings).map .ofExtraction)
        (extractedNames checked) gathered := by
  rcases enterStage_did watches .preprocessing start with ⟨entered, ranEnter, entering⟩
  rcases extractAll_fills delivers ((Filled.refl stands).then_same entering)
    (fun name member => canHold name (List.mem_append_left _ (List.mem_append_left _ member)))
    settings with ⟨mainsDone, ranMain, mainFilled⟩
  rcases extractAll_fills delivers mainFilled
    (fun name member => canHold name (List.mem_append_left _ (List.mem_append_right _ member)))
    settings with ⟨layersDone, ranLayers, layersFilled⟩
  rcases enterStage_did watches .audioAssembling layersDone with
    ⟨assembling, ranAssembling, assemblingDid⟩
  rcases extractSound_fills delivers (layersFilled.then_same assemblingDid)
    (fun name member => canHold name (List.mem_append_right _ member)) settings with
    ⟨gathered, ranSound, gatheredFilled⟩
  refine ⟨gathered, ?_, ?_⟩
  · unfold withAssets extractMain extractLayers assembleSound
    rw [run_bind_of_ok ranEnter, run_bind_of_ok ranMain, run_bind_of_ok ranLayers,
      run_bind_of_ok ranAssembling, bind_assoc, run_bind_of_ok ranSound]
    rfl
  · simpa [exportExtractions, extractedNames] using gatheredFilled

theorem withAssets_silent {α : Type} (watches : observer.OnlyWatches) (delivers : start.Delivers)
    (stands : workspace.Stands start.host place)
    (canHold : ∀ name ∈ extractedNames checked, workspace.CanHold name)
    (silent : soundParts checked workspace = []) (settings : Settings)
    (rest : List (Asset (Clip τ) τ) → List (Asset (Layer τ) τ) → Path → Act α) :
    ∃ after, withAssets observer settings checked workspace rest start =
        (.error (.failure noSound), after) ∧
      start.Did (soundtrackDeeds checked workspace settings) after := by
  rcases withAssets_gathers watches delivers stands canHold settings rest with
    ⟨gathered, ran, filled⟩
  refine ⟨gathered, ran.trans ?_, ?_⟩
  · rw [silent]
    exact run_bind_of_error (joinSound_nil workspace) _
  · rw [soundtrackDeeds, silent, soundDeeds, List.append_nil]
    exact filled.did

theorem withAssets_sounding {α : Type} (watches : observer.OnlyWatches)
    (delivers : start.Delivers) (stands : workspace.Stands start.host place)
    (canHold : ∀ name ∈ workspaceNames checked, workspace.CanHold name)
    (sounding : soundParts checked workspace ≠ []) (settings : Settings)
    (rest : List (Asset (Clip τ) τ) → List (Asset (Layer τ) τ) → Path → Act α) :
    ∃ joined, withAssets observer settings checked workspace rest start =
        rest (survivors id checked.mainClips checked.timeline workspace)
          (survivors Layer.clip checked.layers checked.timeline workspace)
          (workspace.file "audio.m4a") joined ∧
      start.Did (soundtrackDeeds checked workspace settings) joined := by
  rcases withAssets_gathers watches delivers stands
    (fun name member => canHold name (List.mem_append_left _ member)) settings rest with
    ⟨gathered, ran, filled⟩
  rcases joinSound_of_ne_nil (delivers.of_sameWorld filled.did.world) filled
    (assetNames_ne_nil_of_soundParts sounding)
    (fun name member => List.mem_append_right _ member)
    (fun name member => canHold name (List.mem_append_left _ (List.mem_append_right _ member)))
    (fun name member => canHold name (List.mem_append_right _ member)) with
    ⟨joined, ranJoin, joinDid⟩
  exact ⟨joined, ran.trans (run_bind_of_ok ranJoin _), filled.did.trans joinDid⟩

theorem arrangePlan_sounding (watches : observer.OnlyWatches) (delivers : start.Delivers)
    (stands : workspace.Stands start.host place)
    (canHold : ∀ name ∈ workspaceNames checked, workspace.CanHold name)
    (sounding : soundParts checked workspace ≠ []) {settings : Settings} {plan : Plan τ}
    {text : String}
    (planned : (planMontage checked settings
      (survivors id checked.mainClips checked.timeline workspace)
      (survivors Layer.clip checked.layers checked.timeline workspace)
      (workspace.file "audio.m4a").text).1 = .ok plan)
    (rendered : renderGraph plan.nodes = .ok text) :
    ∃ after, arrangePlan observer settings checked workspace start = (.ok (plan, text), after) ∧
      start.Did (soundtrackDeeds checked workspace settings) after := by
  rcases withAssets_sounding watches delivers stands canHold sounding settings
    (planRest observer settings checked) with ⟨joined, ran, soundDid⟩
  rcases planRest_did watches planned rendered joined with ⟨after, ranRest, restDid⟩
  exact ⟨after, ran.trans ranRest, soundDid.then_same restDid⟩

theorem lastSteps_did {output : String} {arguments : List String} (delivers : before.Delivers)
    (given : arguments ≠ [])
    (made : makesDirectory before.host output before.host.tree) :
    ∃ after, lastSteps output (.ok arguments) before = (.ok (), after) ∧
      before.Did [.makeDirectory (Path.ofText output).parent, .compose arguments] after := by
  rcases makeOutputDirectory_did made with ⟨ready, ranDirectory, directoryDid⟩
  rcases compose_did (delivers.of_sameWorld directoryDid.world) given with
    ⟨after, ranCompose, composeDid⟩
  exact ⟨after, (run_bind_of_ok ranDirectory _).trans ranCompose, directoryDid.trans composeDid⟩

theorem produce_silent (watches : observer.OnlyWatches) (delivers : start.Delivers)
    (stands : workspace.Stands start.host place)
    (canHold : ∀ name ∈ extractedNames checked, workspace.CanHold name)
    (silent : soundParts checked workspace = []) (settings : Settings) (output : String) :
    ∃ after, produce observer settings checked workspace output start =
        (.error (.failure noSound), after) ∧
      start.Did (soundtrackDeeds checked workspace settings) after := by
  rcases withAssets_silent watches delivers stands canHold silent settings
    (planRest observer settings checked) with ⟨after, ran, did⟩
  refine ⟨after, ?_, did⟩
  rw [produce_eq]
  exact run_bind_of_error ran _

end Montage
