import Montage.Proofs.Export.FirstFailure
import Montage.Proofs.Graph.Readable

/-! How an export closes once its sound is there: with nothing, where there is no plan or the
directory of the output cannot be made, and otherwise with the video. -/

namespace Montage

variable {τ : Type} [Quantity τ]

/-! ## Once the sound is there -/

def finishWork (observer : Observer) (settings : Settings) (checked : CheckedTimeline τ)
    (output : String) (mainAssets : List (Asset (Clip τ) τ))
    (layerAssets : List (Asset (Layer τ) τ)) (audio : Path) : Act Unit := do
  let (plan, text) ← planRest observer settings checked mainAssets layerAssets audio
  lastSteps output (compositionArguments plan text output settings)

theorem produce_eq_withAssets (observer : Observer) (settings : Settings)
    (checked : CheckedTimeline τ) (workspace : Workspace) (output : String) :
    produce observer settings checked workspace output =
      withAssets observer settings checked workspace
        (finishWork observer settings checked output) := by
  simp only [produce_eq, arrangePlan, withAssets, finishWork, bind_assoc]

inductive Closing (output : String) (settings : Settings) (makes : Prop) :
    Except Misfit (Plan τ) → List Deed → Except Problem Unit → Prop
  | unplanned (misfit : Misfit) :
      Closing output settings makes (.error misfit) [] (.error (.misfit misfit))
  | unmade (plan : Plan τ) (fault : FileFault) (fails : ¬ makes) :
      Closing output settings makes (.ok plan) [] (.error (.file fault))
  | unwritten (plan : Plan τ) (made : makes) (overlong : settings.fps.isWritable = false) :
      Closing output settings makes (.ok plan) [] (.error (.misfit .tooManyDigits))
  | composed {plan : Plan τ} {text : String} (rendered : renderGraph plan.nodes = .ok text)
      (made : makes) (written : settings.fps.isWritable = true) :
      Closing output settings makes (.ok plan) (videoDeeds plan text output settings) (.ok ())

section

variable {observer : Observer} {settings : Settings} {checked : CheckedTimeline τ}
  {mainAssets : List (Asset (Clip τ) τ)} {layerAssets : List (Asset (Layer τ) τ)} {audio : Path}
  {output : String} {before : Session}

theorem planRest_of_misfit (watches : observer.OnlyWatches) {misfit : Misfit}
    (stopped : (planMontage checked settings mainAssets layerAssets audio.text).1 =
      .error misfit) (before : Session) :
    ∃ after, planRest observer settings checked mainAssets layerAssets audio before =
      (.error (.misfit misfit), after) ∧ before.Did [] after := by
  rcases enterStage_did watches .graphBuilding before with ⟨building, ranBuilding, buildingDid⟩
  unfold planRest planComposition
  rcases planning : planMontage checked settings mainAssets layerAssets audio.text with
    ⟨result, offCanvas⟩
  rw [planning] at stopped
  cases stopped
  rcases forM_writeLog_did
    (fun source => "Overlay " ++ source ++ " lies off the canvas, composited as normal")
    offCanvas building with ⟨after, ran, did⟩
  refine ⟨after, ?_, buildingDid.then_same did⟩
  rw [run_bind_of_ok ranBuilding]
  exact run_bind_of_error ((run_bind_of_ok ran _).trans rfl) _

theorem makesDirectory_congr {host other : Host} (same : other.workingPlace = host.workingPlace) :
    makesDirectory other = makesDirectory host := by
  funext output tree
  rw [makesDirectory, makesDirectory, same]

theorem finishWork_closes (watches : observer.OnlyWatches) (delivers : before.Delivers)
    (settings : Settings) (checked : CheckedTimeline τ) (output : String)
    (mainAssets : List (Asset (Clip τ) τ)) (layerAssets : List (Asset (Layer τ) τ))
    (audio : Path) :
    let finished := finishWork observer settings checked output mainAssets layerAssets audio before
    ∃ deeds, Closing output settings (makesDirectory before.host output before.host.tree)
        (planMontage checked settings mainAssets layerAssets audio.text).1 deeds finished.1 ∧
      finished.2.host.calls =
        before.host.calls ++ (argumentsOf deeds).map (before.runner.binary :: ·) := by
  intro finished
  have unfolded : finished = (do
      let (plan, text) ← planRest observer settings checked mainAssets layerAssets audio
      lastSteps output (compositionArguments plan text output settings) : Act Unit) before := rfl
  cases planned : (planMontage checked settings mainAssets layerAssets audio.text).1 with
  | error misfit =>
      rcases planRest_of_misfit watches planned before with ⟨after, ran, did⟩
      rw [run_bind_of_error ran] at unfolded
      rw [unfolded]
      exact ⟨[], .unplanned misfit, did.calls⟩
  | ok plan =>
      obtain ⟨canvas, -, -, draws⟩ := draws_of_planned planned
      obtain ⟨text, rendered⟩ : ∃ text, renderGraph plan.nodes = .ok text :=
        ⟨_, renderGraph_of_writable draws.finished.writable⟩
      rcases planRest_did watches planned rendered before with ⟨middle, ran, did⟩
      rw [run_bind_of_ok ran] at unfolded
      dsimp only at unfolded
      have same : makesDirectory middle.host output middle.host.tree ↔
          makesDirectory before.host output before.host.tree := by
        rw [did.sameTree, makesDirectory_congr did.world.workingPlace]
      by_cases made : makesDirectory before.host output before.host.tree
      · cases rate : settings.fps.isWritable with
        | false =>
            rw [compositionArguments_eq, if_neg (by simp [rate])] at unfolded
            rcases lastSteps_of_unwritten (same.mpr made) .tooManyDigits with ⟨tree, ranLast⟩
            rw [unfolded, ranLast]
            exact ⟨[], .unwritten plan made rate, did.calls⟩
        | true =>
            have written := compositionArguments_of_rate rate plan text output
            rw [written] at unfolded
            rcases lastSteps_did (delivers.of_sameWorld did.world)
              (compositionArguments_ne_nil written) (same.mpr made) with ⟨after, ranLast, lastDid⟩
            rw [unfolded, ranLast]
            exact ⟨_, .composed rendered made rate, (did.trans lastDid).calls⟩
      · rcases lastSteps_of_unmade (mt same.mp made)
          (compositionArguments plan text output settings) with ⟨fault, tree, ranLast⟩
        rw [unfolded, ranLast]
        exact ⟨[], .unmade plan fault made, did.calls⟩

end

/-- With a plan, the last call is issued where the directory can be made and the rate can be
written. -/
theorem Closing.length_argumentsOf {output : String} {settings : Settings} {makes : Prop}
    {planned : Except Misfit (Plan τ)} {plan : Plan τ} {deeds : List Deed}
    {finished : Except Problem Unit}
    (closing : Closing output settings makes planned deeds finished) (isPlan : planned = .ok plan)
    (rate : settings.fps.isWritable = true) :
    (makes → (argumentsOf deeds).length = 1) ∧ (¬ makes → (argumentsOf deeds).length = 0) := by
  cases closing with
  | unplanned misfit => cases isPlan
  | unmade _ _ fails => exact ⟨fun made => absurd made fails, fun _ => rfl⟩
  | unwritten _ _ overlong => exact absurd (rate.symm.trans overlong) (by decide)
  | composed _ made _ => exact ⟨fun _ => rfl, fun fails => absurd made fails⟩

/-! ## A directory of the output in the workspace -/

section

variable {workspace : Workspace} {host : Host} {tree : FileTree} {place : Place}
  {name output : String}

/-- Where nothing stands in a workspace, the directory of the output can be made. -/
theorem makesDirectory_of_nothing (stands : workspace.Stands { host with tree } place)
    (canHold : workspace.CanHold name)
    (parent : (Path.ofText output).parent = workspace.file name)
    (nothing : tree.get? (place ++ [name]) = none) : makesDirectory host output tree := by
  have located := stands.folder.locate_child stands.normal stands.below canHold.isFileName
    canHold.fits
  rw [makesDirectory, parent]
  exact congrArg Prod.fst (FileTree.makeDirectories_of_nothing located nothing _)

theorem not_makesDirectory_of_file (stands : workspace.Stands { host with tree } place)
    (canHold : workspace.CanHold name)
    (parent : (Path.ofText output).parent = workspace.file name) {content : String}
    (there : tree.get? (place ++ [name]) = some (.file content)) :
    ¬ makesDirectory host output tree := by
  have located := stands.folder.locate_child stands.normal stands.below canHold.isFileName
    canHold.fits
  intro made
  rw [makesDirectory, parent] at made
  have clash := made.symm.trans
    (congrArg Prod.fst (FileTree.makeDirectories_of_file located there _))
  cases clash

end

/-! ## The whole export -/

variable [LawfulQuantity τ] {observer : Observer} {settings : Settings} {timeline : Timeline τ}
  {checked : CheckedTimeline τ} {exportId : Option String} {before : Session}
  {workspace : Workspace}

/-- Where some main clip plays and every call leaves its file, an export makes the sound and
closes. -/
theorem exportTimeline_gathers (watches : observer.OnlyWatches)
    (passed : timeline.check = .ok checked)
    (sounding : survivors id checked.mainClips checked.timeline workspace ≠ [])
    (delivers : before.host.AlwaysDelivers)
    (grounded : before.host.tree.IsGrounded before.host.workingPlace)
    (acquired : (Workspace.acquire exportId settings.workspaceRoot before.host).1 = .ok workspace)
    (fits : ∀ extraction ∈ exportExtractions checked workspace settings,
      FileTree.Fits extraction.output) (output : String) :
    let start : Session :=
      { before.reset with
        host := (Workspace.acquire exportId settings.workspaceRoot before.host).2 }
    let exported := exportTimeline observer settings timeline output exportId before
    ∃ gathered deeds finished, start.Did (soundtrackDeeds checked workspace settings) gathered ∧
      Closing output settings (makesDirectory gathered.host output gathered.host.tree)
        (planMontage checked settings
          (survivors id checked.mainClips checked.timeline workspace)
          (survivors Layer.clip checked.layers checked.timeline workspace)
          (workspace.file "audio.m4a").text).1 deeds finished ∧
      exported.2.host.calls = gathered.host.calls ++
        (argumentsOf deeds).map (before.runner.binary :: ·) ∧
      ∃ entered, Concludes output entered exported.1 finished := by
  intro start exported
  have world := Workspace.acquire_sameWorld exportId settings.workspaceRoot before.host
  have startDelivers : start.Delivers := ⟨rfl, delivers.congr world.script⟩
  rcases exportWork_prepared before.reset watches passed grounded acquired output with
    ⟨prepared, place, worked, stands, same⟩
  have preparedDelivers := startDelivers.of_sameWorld same.world
  have someParts := soundParts_ne_nil sounding
  rcases withAssets_sounding watches preparedDelivers stands
    (canHold_workspaceNames stands passed (canHold_of_fits passed fits) someParts) someParts
    settings (finishWork observer settings checked output) with ⟨gathered, ran, did⟩
  have soundDid : start.Did (soundtrackDeeds checked workspace settings) gathered :=
    same.trans did
  rcases finishWork_closes watches (preparedDelivers.of_sameWorld did.world) settings checked
    output (survivors id checked.mainClips checked.timeline workspace)
    (survivors Layer.clip checked.layers checked.timeline workspace)
    (workspace.file "audio.m4a") with ⟨deeds, closing, closed⟩
  rcases exportTimeline_concludes watches.breaksOff settings timeline output exportId before with
    ⟨calls, concludes⟩
  have binary : gathered.runner.binary = before.runner.binary := soundDid.world.binary
  rw [worked, produce_eq_withAssets, ran] at calls concludes
  rw [binary] at closed
  exact ⟨gathered, deeds, _, soundDid, closing, calls.trans closed, concludes⟩

theorem exportTimeline_closes (watches : observer.OnlyWatches)
    (passed : timeline.check = .ok checked)
    (sounding : survivors id checked.mainClips checked.timeline workspace ≠ [])
    (delivers : before.host.AlwaysDelivers)
    (grounded : before.host.tree.IsGrounded before.host.workingPlace)
    (acquired : (Workspace.acquire exportId settings.workspaceRoot before.host).1 = .ok workspace)
    (fits : ∀ extraction ∈ exportExtractions checked workspace settings,
      FileTree.Fits extraction.output) (output : String) :
    let host := (Workspace.acquire exportId settings.workspaceRoot before.host).2
    ∃ tree deeds finished,
      effects host (soundtrackDeeds checked workspace settings) host.tree = .ok tree ∧
      Closing output settings (makesDirectory host output tree)
        (planMontage checked settings
          (survivors id checked.mainClips checked.timeline workspace)
          (survivors Layer.clip checked.layers checked.timeline workspace)
          (workspace.file "audio.m4a").text).1 deeds finished ∧
      (exportTimeline observer settings timeline output exportId before).2.host.calls =
        before.host.calls ++
          (argumentsOf (soundtrackDeeds checked workspace settings ++ deeds)).map
            (before.runner.binary :: ·) := by
  intro host
  rcases exportTimeline_gathers watches passed sounding delivers grounded acquired fits output with
    ⟨gathered, deeds, finished, did, closing, calls, -⟩
  have world := Workspace.acquire_sameWorld exportId settings.workspaceRoot before.host
  rw [makesDirectory_congr did.world.workingPlace] at closing
  refine ⟨gathered.host.tree, deeds, finished, did.tree, closing, ?_⟩
  have soundCalls : gathered.host.calls = before.host.calls ++
      (argumentsOf (soundtrackDeeds checked workspace settings)).map
        (before.runner.binary :: ·) := by
    rw [did.calls]
    exact congrArg (· ++ _) world.calls
  rw [calls, soundCalls, argumentsOf_append, List.map_append, List.append_assoc]

/-- There is one call for each deed of the sound that needs one, and another for the video where
the directory of the output can be made. All numbers can be written. -/
theorem length_calls_exportTimeline {canvas : Int × Int} (watches : observer.OnlyWatches)
    (passed : timeline.check = .ok checked) (readable : timeline.HasReadableOverlays)
    (canvasRead : twoIntegers settings.canvas = .ok canvas)
    (writable : HasWritableNumbers canvas settings.fps
      (survivors id checked.mainClips checked.timeline workspace)
      (survivors Layer.clip checked.layers checked.timeline workspace))
    (rate : settings.fps.isWritable = true)
    (sounding : survivors id checked.mainClips checked.timeline workspace ≠ [])
    (delivers : before.host.AlwaysDelivers)
    (grounded : before.host.tree.IsGrounded before.host.workingPlace)
    (acquired : (Workspace.acquire exportId settings.workspaceRoot before.host).1 = .ok workspace)
    (fits : ∀ extraction ∈ exportExtractions checked workspace settings,
      FileTree.Fits extraction.output) (output : String) :
    let host := (Workspace.acquire exportId settings.workspaceRoot before.host).2
    let sound := soundtrackDeeds checked workspace settings
    let calls := (exportTimeline observer settings timeline output exportId before).2.host.calls
    let least := before.host.calls.length + (argumentsOf sound).length
    ∃ tree, effects host sound host.tree = .ok tree ∧
      (makesDirectory host output tree → calls.length = least + 1) ∧
      (¬ makesDirectory host output tree → calls.length = least) := by
  intro host sound calls least
  rcases exportTimeline_closes watches passed sounding delivers grounded acquired fits output with
    ⟨tree, deeds, _, reached, closing, issued⟩
  rcases (exists_plan_survivors passed readable canvasRead workspace
    (workspace.file "audio.m4a").text).1 writable with ⟨plan, _, planned, _, _⟩
  rcases closing.length_argumentsOf planned rate with ⟨one, none⟩
  have counted : calls.length = least + (argumentsOf deeds).length := by
    rw [show calls = _ from issued, List.length_append, List.length_map, argumentsOf_append,
      List.length_append, ← Nat.add_assoc]
  exact ⟨tree, reached, fun made => by rw [counted, one made],
    fun fails => by rw [counted, none fails, Nat.add_zero]⟩

end Montage
