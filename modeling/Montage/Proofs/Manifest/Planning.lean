import Montage.Proofs.Export.Closing
import Montage.Proofs.Manifest.Reading

/-! Whatever manifest is accepted, its timeline can be planned, unless there is nothing to
hear or an integer has too many digits. -/

namespace Montage

namespace Manifest

variable {manifest : Manifest} {settings : Settings} {canvas : Int × Int}

/-- Where a manifest gives a size for the picture, it is one of integers. -/
theorem canvas_applyOutput (manifest : Manifest)
    (canvasRead : twoIntegers settings.canvas = .ok canvas) :
    ∃ canvas, twoIntegers (manifest.applyOutput settings).canvas = .ok canvas := by
  unfold applyOutput
  rcases manifest.resolution with _ | ⟨width, height⟩
  · cases manifest.rate <;> exact ⟨canvas, canvasRead⟩
  · cases manifest.rate <;> exact ⟨(width, height), twoIntegers_pairOf width height⟩

end Manifest

/-! ## Plans of checked timelines -/

section

variable {τ : Type} [Quantity τ]

/-- All that comes before the last call, but for the directory of the output: the arguments of
that call. -/
def planArguments (observer : Observer) (settings : Settings) (checked : CheckedTimeline τ)
    (workspace : Workspace) (output : String) : Act (List String) := do
  let (plan, text) ← arrangePlan observer settings checked workspace
  Act.ofExcept .misfit (compositionArguments plan text output settings)

def NamesLayers (checked : CheckedTimeline τ) : Prop :=
  AllNameable Layer.clip checked.layers checked.timeline

def HasWritablePlan (canvas : Int × Int) (settings : Settings) (checked : CheckedTimeline τ)
    (workspace : Workspace) : Prop :=
  HasWritableNumbers canvas settings.fps
    (survivors id checked.mainClips checked.timeline workspace)
    (survivors Layer.clip checked.layers checked.timeline workspace) ∧
  settings.fps.isWritable = true

def HasSound (checked : CheckedTimeline τ) : Prop :=
  ∃ clip ∈ checked.mainClips, (clip.window? checked.timeline).isSome = true

/-- What planning comes to: arguments, unless an integer cannot be written or no main clip plays.
Tracks are written before it is known whether there is a sound, and all else after that. -/
structure IsPlanned (canvas : Int × Int) (settings : Settings) (checked : CheckedTimeline τ)
    (workspace : Workspace) (planned : Except Problem (List String)) : Prop where
  unnamed : ¬ NamesLayers checked → planned = .error (.misfit .tooManyDigits)
  silent : NamesLayers checked → ¬ HasSound checked → planned = .error (.failure noSound)
  overlong : NamesLayers checked → HasSound checked →
    ¬ HasWritablePlan canvas settings checked workspace → planned = .error (.misfit .tooManyDigits)
  written : NamesLayers checked → HasSound checked →
    HasWritablePlan canvas settings checked workspace → ∃ arguments, planned = .ok arguments

variable [LawfulQuantity τ] {observer : Observer} {settings : Settings} {timeline : Timeline τ}
  {checked : CheckedTimeline τ} {workspace : Workspace} {place : Place} {before : Session}
  {canvas : Int × Int}

omit [LawfulQuantity τ] in
theorem hasSound_iff (checked : CheckedTimeline τ) (workspace : Workspace) :
    HasSound checked ↔ survivors id checked.mainClips checked.timeline workspace ≠ [] := by
  rw [ne_eq, survivors_eq_nil_iff_forall]
  push Not
  simp only [HasSound, id_eq, Option.isSome_iff_ne_none]

/-- A layer without a name stops an export before its sound is looked for. -/
theorem arrangePlan_unnamed (watches : observer.OnlyWatches) (passed : timeline.check = .ok checked)
    (succeeds : before.Succeeds) (unnamed : ¬ NamesLayers checked) (settings : Settings)
    (workspace : Workspace) :
    ∃ after, arrangePlan observer settings checked workspace before =
      (.error (.misfit .tooManyDigits), after) := by
  rcases enterStage_did watches .preprocessing before with ⟨entered, ranEnter, entering⟩
  rcases extractAll_of_succeeds (succeeds.of_sameWorld entering.world)
    (allNameable_mainClips passed) workspace settings with ⟨mainsDone, ranMain, mainsSucceed⟩
  have stopped := extractAll_of_not_nameable mainsSucceed unnamed workspace settings
  rcases ranLayers : extractAll Layer.clip checked.layers checked.timeline workspace settings
    mainsDone with ⟨result, after⟩
  rw [ranLayers] at stopped
  cases stopped
  refine ⟨after, ?_⟩
  unfold arrangePlan withAssets extractMain extractLayers
  rw [run_bind_of_ok ranEnter, run_bind_of_ok ranMain]
  exact run_bind_of_error ranLayers _

theorem arrangePlan_overlong (watches : observer.OnlyWatches) (delivers : before.Delivers)
    (stands : workspace.Stands before.host place)
    (canHold : ∀ name ∈ workspaceNames checked, workspace.CanHold name)
    (sounding : soundParts checked workspace ≠ []) {misfit : Misfit}
    (stopped : (planMontage checked settings
      (survivors id checked.mainClips checked.timeline workspace)
      (survivors Layer.clip checked.layers checked.timeline workspace)
      (workspace.file "audio.m4a").text).1 = .error misfit) :
    ∃ after, arrangePlan observer settings checked workspace before =
      (.error (.misfit misfit), after) := by
  rcases withAssets_sounding watches delivers stands canHold sounding settings
    (planRest observer settings checked) with ⟨joined, ran, -⟩
  rcases planRest_of_misfit watches stopped joined with ⟨after, ranRest, -⟩
  exact ⟨after, ran.trans ranRest⟩

theorem isPlanned (watches : observer.OnlyWatches) (passed : timeline.check = .ok checked)
    (readable : timeline.HasReadableOverlays)
    (canvasRead : twoIntegers settings.canvas = .ok canvas)
    (delivers : before.Delivers) (stands : workspace.Stands before.host place)
    (fits : NamesLayers checked → ∀ extraction ∈ exportExtractions checked workspace settings,
      FileTree.Fits extraction.output) (output : String) :
    IsPlanned canvas settings checked workspace
      (planArguments observer settings checked workspace output before).1 := by
  have plans := exists_plan_survivors passed readable canvasRead workspace
    (workspace.file "audio.m4a").text
  have canHold (named : NamesLayers checked) := canHold_of_fits passed (fits named)
  have someParts (sounds : HasSound checked) : soundParts checked workspace ≠ [] :=
    soundParts_ne_nil ((hasSound_iff checked workspace).mp sounds)
  have canHoldAll (named : NamesLayers checked) (sounds : HasSound checked) :=
    canHold_workspaceNames stands passed (canHold named) (someParts sounds)
  refine ⟨fun unnamed => ?_, fun named silent => ?_, fun named sounds overlong => ?_,
    fun named sounds few => ?_⟩
  · rcases arrangePlan_unnamed watches passed delivers.succeeds unnamed settings workspace with
      ⟨after, ran⟩
    exact congrArg Prod.fst (run_bind_of_error ran _)
  · have noParts : soundParts checked workspace = [] := by
      rw [soundParts_eq_nil_iff]
      by_contra sounds
      exact silent ((hasSound_iff checked workspace).mpr sounds)
    rcases withAssets_silent watches delivers stands (canHold named) noParts settings
      (planRest observer settings checked) with ⟨after, ran, -⟩
    exact congrArg Prod.fst (run_bind_of_error ran _)
  · by_cases writable : HasWritableNumbers canvas settings.fps
        (survivors id checked.mainClips checked.timeline workspace)
        (survivors Layer.clip checked.layers checked.timeline workspace)
    · have rate : settings.fps.isWritable = false :=
        eq_false_of_ne_true fun rate => overlong ⟨writable, rate⟩
      rcases plans.1 writable with ⟨plan, text, planned, rendered, -⟩
      rcases arrangePlan_sounding watches delivers stands (canHoldAll named sounds)
        (someParts sounds) planned rendered with ⟨after, ran, -⟩
      rw [planArguments, run_bind_of_ok ran]
      dsimp only
      rw [compositionArguments_eq, if_neg (ne_true_of_eq_false rate)]
      rfl
    · rcases arrangePlan_overlong watches delivers stands (canHoldAll named sounds)
        (someParts sounds) (plans.2 writable) with ⟨after, ran⟩
      exact congrArg Prod.fst (run_bind_of_error ran _)
  · rcases plans.1 few.1 with ⟨plan, text, planned, rendered, -⟩
    rcases arrangePlan_sounding watches delivers stands (canHoldAll named sounds)
      (someParts sounds) planned rendered with ⟨after, ran, -⟩
    rw [planArguments, run_bind_of_ok ran]
    dsimp only
    rw [compositionArguments_of_rate few.2]
    exact ⟨_, rfl⟩

end

/-! ## Manifests -/

namespace Manifest

theorem isReported_of_ofValue {given : Value} {manifest : Manifest}
    (accepted : ofValue given = .ok manifest) {violation : Violation Float}
    (stopped : manifest.timeline.check = .error violation) : violation.IsReported := by
  rcases exists_of_ofValue accepted with ⟨_, _, _, read⟩
  have decides := Decides.timeline (hasIntegers_of_readClips read)
  rw [stopped] at decides
  exact decides.isReported

def sampleDocument : Value :=
  .map [(.text "clips", .list [
    .map [(.text "source", .text "first.mp4"), (.text "trim_start", .int 0),
      (.text "trim_end", .int 4)],
    .map [(.text "source", .text "title.mp4"), (.text "trim_start", .int 0),
      (.text "trim_end", .float 1.5), (.text "track", .bool true),
      (.text "overlay", .map [(.text "size", .list [.int 100, .text "50"])])]])]

def sample : Manifest :=
  (ofValue sampleDocument).toOption.get (by decide +kernel)

theorem eq_ok_get_of_isSome {ε α : Type} {result : Except ε α}
    (succeeds : result.toOption.isSome = true) :
    result = .ok (result.toOption.get succeeds) := by
  cases result with
  | error problem => cases succeeds
  | ok value => rfl

theorem sample_accepted : ofValue sampleDocument = .ok sample :=
  eq_ok_get_of_isSome _

theorem sample_passes : sample.timeline.check = .ok sample.timeline.sorted :=
  Timeline.check_eq_of_isSome (by decide +kernel)

theorem sample_namesLayers : NamesLayers sample.timeline.sorted := by
  have writable : ∀ clip ∈ sample.timeline.clips, clip.track.toValue.isWritable = true := by
    decide +kernel
  exact allNameable_layers writable

theorem sample_hasSound : HasSound sample.timeline.sorted := by
  have plays : ∃ clip ∈ sample.timeline.clips, clip.track.isMain = true ∧
      (clip.window? sample.timeline).isSome = true := by
    decide +kernel
  rcases plays with ⟨clip, member, main, isSome⟩
  exact ⟨clip, Timeline.mem_mainClips.mpr ⟨member, main⟩, isSome⟩

theorem hasWritablePlan_of_short {timeline : Timeline Float}
    (passed : timeline.check = .ok timeline.sorted) (canvasFew : HaveFewDigits canvas)
    (rate : settings.fps.isWritable = true)
    (short : ∀ clip ∈ timeline.clips,
      clip.overlay.all (fun overlay => decide overlay.rectangle.HasFewDigits) = true)
    (workspace : Workspace) : HasWritablePlan canvas settings timeline.sorted workspace := by
  have few := Timeline.forall_layers (·.rectangle.HasFewDigits) passed (by decide +kernel)
    fun clip member overlay isGiven => by simpa [isGiven] using short clip member
  exact ⟨⟨canvasFew, fun _ => rate,
    fun asset member => few asset.item (item_mem_of_mem_survivors member)⟩, rate⟩

def trackedDocument (track : Int) : Value :=
  .map [(.text "clips", .list [
    .map [(.text "source", .text "/tmp/in.mp4"), (.text "trim_start", .int 0),
      (.text "trim_end", .int 4)],
    .map [(.text "source", .text "/tmp/in.mp4"), (.text "trim_start", .int 0),
      (.text "trim_end", .int 4), (.text "track", .int track)]])]

def sunken : Manifest :=
  (ofValue (trackedDocument (-overlong))).toOption.get (by decide +kernel)

end Manifest

end Montage
