import Montage.Proofs.Export.Picture
import Montage.Proofs.Export.Production
import Montage.Proofs.Export.Progress

/-! What the steps of an export write into its workspace, and the plan of what is left. -/

namespace Montage

variable {τ : Type} [Quantity τ] {item : Type} {clipOf : item → Clip τ} {items : List item}
  {workspace : Workspace} {host : Host} {place : Place}

/-! ## Files that are written -/

theorem written_of_mem_extractions (stands : workspace.Stands host place) {stream : Stream}
    {timeline : Timeline τ} {settings : Settings} {extraction : Extraction τ}
    (member : extraction ∈ extractions clipOf stream items timeline workspace settings) :
    (Deed.ofExtraction extraction).written? = some extraction.output := by
  rcases List.mem_filterMap.mp member with ⟨counted, _, given⟩
  rcases Option.map_eq_some_iff.mp given with ⟨window, _, rfl⟩
  rw [Deed.ofExtraction, Deed.written?, lastPath, List.getLastD_eq_getLast?,
    Clip.getLast?_extractionIn, Option.getD_some, stands.ofText_file]
  simp only [Clip.extractionIn, Workspace.assetPath_eq]

theorem writtenBy_extractions (stands : workspace.Stands host place) (stream : Stream)
    (timeline : Timeline τ) (settings : Settings) :
    writtenBy ((extractions clipOf stream items timeline workspace settings).map .ofExtraction) =
      (assetNames clipOf stream items timeline).map workspace.file := by
  rw [← map_output_extractions stream timeline workspace settings, writtenBy, List.filterMap_map,
    ← List.filterMap_eq_map]
  exact List.filterMap_congr fun extraction member => written_of_mem_extractions stands member

theorem writtenBy_append (first second : List Deed) :
    writtenBy (first ++ second) = writtenBy first ++ writtenBy second :=
  List.filterMap_append

theorem writtenBy_exportExtractions (stands : workspace.Stands host place)
    (checked : CheckedTimeline τ) (settings : Settings) :
    writtenBy ((exportExtractions checked workspace settings).map .ofExtraction) =
      (extractedNames checked).map workspace.file := by
  rw [exportExtractions, extractedNames, List.map_append, List.map_append, writtenBy_append,
    writtenBy_append, writtenBy_extractions stands, writtenBy_extractions stands,
    writtenBy_extractions stands, List.map_append, List.map_append]

theorem lastPath_joinArguments (stands : workspace.Stands host place) (listing : Path)
    (name : String) :
    lastPath (joinArguments listing (workspace.file name)) = workspace.file name := by
  rw [lastPath, List.getLastD_eq_getLast?, getLast?_joinArguments, Option.getD_some,
    stands.ofText_file]

theorem writtenBy_soundDeeds (stands : workspace.Stands host place) (parts : List Path) :
    (writtenBy (soundDeeds parts workspace)).Sublist (soundNames.map workspace.file) ∧
      (parts ≠ [] → workspace.file "audio.m4a" ∈ writtenBy (soundDeeds parts workspace)) := by
  match parts with
  | [] => exact ⟨List.nil_sublist _, fun some => absurd rfl some⟩
  | [part] => exact ⟨List.sublist_cons_self _ _, fun _ => List.mem_cons_self⟩
  | first :: second :: rest =>
      have written : writtenBy (soundDeeds (first :: second :: rest) workspace) =
          soundNames.map workspace.file := by
        have joined := lastPath_joinArguments stands (workspace.file "audio-concat.txt") "audio.m4a"
        simp [soundDeeds, writtenBy, Deed.written?, soundNames, joined]
      rw [written]
      exact ⟨List.Sublist.refl _, fun _ => by simp [soundNames]⟩

variable {timeline : Timeline τ} {checked : CheckedTimeline τ}

theorem writtenBy_soundtrackDeeds (stands : workspace.Stands host place) (settings : Settings) :
    (writtenBy (soundtrackDeeds checked workspace settings)).Sublist
      ((workspaceNames checked).map workspace.file) := by
  rw [soundtrackDeeds, writtenBy_append, writtenBy_exportExtractions stands, workspaceNames,
    List.map_append]
  exact (List.Sublist.refl _).append (writtenBy_soundDeeds stands _).1

/-- Each of these deeds writes one of the files of the workspace. -/
theorem written_of_mem_soundtrackDeeds (stands : workspace.Stands host place)
    (checked : CheckedTimeline τ) (settings : Settings) :
    ∀ deed ∈ soundtrackDeeds checked workspace settings,
      ∃ name ∈ workspaceNames checked, deed.written? = some (workspace.file name) := by
  intro deed member
  obtain ⟨path, written⟩ : ∃ path, deed.written? = some path := by
    rcases List.mem_append.mp member with extracting | sounding
    · rcases List.mem_map.mp extracting with ⟨extraction, _, rfl⟩
      exact ⟨_, rfl⟩
    · revert sounding
      unfold soundDeeds
      split
      · exact nofun
      · intro copying
        rw [List.mem_singleton.mp copying]
        exact ⟨_, rfl⟩
      · intro joining
        rcases List.mem_pair.mp joining with rfl | rfl <;> exact ⟨_, rfl⟩
  have among := (writtenBy_soundtrackDeeds stands settings).subset
    (List.mem_filterMap.mpr ⟨deed, member, written⟩)
  rcases List.mem_map.mp among with ⟨name, nameMember, rfl⟩
  exact ⟨name, nameMember, written⟩

theorem nodup_writtenBy_soundtrackDeeds (stands : workspace.Stands host place)
    (passed : timeline.check = .ok checked) (settings : Settings) (workingPlace : Place) :
    ((writtenBy (soundtrackDeeds checked workspace settings)).map
      (·.resolve workingPlace)).Nodup := by
  apply ((writtenBy_soundtrackDeeds stands settings).map (·.resolve workingPlace)).nodup
  rw [List.map_map]
  exact workspace.nodup_map_resolve_file workingPlace
    (fun name member => isFileName_of_mem_workspaceNames passed member)
    (nodup_workspaceNames passed)

theorem parent_of_mem_writtenBy (stands : workspace.Stands host place)
    (passed : timeline.check = .ok checked) (settings : Settings) {path : Path}
    (member : path ∈ writtenBy (soundtrackDeeds checked workspace settings)) :
    path.parent = workspace.path := by
  rcases List.mem_map.mp ((writtenBy_soundtrackDeeds stands settings).subset member) with
    ⟨name, nameMember, rfl⟩
  rw [Workspace.file,
    Path.child_of_isName _ (isFileName_of_mem_workspaceNames passed nameMember).isName]
  simp [Path.parent]

/-! ## The workspace that is worked in -/

variable {observer : Observer} {settings : Settings} {output : String} {exportId : Option String}
  {before : Session}

theorem exportWork_prepared (before : Session) (watches : observer.OnlyWatches)
    (passed : timeline.check = .ok checked)
    (grounded : before.host.tree.IsGrounded before.host.workingPlace)
    (acquired : (Workspace.acquire exportId settings.workspaceRoot before.host).1 = .ok workspace)
    (output : String) :
    let host := (Workspace.acquire exportId settings.workspaceRoot before.host).2
    ∃ prepared place, exportWork observer settings timeline output exportId before =
        produce observer settings checked workspace output prepared ∧
      workspace.Stands prepared.host place ∧ Session.Did { before with host } [] prepared := by
  intro host
  rcases run_enterStage watches .validating before with ⟨log, printed, ranEnter⟩
  rcases Workspace.acquire_logged grounded acquired log printed with
    ⟨made, place, ran, stands, world, tree⟩
  refine ⟨{ before with
    stages := before.stages ++ [.validating]
    host := made }, place, ?_, stands, Session.did_of_same ?_ world.calls tree⟩
  · have ranAcquire : Act.onHost (Workspace.acquire exportId settings.workspaceRoot)
        { before with
          stages := before.stages ++ [.validating]
          host := { before.host with log, printed } } =
        (.ok workspace, { before with
          stages := before.stages ++ [.validating]
          host := made }) := by
      simp only [Act.onHost, ran]
    rw [exportWork_eq, run_bind_of_ok ranEnter, passed]
    simp only [Act.ofExcept, pure_bind]
    rw [run_bind_of_ok ranAcquire]
    rfl
  · exact ⟨world.script, world.workingPlace, rfl, rfl⟩

/-! ## Which clips there is something of -/

theorem survivors_eq_nil_iff (stream : Stream) :
    survivors clipOf items timeline workspace = [] ↔
      assetNames clipOf stream items timeline = [] := by
  simp only [survivors, assetNames, playedName, List.filterMap_eq_nil_iff, Option.map_eq_none_iff]

theorem survivors_eq_nil_iff_forall (clipOf : item → Clip τ) (items : List item)
    (timeline : Timeline τ) (workspace : Workspace) :
    survivors clipOf items timeline workspace = [] ↔
      ∀ item ∈ items, (clipOf item).window? timeline = none := by
  simp only [survivors, List.filterMap_eq_nil_iff, Option.map_eq_none_iff]
  conv_rhs => rw [← map_fst_withOrdinals clipOf items]
  rw [List.forall_mem_map]

theorem soundParts_eq_nil_iff : soundParts checked workspace = [] ↔
    survivors id checked.mainClips checked.timeline workspace = [] := by
  rw [soundParts, List.map_eq_nil_iff, survivors_eq_nil_iff .audio]

theorem soundParts_ne_nil
    (survive : survivors id checked.mainClips checked.timeline workspace ≠ []) :
    soundParts checked workspace ≠ [] :=
  mt soundParts_eq_nil_iff.mp survive

theorem map_output_exportExtractions :
    (exportExtractions checked workspace settings).map Extraction.output =
      (extractedNames checked).map workspace.file := by
  simp only [exportExtractions, extractedNames, List.map_append, map_output_extractions]

theorem canHold_of_fits (passed : timeline.check = .ok checked)
    (fits : ∀ extraction ∈ exportExtractions checked workspace settings,
      FileTree.Fits extraction.output) :
    ∀ name ∈ extractedNames checked, workspace.CanHold name := by
  intro name member
  have output : workspace.file name ∈
      (exportExtractions checked workspace settings).map Extraction.output := by
    rw [map_output_exportExtractions]
    exact List.mem_map_of_mem member
  rcases List.mem_map.mp output with ⟨extraction, extractionMember, same⟩
  refine ⟨isFileName_of_mem_workspaceNames passed (List.mem_append_left _ member), ?_⟩
  rw [← same]
  exact fits extraction extractionMember

/-- Where there is a sound, the workspace can hold all that is made of it. -/
theorem canHold_workspaceNames (stands : workspace.Stands host place)
    (passed : timeline.check = .ok checked)
    (canHold : ∀ name ∈ extractedNames checked, workspace.CanHold name)
    (sounding : soundParts checked workspace ≠ []) :
    ∀ name ∈ workspaceNames checked, workspace.CanHold name := by
  intro name member
  rcases List.mem_append.mp member with extracted | sound
  · exact canHold name extracted
  · -- Some part is there, and its name is at least as long as those for the whole sound.
    rcases List.exists_mem_of_ne_nil _ sounding with ⟨path, pathMember⟩
    rcases List.mem_map.mp pathMember with ⟨part, partMember, rfl⟩
    have partHeld := canHold part (List.mem_append_right _ partMember)
    rcases exists_of_mem_assetNames partMember with ⟨clip, clipMember, ordinal, _, rfl⟩
    have isFileName := isFileName_of_mem_workspaceNames passed member
    exact ⟨isFileName, stands.fits_of_le partHeld.isFileName.isName isFileName.isName
      partHeld.fits (utf8ByteSize_soundName_le sound _
        (Int.le_of_eq (Timeline.track_of_mem_mainClips passed clipMember).symm) _)⟩

/-- Names that are short enough on every track and for every number of clips that there can
be. -/
theorem fits_of_short (workspace : Workspace) {timeline : Timeline τ}
    (short : ∀ clip ∈ timeline.clips, ∀ ordinal < timeline.clips.length,
      ∀ stream ∈ [Stream.video, .audio],
        let path := workspace.file (assetName stream clip.track ordinal)
        path.text.utf8ByteSize ≤ FileTree.longestPath ∧
          ∀ part ∈ path.parts, part.utf8ByteSize ≤ FileTree.longestName)
    (settings : Settings) :
    ∀ extraction ∈ exportExtractions timeline.sorted workspace settings,
      FileTree.Fits extraction.output := by
  have fits {clip : Clip τ} (member : clip ∈ timeline.clips) {ordinal : Nat}
      (small : ordinal < timeline.clips.length) (stream : Stream) :
      FileTree.Fits (workspace.file (assetName stream clip.track ordinal)) := by
    have one := short clip member ordinal small stream (by cases stream <;> simp)
    exact ⟨one.1, one.2⟩
  have mainCount : timeline.sorted.mainClips.length ≤ timeline.clips.length := by
    simp only [Timeline.sorted, Timeline.mainClips, List.length_mergeSort]
    exact List.length_filter_le _ _
  have layerCount : timeline.sorted.layers.length ≤ timeline.clips.length := by
    simp only [Timeline.sorted, Timeline.overlayClips, List.length_map, List.length_mergeSort]
    exact List.length_filter_le _ _
  intro extraction member
  have output := List.mem_map_of_mem (f := Extraction.output) member
  rw [map_output_exportExtractions] at output
  rcases List.mem_map.mp output with ⟨name, nameMember, same⟩
  rw [← same]
  rcases List.mem_append.mp nameMember with nameMember | sound
  · rcases List.mem_append.mp nameMember with main | layer
    · rcases exists_of_mem_assetNames main with ⟨clip, clipMember, ordinal, small, rfl⟩
      exact fits (Timeline.mem_mainClips.mp clipMember).1 (small.trans_le mainCount) _
    · rcases exists_of_mem_assetNames layer with ⟨_, layerMember, ordinal, small, rfl⟩
      rcases List.mem_map.mp layerMember with ⟨clip, clipMember, rfl⟩
      exact fits (Timeline.mem_overlayClips.mp clipMember).1 (small.trans_le layerCount) _
  · rcases exists_of_mem_assetNames sound with ⟨clip, clipMember, ordinal, small, rfl⟩
    exact fits (Timeline.mem_mainClips.mp clipMember).1 (small.trans_le mainCount) _

theorem exportExtractions_sample_fits :
    ∀ extraction ∈ exportExtractions Timeline.sample.sorted Workspace.sample {},
      FileTree.Fits extraction.output :=
  fits_of_short Workspace.sample (by decide +kernel) {}

/-! ## The plan of what is left -/

/-- What is left of a checked timeline can be planned where its numbers can be written, and its
plan has a text. -/
theorem exists_plan_survivors {canvas : Int × Int} (passed : timeline.check = .ok checked)
    (readable : timeline.HasReadableOverlays)
    (canvasRead : twoIntegers settings.canvas = .ok canvas) (workspace : Workspace)
    (audioPath : String) :
    let mainAssets := survivors id checked.mainClips checked.timeline workspace
    let layerAssets := survivors Layer.clip checked.layers checked.timeline workspace
    let planned := (planMontage checked settings mainAssets layerAssets audioPath).1
    let writable := HasWritableNumbers canvas settings.fps mainAssets layerAssets
    (writable → ∃ plan text, planned = .ok plan ∧ renderGraph plan.nodes = .ok text ∧
      plan.Draws
        (sceneInputs canvas settings.fps checked.outputDuration mainAssets layerAssets) audioPath
        (scene canvas settings.fps checked.outputDuration mainAssets layerAssets)) ∧
      (¬ writable → planned = .error .tooManyDigits) := by
  intro mainAssets layerAssets planned writable
  have layersReadable : ∀ asset ∈ layerAssets, asset.item.overlay.IsReadable :=
    fun asset member => Timeline.layers_readable passed readable asset.item
      (item_mem_of_mem_survivors member)
  refine ⟨fun few => ?_, fun overlong =>
    not_planned_of_overlong checked canvasRead mainAssets layersReadable overlong audioPath⟩
  rcases exists_plan checked canvasRead mainAssets layersReadable few audioPath with
    ⟨plan, planned, -, draws⟩
  exact ⟨plan, _, planned, renderGraph_of_writable draws.finished.writable, draws⟩

theorem settled_noSound (entered : List Stage) : settled noSound entered = noSound := by
  unfold settled
  split <;> rfl

theorem Host.sample_alwaysDelivers : Host.sample.AlwaysDelivers :=
  fun _ _ => ⟨{ leavesFile := true }, rfl, rfl, rfl⟩

theorem makesDirectory_sample (exportId root : Option String) (tree : FileTree) :
    makesDirectory (Workspace.acquire exportId root Host.sample).2 "out.mp4" tree := by
  apply makesDirectory_here
  · rw [(Workspace.acquire_sameWorld exportId root Host.sample).workingPlace]
    rfl
  · decide +kernel

end Montage
