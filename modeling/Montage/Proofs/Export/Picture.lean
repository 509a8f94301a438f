import Montage.Proofs.Export.Parallel
import Montage.Proofs.Graph.Overlong
import Montage.Proofs.Graph.SizedDrawing

/-! The picture of an export: what is extracted is what the graph shows. -/

namespace Montage

variable {τ : Type} [Quantity τ]

theorem item_mem_of_mem_survivors {item : Type} {clipOf : item → Clip τ} {items : List item}
    {timeline : Timeline τ} {workspace : Workspace} {asset : Asset item τ}
    (member : asset ∈ survivors clipOf items timeline workspace) : asset.item ∈ items := by
  rcases List.mem_filterMap.mp member with ⟨counted, countedMember, surviving⟩
  rcases Option.map_eq_some_iff.mp surviving with ⟨window, _, rfl⟩
  exact mem_of_mem_withOrdinals countedMember

theorem allNameable_mainClips {timeline : Timeline τ} {checked : CheckedTimeline τ}
    (passed : timeline.check = .ok checked) : AllNameable id checked.mainClips checked.timeline :=
  fun _ member _ => Clip.isNameable_of_isMain (Timeline.isMain_of_mem_mainClips passed member)

theorem allNameable_layers {timeline : Timeline τ}
    (nameable : ∀ clip ∈ timeline.clips, clip.IsNameable) :
    AllNameable Layer.clip timeline.sorted.layers timeline := by
  intro layer member _
  rcases List.mem_map.mp member with ⟨clip, clipMember, rfl⟩
  exact nameable clip (Timeline.mem_overlayClips.mp clipMember).1

theorem Timeline.sample_isNameable : ∀ clip ∈ sample.clips, clip.IsNameable := by
  intro clip member
  simp only [sample, ofClips, List.mem_cons, List.not_mem_nil, or_false] at member
  rcases member with rfl | rfl | rfl | rfl
  all_goals
    unfold Clip.IsNameable
    decide +kernel

variable [LawfulQuantity τ]

/-- When every call succeeds, the pictures of all main clips and layers that play are
extracted, and the video that is planned from them shows the scene that they make. The layers are
not extracted when the track of one cannot be written, and nothing is planned when another
integer cannot. -/
theorem video_shows_scene {timeline : Timeline τ} {checked : CheckedTimeline τ}
    (passed : timeline.check = .ok checked) (readable : timeline.HasReadableOverlays)
    {settings : Settings} {canvas : Int × Int}
    (canvasRead : twoIntegers settings.canvas = .ok canvas) {before : Session}
    (succeeds : before.Succeeds) (workspace : Workspace) (audioPath : String) :
    let mainAssets := survivors id checked.mainClips timeline workspace
    let layerAssets := survivors Layer.clip checked.layers timeline workspace
    let nameable := AllNameable Layer.clip checked.layers timeline
    let writable := HasWritableNumbers canvas settings.fps mainAssets layerAssets
    let planned := (planMontage checked settings mainAssets layerAssets audioPath).1
    ∃ middle, extractMain checked workspace settings before = (.ok mainAssets, middle) ∧
      (nameable → ∃ after,
        extractLayers checked workspace settings middle = (.ok layerAssets, after)) ∧
      (¬ nameable → (extractLayers checked workspace settings middle).1 =
        .error (.misfit .tooManyDigits)) ∧
      (writable → ∃ plan, planned = .ok plan ∧ plan.videoLabel = videoLabel ∧
        pictureOf plan.inputs plan.nodes videoLabel =
          some (scene canvas settings.fps checked.outputDuration mainAssets layerAssets)) ∧
      (¬ writable → planned = .error .tooManyDigits) := by
  intro mainAssets layerAssets nameable writable planned
  have sameTimeline : checked.timeline = timeline := by rw [Timeline.checked_eq passed]; rfl
  rcases extractAll_of_succeeds succeeds (allNameable_mainClips passed) workspace settings
    with ⟨middle, mainRan, middleSucceeds⟩
  rw [sameTimeline] at mainRan
  have layersReadable : ∀ asset ∈ layerAssets, asset.item.overlay.IsReadable :=
    fun asset member => Timeline.layers_readable passed readable asset.item
      (item_mem_of_mem_survivors member)
  refine ⟨middle, ?_, fun named => ?_, fun unnamed => ?_, fun few => ?_, fun overlong => ?_⟩
  · rw [extractMain, sameTimeline]
    exact mainRan
  · rcases extractAll_of_succeeds middleSucceeds named workspace settings with ⟨after, ran, -⟩
    rw [extractLayers, sameTimeline]
    exact ⟨after, ran⟩
  · rw [extractLayers, sameTimeline]
    exact extractAll_of_not_nameable middleSucceeds unnamed workspace settings
  · rcases exists_plan checked canvasRead mainAssets layersReadable few audioPath with
      ⟨plan, isPlan, -, draws⟩
    refine ⟨plan, isPlan, draws.videoLabel_eq, ?_⟩
    rw [draws.inputs_eq]
    exact pictureOf_append_inputs draws.finished.shows [⟨audioPath, []⟩]
  · exact not_planned_of_overlong checked canvasRead mainAssets layersReadable overlong audioPath

/-- The sample on a machine of which nothing else is known. -/
theorem video_shows_scene_sample :
    let session : Session := { host := {}, runner := ({} : Host).newRunner none none }
    let workspace : Workspace := { path := .ofText "/tmp/cliptrack-1", exportId := "1" }
    let mainAssets := survivors id Timeline.sample.sorted.mainClips Timeline.sample workspace
    let layerAssets := survivors Layer.clip Timeline.sample.sorted.layers Timeline.sample workspace
    Timeline.sample.check = .ok Timeline.sample.sorted ∧ session.Succeeds ∧
    ∃ middle after plan,
      extractMain Timeline.sample.sorted workspace {} session = (.ok mainAssets, middle) ∧
      extractLayers Timeline.sample.sorted workspace {} middle = (.ok layerAssets, after) ∧
      (planMontage Timeline.sample.sorted {} mainAssets layerAssets "audio.m4a").1 = .ok plan ∧
      plan.videoLabel = videoLabel ∧
      pictureOf plan.inputs plan.nodes videoLabel =
        some (scene (1920, 1080) (.int 30) Timeline.sample.sorted.outputDuration mainAssets
          layerAssets) := by
  intro session workspace mainAssets layerAssets
  have succeeds : session.Succeeds := ⟨rfl, fun _ _ => ⟨{}, rfl, rfl⟩⟩
  have canvasRead : twoIntegers ({} : Settings).canvas = .ok (1920, 1080) :=
    twoIntegers_pairOf 1920 1080
  rcases video_shows_scene Timeline.sample_passes Timeline.sample_hasReadableOverlays canvasRead
    succeeds workspace "audio.m4a" with ⟨middle, mainRan, extracts, -, shows, -⟩
  rcases extracts (allNameable_layers Timeline.sample_isNameable) with ⟨after, layersRan⟩
  rcases shows (Timeline.sample_hasWritableNumbers _ fun _ => item_mem_of_mem_survivors) with
    ⟨plan, planned, label, picture⟩
  exact ⟨Timeline.sample_passes, succeeds, middle, after, plan, mainRan, layersRan, planned, label,
    picture⟩

/-- Whatever happened before and whatever sizes the files have: main clips and the layers that
were extracted have a plan if their integers can be written, and in its graph the sizes of all
pictures agree. -/
theorem sizes_agree {timeline : Timeline τ} {checked : CheckedTimeline τ}
    (passed : timeline.check = .ok checked) (readable : timeline.HasReadableOverlays)
    {settings : Settings} {canvas : Int × Int}
    (canvasRead : twoIntegers settings.canvas = .ok canvas) {workspace : Workspace}
    {before after : Session} (mainAssets : List (Asset (Clip τ) τ))
    {layerAssets : List (Asset (Layer τ) τ)}
    (extracted : extractLayers checked workspace settings before = (.ok layerAssets, after))
    (audioPath : String) (fileExtent : String → Extent) :
    let writable := HasWritableNumbers canvas settings.fps mainAssets layerAssets
    let planned := (planMontage checked settings mainAssets layerAssets audioPath).1
    (writable → ∃ plan, planned = .ok plan ∧
      SizesAgree fileExtent canvas plan.inputs plan.nodes) ∧
    (¬ writable → planned = .error .tooManyDigits) := by
  have layersReadable : ∀ asset ∈ layerAssets, asset.item.overlay.IsReadable := by
    intro asset member
    rw [eq_survivors_of_extractAll extracted] at member
    exact Timeline.layers_readable passed readable asset.item (item_mem_of_mem_survivors member)
  exact ⟨fun few => exists_plan_sizesAgree fileExtent checked canvasRead mainAssets layersReadable
      few audioPath,
    fun overlong => not_planned_of_overlong checked canvasRead mainAssets layersReadable overlong
      audioPath⟩

theorem sizes_agree_sample :
    let session : Session := { host := {}, runner := ({} : Host).newRunner none none }
    let workspace : Workspace := { path := .ofText "/tmp/cliptrack-1", exportId := "1" }
    let mainAssets := survivors id Timeline.sample.sorted.mainClips Timeline.sample workspace
    let layerAssets := survivors Layer.clip Timeline.sample.sorted.layers Timeline.sample workspace
    Timeline.sample.check = .ok Timeline.sample.sorted ∧
    ∃ after, extractLayers Timeline.sample.sorted workspace {} session = (.ok layerAssets, after) ∧
    ∃ plan, (planMontage Timeline.sample.sorted {} mainAssets layerAssets "audio.m4a").1 =
        .ok plan ∧
      SizesAgree (fun _ => (640, 480)) (1920, 1080) plan.inputs plan.nodes := by
  intro session workspace mainAssets layerAssets
  have succeeds : session.Succeeds := ⟨rfl, fun _ _ => ⟨{}, rfl, rfl⟩⟩
  have canvasRead : twoIntegers ({} : Settings).canvas = .ok (1920, 1080) :=
    twoIntegers_pairOf 1920 1080
  rcases extractAll_of_succeeds succeeds (allNameable_layers Timeline.sample_isNameable) workspace
    {} with ⟨after, extracted, -⟩
  rcases sizes_agree Timeline.sample_passes Timeline.sample_hasReadableOverlays canvasRead
    mainAssets extracted "audio.m4a" fun _ => (640, 480) with ⟨agrees, -⟩
  exact ⟨Timeline.sample_passes, after, extracted,
    agrees (Timeline.sample_hasWritableNumbers _ fun _ => item_mem_of_mem_survivors)⟩

end Montage
