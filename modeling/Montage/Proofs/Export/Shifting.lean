import Montage.Proofs.Export.Pool
import Montage.Proofs.Export.Reordering
import Montage.Proofs.Timeline.Shifting

/-! Exports of timelines that start at another time. What is extracted and composed of a clip
depends on the part of it that plays, not on when it starts on the timeline. -/

namespace Montage

variable {τ : Type} [Quantity τ]

def Asset.map {item other : Type} (change : item → other) (asset : Asset item τ) :
    Asset other τ where
  item := change asset.item
  window := asset.window
  path := asset.path

structure Timeline.PlaysAlike (change : Clip τ → Clip τ) (timeline other : Timeline τ) : Prop where
  source : ∀ clip, (change clip).source = clip.source
  track : ∀ clip, (change clip).track = clip.track
  window? : ∀ clip, (change clip).window? other = clip.window? timeline
  sourcePart : ∀ clip, (change clip).sourcePart other = clip.sourcePart timeline

/-! ## Extractions -/

namespace Timeline.PlaysAlike

variable {change : Clip τ → Clip τ} {timeline other : Timeline τ}
  (alike : timeline.PlaysAlike change other)

include alike

theorem extract (clip : Clip τ) (stream : Stream) :
    Montage.extract (change clip) stream other = Montage.extract clip stream timeline := by
  funext workspace settings ordinal
  simp only [Montage.extract, Clip.extraction?, alike.window?, alike.sourcePart, alike.source,
    alike.track]

theorem map_track (clips : List (Clip τ)) :
    (clips.map change).map Clip.track = clips.map Clip.track := by
  simp only [List.map_map, Function.comp_def, alike.track]

/-- Items that are changed along with their clips give pictures of the changed items, in the
same files. -/
theorem extractAll {item : Type} (clipOf : item → Clip τ) (changeItem : item → item)
    (changes : ∀ given, clipOf (changeItem given) = change (clipOf given)) (items : List item)
    (workspace : Workspace) (settings : Settings) :
    Montage.extractAll clipOf (items.map changeItem) other workspace settings =
      List.map (Asset.map changeItem) <$>
        Montage.extractAll clipOf items timeline workspace settings := by
  have jobs : extractionJobs clipOf (items.map changeItem) other workspace settings =
      (extractionJobs clipOf items timeline workspace settings).map
        (Option.map (Asset.map changeItem) <$> ·) := by
    simp only [extractionJobs, List.map_map, Function.comp_def, changes, alike.track,
      List.zip_map_left]
    refine List.map_congr_left fun counted _ => ?_
    simp only [Prod.map, changes, alike.extract, id_eq, map_bind, map_pure, Option.map_map]
    rfl
  unfold Montage.extractAll
  rw [jobs, runJobs_map, bind_map_left, map_bind]
  refine bind_congr fun results => ?_
  rw [map_pure, List.map_filterMap, List.filterMap_map]
  rfl

end Timeline.PlaysAlike

/-! ## The plan -/

section

variable {change : Clip τ → Clip τ} {settings : Settings}

theorem drawBase_map (duration : τ) (assets : List (Asset (Clip τ) τ)) :
    Builder.drawBase settings duration (assets.map (.map change)) =
      Builder.drawBase settings duration assets := by
  have drawn (label : String) : (assets.map (Asset.map change)).foldlM
      (Builder.drawMain settings) label = assets.foldlM (Builder.drawMain settings) label :=
    List.foldlM_map ..
  unfold Builder.drawBase
  simp only [drawn]
  match assets with
  | [] => rfl
  | [_] => rfl
  | _ :: _ :: _ => rfl

theorem drawLayer_map (sameSource : ∀ clip, (change clip).source = clip.source) (label : String)
    (asset : Asset (Layer τ) τ) :
    Builder.drawLayer settings label (asset.map (.onClip change)) =
      Builder.drawLayer settings label asset := by
  simp only [Builder.drawLayer, Asset.map, Layer.onClip, sameSource]

theorem drawAll_map (sameSource : ∀ clip, (change clip).source = clip.source) (duration : τ)
    (mainAssets : List (Asset (Clip τ) τ)) (layerAssets : List (Asset (Layer τ) τ))
    (audioPath : String) :
    Builder.drawAll settings duration (mainAssets.map (.map change))
        (layerAssets.map (.map (.onClip change))) audioPath =
      Builder.drawAll settings duration mainAssets layerAssets audioPath := by
  simp only [Builder.drawAll, drawBase_map, List.foldlM_map, drawLayer_map sameSource]

end

/-! ## Exports -/

structure CheckedTimeline.PlaysAlike (change : Clip τ → Clip τ)
    (checked other : CheckedTimeline τ) : Prop where
  timeline : checked.timeline.PlaysAlike change other.timeline
  mainClips : other.mainClips = checked.mainClips.map change
  layers : other.layers = checked.layers.map (.onClip change)

namespace CheckedTimeline.PlaysAlike

variable {change : Clip τ → Clip τ} {checked other : CheckedTimeline τ}
  (alike : checked.PlaysAlike change other)

include alike

theorem assembleSound : Montage.assembleSound other = Montage.assembleSound checked := by
  funext workspace settings
  simp only [Montage.assembleSound, extractSound, alike.mainClips, alike.timeline.map_track,
    List.zip_map_left, List.mapM_map, Function.comp_def, Prod.map, alike.timeline.extract, id_eq]

theorem outputDuration : other.outputDuration = checked.outputDuration := by
  simp only [CheckedTimeline.outputDuration, alike.mainClips, List.filterMap_map,
    Function.comp_def, alike.timeline.window?]

theorem planComposition (settings : Settings) (mainAssets : List (Asset (Clip τ) τ))
    (layerAssets : List (Asset (Layer τ) τ)) (audio : Path) :
    Montage.planComposition other settings (mainAssets.map (.map change))
        (layerAssets.map (.map (.onClip change))) audio =
      Montage.planComposition checked settings mainAssets layerAssets audio := by
  simp only [Montage.planComposition, planMontage, alike.outputDuration,
    drawAll_map alike.timeline.source]

theorem produce (observer : Observer) (settings : Settings) :
    Montage.produce observer settings other = Montage.produce observer settings checked := by
  funext workspace output
  have main := alike.timeline.extractAll id change (fun _ => rfl) checked.mainClips workspace
    settings
  have layers := alike.timeline.extractAll Layer.clip (.onClip change) (fun _ => rfl)
    checked.layers workspace settings
  simp only [Montage.produce, arrange, extractMain, extractLayers, alike.mainClips, alike.layers,
    main, layers, alike.assembleSound, bind_map_left, alike.planComposition]

end CheckedTimeline.PlaysAlike

theorem playsAlike_shifted (offset : ℚ) (timeline : Timeline ℚ) :
    timeline.sorted.PlaysAlike (.shifted offset) (timeline.shifted offset).sorted where
  timeline := {
    source := fun _ => rfl
    track := fun _ => rfl
    window? := fun clip => clip.window?_shifted offset timeline
    sourcePart := fun clip => clip.sourcePart_shifted offset timeline }
  mainClips := timeline.mainClips_shifted offset
  layers := timeline.layers_shifted offset

/-- All times of a timeline are moved together. Both timelines pass or neither does, and their
exports are the same: every call, every file that is written, and what they come to. Several
workers are on the schedule of `runPool` in both. -/
theorem exportTimeline_shifted (offset : ℚ) (timeline : Timeline ℚ) :
    ((∃ checked, timeline.check = .ok checked) ↔
        ∃ checked, (timeline.shifted offset).check = .ok checked) ∧
      ∀ checked, timeline.check = .ok checked → ∀ observer settings,
        exportTimeline observer settings (timeline.shifted offset) =
          exportTimeline observer settings timeline := by
  have bothPass := timeline.check_shifted offset
  refine ⟨⟨?_, ?_⟩, ?_⟩
  · rintro ⟨checked, passed⟩
    rw [Timeline.checked_eq passed] at passed
    exact ⟨_, bothPass.mpr passed⟩
  · rintro ⟨checked, passed⟩
    rw [Timeline.checked_eq passed] at passed
    exact ⟨_, bothPass.mp passed⟩
  · intro checked passed observer settings
    rw [Timeline.checked_eq passed] at passed
    exact exportTimeline_of_produce (bothPass.mpr passed) passed
      ((playsAlike_shifted offset timeline).produce observer settings)

def Timeline.late : Timeline ℚ where
  clips := [
    { Clip.ofTrim "second.mp4" 1.0 3.0 with startTime := 3604.0 },
    { Clip.ofTrim "first.mp4" 0.0 4.0 with startTime := 3600.0 },
    { Clip.ofTrim "title.mp4" 0.0 1.5 with track := .numbered 1, startTime := 3599.5 }]
  trimStart := 3600.0
  trimEnd := none

theorem exportTimeline_shifted_late :
    Timeline.late.check = .ok Timeline.late.sorted ∧ ∀ observer settings,
      exportTimeline observer settings (Timeline.late.shifted (-3600)) =
        exportTimeline observer settings Timeline.late := by
  have passed : Timeline.late.check = .ok Timeline.late.sorted :=
    Timeline.check_eq_of_isSome (by decide +kernel)
  exact ⟨passed, (exportTimeline_shifted (-3600) Timeline.late).2 _ passed⟩

end Montage
