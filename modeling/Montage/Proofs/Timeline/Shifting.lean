import Montage.Proofs.Timeline.Reordering

/-! Timelines that start at another time. A clip plays at a time relative to the start of the
global trim, so that a timeline of which all times are moved together plays the same. -/

namespace Montage

def Layer.onClip {τ : Type} (change : Clip τ → Clip τ) (layer : Layer τ) : Layer τ :=
  { layer with clip := change layer.clip }

/-! ## Clips at another time -/

def Clip.shifted (offset : ℚ) (clip : Clip ℚ) : Clip ℚ :=
  { clip with startTime := clip.startTime + offset }

/-- The clips and the part that is rendered come later by the same time. Where rendering stops
at the end of the last clip, it still does. -/
def Timeline.shifted (offset : ℚ) (timeline : Timeline ℚ) : Timeline ℚ where
  clips := timeline.clips.map (.shifted offset)
  trimStart := timeline.trimStart + offset
  trimEnd := timeline.trimEnd.map (· + offset)

namespace Quantity

variable (first second offset : ℚ)

theorem less_add_right : less (first + offset) (second + offset) = less first second :=
  decide_eq_decide.mpr (add_lt_add_iff_right offset)

theorem later_add_right :
    later (first + offset) (second + offset) = later first second + offset := by
  rw [later_eq_max, later_eq_max, max_add_add_right]

end Quantity

variable (offset : ℚ) (clip : Clip ℚ) (timeline : Timeline ℚ)

theorem Clip.endTime_shifted : (clip.shifted offset).endTime = clip.endTime + offset :=
  add_right_comm clip.startTime offset clip.duration

theorem startsFirst_shifted (other : Clip ℚ) :
    startsFirst (clip.shifted offset) (other.shifted offset) = startsFirst clip other :=
  congrArg not (Quantity.less_add_right other.startTime clip.startTime offset)

theorem drawnFirst_shifted (other : Clip ℚ) :
    drawnFirst (clip.shifted offset) (other.shifted offset) = drawnFirst clip other := by
  unfold drawnFirst
  rw [startsFirst_shifted]
  rfl

/-- The times of a fraction are all finite, so that a moved clip is checked as it was. -/
theorem Clip.check_shifted (index : Nat) :
    (clip.shifted offset).check index = clip.check index := rfl

/-! ## What is rendered -/

namespace Timeline

theorem resolvedEnd_shifted :
    (timeline.shifted offset).resolvedEnd = timeline.resolvedEnd + offset := by
  rcases timeline with ⟨clips, trimStart, _ | trimEnd⟩
  · cases clips with
    | nil => rfl
    | cons clip rest =>
        simp only [resolvedEnd, shifted, Option.map_none, List.map_cons, List.map_map]
        have ends : rest.map (Clip.endTime ∘ Clip.shifted offset) =
            (rest.map Clip.endTime).map (· + offset) := by
          rw [List.map_map]
          exact List.map_congr_left fun clip _ => clip.endTime_shifted offset
        rw [ends, List.foldl_map, Clip.endTime_shifted]
        exact List.foldl_hom (· + offset) fun latest time =>
          Quantity.later_add_right latest time offset
  · rfl

theorem duration_shifted : (timeline.shifted offset).duration = timeline.duration := by
  rw [duration, resolvedEnd_shifted]
  exact add_sub_add_right_eq_sub timeline.resolvedEnd timeline.trimStart offset

end Timeline

namespace Clip

theorem outputStart_shifted :
    (clip.shifted offset).outputStart (timeline.shifted offset) = clip.outputStart timeline :=
  add_sub_add_right_eq_sub clip.startTime timeline.trimStart offset

theorem window?_shifted :
    (clip.shifted offset).window? (timeline.shifted offset) = clip.window? timeline := by
  rw [window?, outputStart_shifted, Timeline.duration_shifted]
  rfl

theorem sourcePart_shifted :
    (clip.shifted offset).sourcePart (timeline.shifted offset) = clip.sourcePart timeline := by
  rw [sourcePart, window?_shifted, outputStart_shifted]
  rfl

end Clip

/-! ## What is checked and sorted -/

namespace Timeline

theorem mainClips_shifted :
    (timeline.shifted offset).mainClips = timeline.mainClips.map (.shifted offset) := by
  have kept : (timeline.shifted offset).clips.filter (·.track.isMain) =
      (timeline.clips.filter (·.track.isMain)).map (.shifted offset) := List.filter_map
  rw [mainClips, kept, mainClips, List.map_mergeSort fun clip _ other _ =>
    (startsFirst_shifted offset clip other).symm]

theorem overlayClips_shifted :
    (timeline.shifted offset).overlayClips = timeline.overlayClips.map (.shifted offset) := by
  have kept : (timeline.shifted offset).clips.filter (!·.track.isMain) =
      (timeline.clips.filter (!·.track.isMain)).map (.shifted offset) := List.filter_map
  rw [overlayClips, kept, overlayClips, List.map_mergeSort fun clip _ other _ =>
    (drawnFirst_shifted offset clip other).symm]

theorem layers_shifted :
    (timeline.shifted offset).sorted.layers =
      timeline.sorted.layers.map (.onClip (.shifted offset)) := by
  simp only [sorted, overlayClips_shifted, List.map_map]
  rfl

/-- Exact times are all finite, so that only the order of the two ends counts. -/
theorem checkTrim_eq_ok_iff {timeline : Timeline ℚ} :
    timeline.checkTrim = .ok () ↔ timeline.trimStart < timeline.resolvedEnd := by
  have order : (!Quantity.atMost timeline.resolvedEnd timeline.trimStart) = true ↔
      timeline.trimStart < timeline.resolvedEnd := by
    simp [Quantity.atMost]
  rw [← order]
  rcases timeline with ⟨clips, trimStart, _ | trimEnd⟩
  · exact require_eq_ok_iff
  · exact require_eq_ok_iff

/-- Both pass or neither does. -/
theorem check_shifted :
    (timeline.shifted offset).check = .ok (timeline.shifted offset).sorted ↔
      timeline.check = .ok timeline.sorted := by
  have someMain : (∃ clip ∈ (timeline.shifted offset).clips, clip.track.isMain = true) ↔
      ∃ clip ∈ timeline.clips, clip.track.isMain = true := by
    simp [shifted, Clip.shifted]
  have notEmpty : (timeline.shifted offset).trimStart < timeline.resolvedEnd + offset ↔
      timeline.trimStart < timeline.resolvedEnd := add_lt_add_iff_right offset
  rw [check_eq_ok_iff, check_eq_ok_iff, checkTrim_eq_ok_iff, checkTrim_eq_ok_iff,
    resolvedEnd_shifted, notEmpty, someMain]
  simp only [shifted, ne_eq, List.map_eq_nil_iff, List.forall_mem_map, Clip.check_shifted]

end Timeline

end Montage
