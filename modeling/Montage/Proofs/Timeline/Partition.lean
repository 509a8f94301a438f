import Montage.Proofs.Number.Amount
import Montage.Proofs.Timeline.Reordering
import Montage.Proofs.Timeline.Times

/-! How the clips of an accepted timeline are split and sorted. None is lost, doubled or changed,
and those that are tied stay in the order in which they were given. -/

namespace Montage

/-! ## Sorting -/

section

variable {α κ : Type} [LinearOrder κ] {key : α → κ} {given sorted : List α}

structure IsSorting (key : α → κ) (given sorted : List α) : Prop where
  permutes : sorted.Perm given
  ascends : sorted.Pairwise fun item later => key item ≤ key later
  keepsTies : ∀ place, sorted.filter (key · = place) = given.filter (key · = place)

/-- An order that compares keys sorts, also where it only does so among the given items. -/
theorem isSorting_mergeSort {before : α → α → Bool}
    (compares : ∀ item ∈ given, ∀ other ∈ given,
      before item other = decide (key item ≤ key other)) :
    IsSorting key given (given.mergeSort before) := by
  have sameOrder : given.mergeSort before = given.mergeSort fun a b => decide (key a ≤ key b) := by
    simpa using List.map_mergeSort (f := id) compares
  have transitive (a b c : α) (early : decide (key a ≤ key b) = true)
      (late : decide (key b ≤ key c) = true) : decide (key a ≤ key c) = true :=
    decide_eq_true ((of_decide_eq_true early).trans (of_decide_eq_true late))
  have total (a b : α) : (decide (key a ≤ key b) || decide (key b ≤ key a)) = true := by
    simpa using le_total (key a) (key b)
  rw [sameOrder]
  constructor
  · exact List.mergeSort_perm given _
  · apply (List.pairwise_mergeSort transitive total given).imp
    intro item later before
    exact of_decide_eq_true before
  · intro place
    apply filter_mergeSort transitive total
    intro item other atPlace alsoAtPlace
    exact decide_eq_true
      ((of_decide_eq_true atPlace).trans (of_decide_eq_true alsoAtPlace).symm).le

end

/-! ## Clips in their order -/

def Amount.value : Amount → ℚ
  | .number value => value
  | _ => 0

variable {τ : Type} [Quantity τ] [Measured τ]

def Clip.instant (clip : Clip τ) : ℚ :=
  (amount clip.startTime).value

def Clip.depth (clip : Clip τ) : Int ×ₗ ℚ :=
  toLex (clip.track.number, clip.instant)

theorem Clip.IsTimed.amount_startTime {clip : Clip τ} (timed : clip.IsTimed) :
    amount clip.startTime = .number clip.instant := by
  have finite := timed.startTime_finite
  rw [Measured.isFinite_eq, Amount.isFinite_iff] at finite
  obtain ⟨value, isValue⟩ := finite
  rw [instant, isValue, Amount.value]

section

variable {clip other : Clip τ} (timed : clip.IsTimed) (otherTimed : other.IsTimed)

include timed otherTimed

/-- Two finite starts lie to each other as the instants that they stand for. -/
theorem startsFirst_eq : startsFirst clip other = decide (clip.instant ≤ other.instant) := by
  have compares : Quantity.less other.startTime clip.startTime = true ↔
      other.instant < clip.instant := by
    rw [Measured.less_eq, timed.amount_startTime, otherTimed.amount_startTime,
      Amount.less_number_iff]
  rw [startsFirst, Bool.eq_iff_iff, Bool.not_eq_true', ← Bool.not_eq_true, compares, not_lt,
    decide_eq_true_iff]

theorem drawnFirst_eq : drawnFirst clip other = decide (clip.depth ≤ other.depth) := by
  rw [drawnFirst, startsFirst_eq timed otherTimed, Bool.eq_iff_iff, decide_eq_true_iff, Clip.depth,
    Clip.depth, Prod.Lex.toLex_le_toLex]
  simp

end

/-- An accepted timeline is split into the clips of its main track, by their start, and the
others, by their track and then their start. Each of the others is drawn as it says, or else in the
standard way. -/
structure Timeline.IsPartitioned (timeline : Timeline τ) (checked : CheckedTimeline τ) :
    Prop where
  unchanged : checked.timeline = timeline
  instants : ∀ clip ∈ timeline.clips, amount clip.startTime = .number clip.instant
  main : IsSorting Clip.instant (timeline.clips.filter (·.track.number = 0)) checked.mainClips
  above : IsSorting Clip.depth (timeline.clips.filter (·.track.number ≠ 0))
    (checked.layers.map Layer.clip)
  drawn : ∀ layer ∈ checked.layers, layer.overlay = layer.clip.overlay.getD {
    position := pairOf 0 0
    size := pairOf 640 360
    opacity := 0.8
    blendMode := "normal" }
  permutes : (checked.mainClips ++ checked.layers.map Layer.clip).Perm timeline.clips

namespace Timeline

variable {timeline : Timeline τ} {checked : CheckedTimeline τ}

theorem isSorting_mainClips (timed : ∀ clip ∈ timeline.clips, clip.IsTimed) :
    IsSorting Clip.instant (timeline.clips.filter (·.track.number = 0)) timeline.mainClips := by
  apply isSorting_mergeSort
  intro clip member other otherMember
  exact startsFirst_eq (timed clip (List.mem_filter.mp member).1)
    (timed other (List.mem_filter.mp otherMember).1)

theorem isSorting_overlayClips (timed : ∀ clip ∈ timeline.clips, clip.IsTimed) :
    IsSorting Clip.depth (timeline.clips.filter (·.track.number ≠ 0)) timeline.overlayClips := by
  have sameClips : timeline.clips.filter (·.track.number ≠ 0) =
      timeline.clips.filter (!·.track.isMain) := by
    apply List.filter_congr
    intro clip _
    rw [Bool.eq_iff_iff]
    simp [Track.isMain]
  rw [sameClips]
  apply isSorting_mergeSort
  intro clip member other otherMember
  exact drawnFirst_eq (timed clip (List.mem_filter.mp member).1)
    (timed other (List.mem_filter.mp otherMember).1)

/-- No clip is lost, doubled or changed, and ties stay as they were given. -/
theorem check_partitions (passed : timeline.check = .ok checked) :
    timeline.IsPartitioned checked := by
  have timed := clips_timed passed
  have clipsOfLayers : (timeline.overlayClips.map Layer.ofClip).map Layer.clip =
      timeline.overlayClips := by
    rw [List.map_map]
    exact List.map_id _
  cases checked_eq passed
  have main := isSorting_mainClips timed
  have above := isSorting_overlayClips timed
  constructor
  · rfl
  · exact fun clip member => (timed clip member).amount_startTime
  · exact main
  · exact clipsOfLayers ▸ above
  · intro layer member
    obtain ⟨clip, -, rfl⟩ := List.mem_map.mp member
    rfl
  · change (timeline.mainClips ++ (timeline.overlayClips.map Layer.ofClip).map Layer.clip).Perm _
    rw [clipsOfLayers]
    apply (main.permutes.append above.permutes).trans
    simpa using List.filter_append_perm (fun clip : Clip τ => clip.track.number = 0) timeline.clips

def crowded : Timeline Float :=
  .ofClips [
    { Clip.ofTrim "title.mp4" (0.0 : Float) 1.5 with track := .numbered 1 },
    .ofTrim "first.mp4" 0.0 4.0,
    { Clip.ofTrim "sign.mp4" (0.0 : Float) 2.0 with
      track := .numbered 1
      overlay := some { (Overlay.standard : Overlay Float) with opacity := 0.5 } },
    { Clip.ofTrim "second.mp4" (1.0 : Float) 3.0 with startTime := -0.0 }]

theorem crowded_isPartitioned :
    crowded.check = .ok crowded.sorted ∧ crowded.IsPartitioned crowded.sorted := by
  have passed : crowded.check = .ok crowded.sorted := check_eq_of_isSome (by decide +kernel)
  exact ⟨passed, check_partitions passed⟩

end Timeline

end Montage
