import Montage.Proofs.Export.Reordering
import Montage.Proofs.Timeline.Partition

/-! Timelines from which clips are left out that play nothing. With an end of its own a timeline
is rendered over the same span without them, and the clips that play come in the same order. -/

namespace Montage

/-- What is kept of two sorted lists is the same when it is the same of the lists that were
sorted. -/
theorem IsSorting.filter_eq {α κ : Type} [LinearOrder κ] {key : α → κ}
    {given sorted otherGiven otherSorted : List α} (isSorting : IsSorting key given sorted)
    (isSortingToo : IsSorting key otherGiven otherSorted) {keep : α → Bool}
    (same : given.filter keep = otherGiven.filter keep) :
    sorted.filter keep = otherSorted.filter keep := by
  refine eq_of_sorted_of_ties (isSorting.ascends.filter keep) (isSortingToo.ascends.filter keep)
    fun place => ?_
  rw [List.filter_comm, isSorting.keepsTies, List.filter_comm, same, List.filter_comm,
    ← isSortingToo.keepsTies, List.filter_comm]

variable {τ : Type} [Quantity τ]

def Clip.plays (timeline : Timeline τ) (clip : Clip τ) : Bool :=
  (clip.window? timeline).isSome

/-- What is made of the windows of some items is made of those that play. -/
theorem filterMap_filter_plays {item α : Type} (clipOf : item → Clip τ) (timeline : Timeline τ)
    (make : item → Window τ → α) (items : List item) :
    (items.filter fun given => (clipOf given).plays timeline).filterMap
        (fun given => ((clipOf given).window? timeline).map (make given)) =
      items.filterMap fun given => ((clipOf given).window? timeline).map (make given) := by
  rw [List.filterMap_filter]
  refine List.filterMap_congr fun given _ => ?_
  cases plays : (clipOf given).window? timeline with
  | none => simp
  | some window => simp [Clip.plays, plays]

structure Timeline.LeavesOut (timeline other : Timeline τ) : Prop where
  clips : other.clips.Sublist timeline.clips
  keepsPlaying : other.clips.filter (Clip.plays timeline) =
    timeline.clips.filter (Clip.plays timeline)
  trimStart : other.trimStart = timeline.trimStart
  trimEnd : other.trimEnd = timeline.trimEnd

namespace Timeline.LeavesOut

variable {timeline other : Timeline τ} (leavesOut : timeline.LeavesOut other)

include leavesOut

theorem sameSpan {stop : τ} (ends : timeline.trimEnd = some stop) : timeline.SameSpan other where
  trimStart := leavesOut.trimStart.symm
  resolvedEnd := by simp only [resolvedEnd, leavesOut.trimEnd, ends]

theorem checkTrim {stop : τ} (ends : timeline.trimEnd = some stop) :
    other.checkTrim = timeline.checkTrim := by
  simp only [Timeline.checkTrim, leavesOut.trimStart, leavesOut.trimEnd,
    (leavesOut.sameSpan ends).resolvedEnd]

/-- It passes when some clip of the main track plays. -/
theorem check {stop : τ} (ends : timeline.trimEnd = some stop) {checked : CheckedTimeline τ}
    (passed : timeline.check = .ok checked)
    (plays : ∃ clip ∈ checked.mainClips, (clip.window? timeline).isSome = true) :
    other.check = .ok other.sorted := by
  obtain ⟨-, clipsPass, trimPasses, -, rfl⟩ := check_eq_ok_iff.mp passed
  obtain ⟨clip, member, clipPlays⟩ := plays
  obtain ⟨clipMember, main⟩ := mem_mainClips.mp member
  have kept : clip ∈ other.clips.filter (Clip.plays timeline) := by
    rw [leavesOut.keepsPlaying]
    exact List.mem_filter.mpr ⟨clipMember, clipPlays⟩
  have otherMember := (List.mem_filter.mp kept).1
  refine check_eq_ok_iff.mpr
    ⟨List.ne_nil_of_mem otherMember, ?_, ?_, ⟨clip, otherMember, main⟩, rfl⟩
  · exact fun clip member => clipsPass clip (leavesOut.clips.subset member)
  · rw [leavesOut.checkTrim ends, trimPasses]

theorem filter_clips (keep : Clip τ → Bool) :
    (timeline.clips.filter keep).filter (Clip.plays timeline) =
      (other.clips.filter keep).filter (Clip.plays timeline) := by
  rw [List.filter_comm, ← leavesOut.keepsPlaying, List.filter_comm]

variable [Measured τ]

theorem mainClips (timed : ∀ clip ∈ timeline.clips, clip.IsTimed) :
    timeline.mainClips.filter (Clip.plays timeline) =
      other.mainClips.filter (Clip.plays timeline) :=
  (isSorting_mainClips timed).filter_eq
    (isSorting_mainClips fun clip member => timed clip (leavesOut.clips.subset member))
    (leavesOut.filter_clips _)

theorem overlayClips (timed : ∀ clip ∈ timeline.clips, clip.IsTimed) :
    timeline.overlayClips.filter (Clip.plays timeline) =
      other.overlayClips.filter (Clip.plays timeline) :=
  (isSorting_overlayClips timed).filter_eq
    (isSorting_overlayClips fun clip member => timed clip (leavesOut.clips.subset member))
    (leavesOut.filter_clips _)

end Timeline.LeavesOut

/-! ## Checked timelines -/

structure CheckedTimeline.PlaysSame (checked other : CheckedTimeline τ) : Prop where
  span : checked.timeline.SameSpan other.timeline
  mainClips : checked.mainClips.filter (Clip.plays checked.timeline) =
    other.mainClips.filter (Clip.plays checked.timeline)
  layers : checked.layers.filter (·.clip.plays checked.timeline) =
    other.layers.filter (·.clip.plays checked.timeline)

namespace CheckedTimeline.PlaysSame

variable {checked other : CheckedTimeline τ}

/-- The latest end among the main clips is that of one that plays. -/
theorem outputDuration (same : checked.PlaysSame other) :
    other.outputDuration = checked.outputDuration := by
  have playing := filterMap_filter_plays id checked.timeline fun _ window => window.stop
  unfold CheckedTimeline.outputDuration
  simp only [← same.span.window?]
  exact congrArg greatest ((playing other.mainClips).symm.trans
    ((congrArg _ same.mainClips.symm).trans (playing checked.mainClips)))

end CheckedTimeline.PlaysSame

theorem Timeline.LeavesOut.playsSame [Measured τ] {timeline other : Timeline τ}
    (leavesOut : timeline.LeavesOut other) {stop : τ} (ends : timeline.trimEnd = some stop)
    {checked : CheckedTimeline τ} (passed : timeline.check = .ok checked) :
    checked.PlaysSame other.sorted := by
  have timed := clips_timed passed
  cases checked_eq passed
  refine ⟨leavesOut.sameSpan ends, leavesOut.mainClips timed, ?_⟩
  change (timeline.overlayClips.map Layer.ofClip).filter _ =
    (other.overlayClips.map Layer.ofClip).filter _
  rw [List.filter_map, List.filter_map]
  exact congrArg (List.map Layer.ofClip) (leavesOut.overlayClips timed)

end Montage
