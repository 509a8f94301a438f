import Montage.Proofs.Timeline.Reordering
import Montage.Proofs.Timeline.Times

/-! When a clip plays, and which part of its source. With exact times its window is where the
output and the clip overlap, and every moment in it shows the moment of the source that lies as far
from the beginning of the clip. -/

namespace Montage

/-- The output is running at a time, and so is a clip where it lies on the timeline. -/
def Clip.PlaysAt (clip : Clip ℚ) (timeline : Timeline ℚ) (time : ℚ) : Prop :=
  (0 ≤ time ∧ time < timeline.duration) ∧
    clip.startTime ≤ time + timeline.trimStart ∧
    time + timeline.trimStart < clip.startTime + (clip.trimEnd - clip.trimStart)

def Window.Covers (window : Window ℚ) (time : ℚ) : Prop :=
  window.start ≤ time ∧ time < window.stop

/-- The part of a source that plays in a window is as long as the window and within what the clip
is cut to. At every time of the window it shows what the clip shows then on the timeline. -/
structure SourcePart.Fills (part : SourcePart ℚ) (clip : Clip ℚ) (timeline : Timeline ℚ)
    (window : Window ℚ) : Prop where
  duration : part.duration = window.stop - window.start
  start : clip.trimStart ≤ part.start
  stop : part.start + part.duration ≤ clip.trimEnd
  shows : ∀ time, window.Covers time → part.start + (time - window.start) =
    clip.trimStart + (time + timeline.trimStart - clip.startTime)

structure Clip.HasExactWindow (clip : Clip ℚ) (timeline : Timeline ℚ) : Prop where
  covers : ∀ time, (∃ window, clip.window? timeline = some window ∧ window.Covers time) ↔
    clip.PlaysAt timeline time
  none_iff : clip.window? timeline = none ↔ ∀ time, ¬ clip.PlaysAt timeline time
  partless : clip.window? timeline = none ↔ (clip.sourcePart timeline).duration = 0
  fills : ∀ window, clip.window? timeline = some window →
    (clip.sourcePart timeline).Fills clip timeline window

/-! ## Windows -/

theorem Quantity.earlier_eq_min (first second : ℚ) : earlier first second = min first second := by
  unfold earlier
  split
  · rename_i below
    exact (min_eq_right (of_decide_eq_true below).le).symm
  · rename_i notBelow
    exact (min_eq_left (not_lt.mp fun below => notBelow (decide_eq_true below))).symm

variable {clip : Clip ℚ} {timeline : Timeline ℚ} {checked : CheckedTimeline ℚ}
  {window : Window ℚ}

namespace Clip

theorem window?_eq_some_iff : clip.window? timeline = some window ↔
    window.start = max (clip.startTime - timeline.trimStart) 0 ∧
      window.stop = min (clip.startTime - timeline.trimStart + (clip.trimEnd - clip.trimStart))
        timeline.duration ∧
      window.start < window.stop := by
  simp only [window?, Quantity.later_eq_max, Quantity.earlier_eq_min, rational_zero, outputStart,
    duration]
  obtain ⟨start, stop⟩ := window
  split
  · rename_i empty
    have notAfter := of_decide_eq_true empty
    simp only [reduceCtorEq, false_iff, not_and, not_lt]
    rintro rfl rfl
    exact notAfter
  · rename_i notEmpty
    have after : max (clip.startTime - timeline.trimStart) 0 <
        min (clip.startTime - timeline.trimStart + (clip.trimEnd - clip.trimStart))
          timeline.duration := not_le.mp fun empty => notEmpty (decide_eq_true empty)
    simp only [Option.some.injEq, Window.mk.injEq]
    constructor
    · rintro ⟨rfl, rfl⟩
      exact ⟨rfl, rfl, after⟩
    · rintro ⟨rfl, rfl, -⟩
      exact ⟨rfl, rfl⟩

theorem covers_iff (plays : clip.window? timeline = some window) (time : ℚ) :
    window.Covers time ↔ clip.PlaysAt timeline time := by
  obtain ⟨start, stop, -⟩ := window?_eq_some_iff.mp plays
  rw [Window.Covers, start, stop, max_le_iff, lt_min_iff, sub_le_iff_le_add, PlaysAt]
  constructor
  · rintro ⟨⟨started, fromZero⟩, notEnded, inOutput⟩
    exact ⟨⟨fromZero, inOutput⟩, started, by linarith⟩
  · rintro ⟨⟨fromZero, inOutput⟩, started, notEnded⟩
    exact ⟨⟨started, fromZero⟩, by linarith, inOutput⟩

/-- At a time at which the output and a clip overlap, the clip has a window. -/
theorem not_playsAt_of_window?_eq_none (silent : clip.window? timeline = none) (time : ℚ) :
    ¬ clip.PlaysAt timeline time := by
  rintro ⟨⟨fromZero, inOutput⟩, started, notEnded⟩
  let start := max (clip.startTime - timeline.trimStart) 0
  let stop := min (clip.startTime - timeline.trimStart + (clip.trimEnd - clip.trimStart))
    timeline.duration
  have startsBy : start ≤ time := max_le (by linarith) fromZero
  have stopsAfter : time < stop := lt_min (by linarith) inOutput
  have plays : clip.window? timeline = some ⟨start, stop⟩ :=
    window?_eq_some_iff.mpr ⟨rfl, rfl, startsBy.trans_lt stopsAfter⟩
  cases silent.symm.trans plays

theorem fills_sourcePart (plays : clip.window? timeline = some window) :
    (clip.sourcePart timeline).Fills clip timeline window := by
  obtain ⟨start, stop, -⟩ := window?_eq_some_iff.mp plays
  have part : clip.sourcePart timeline =
      ⟨clip.trimStart + (window.start - (clip.startTime - timeline.trimStart)),
        window.stop - window.start⟩ := by
    rw [sourcePart, plays]
    rfl
  have notBefore : clip.startTime - timeline.trimStart ≤ window.start := start ▸ le_max_left _ _
  have notAfter : window.stop ≤
      clip.startTime - timeline.trimStart + (clip.trimEnd - clip.trimStart) :=
    stop ▸ min_le_left _ _
  rw [part]
  constructor
  · rfl
  · exact le_add_of_nonneg_right (sub_nonneg.mpr notBefore)
  · change _ + (window.stop - window.start) ≤ _
    linarith
  · intro time _
    ring

theorem hasExactWindow (clip : Clip ℚ) (timeline : Timeline ℚ) :
    clip.HasExactWindow timeline := by
  cases result : clip.window? timeline with
  | none =>
      have silent := not_playsAt_of_window?_eq_none result
      have part : (clip.sourcePart timeline).duration = 0 := by
        rw [sourcePart, result]
        exact rational_zero
      constructor
      · intro time
        exact iff_of_false (by simp [result]) (silent time)
      · exact iff_of_true result silent
      · exact iff_of_true result part
      · simp [result]
  | some window =>
      have fills := fills_sourcePart result
      obtain ⟨-, -, notEmpty⟩ := window?_eq_some_iff.mp result
      have plays : clip.PlaysAt timeline window.start :=
        (covers_iff result _).mp ⟨le_rfl, notEmpty⟩
      constructor
      · intro time
        simpa [result] using covers_iff result time
      · exact iff_of_false (by simp [result]) fun silent => silent _ plays
      · apply iff_of_false (by simp [result])
        rw [fills.duration]
        exact (sub_pos.mpr notEmpty).ne'
      · intro other plays
        rw [← Option.some.inj (result.symm.trans plays)]
        exact fills

end Clip

/-! ## The output -/

def Timeline.Suffices (timeline : Timeline ℚ) (length : ℚ) : Prop :=
  0 ≤ length ∧ ∀ clip ∈ timeline.clips, clip.track.number = 0 →
    ∀ window, clip.window? timeline = some window → window.stop ≤ length

theorem isLeast_greatest {times : List ℚ} (nonneg : ∀ time ∈ times, 0 ≤ time) :
    IsLeast {length | 0 ≤ length ∧ ∀ time ∈ times, time ≤ length} (greatest times) := by
  cases times with
  | nil =>
      have none : greatest ([] : List ℚ) = 0 := rational_zero
      rw [none]
      exact ⟨⟨le_rfl, nofun⟩, fun _ long => long.1⟩
  | cons first rest =>
      obtain ⟨member, above⟩ := isGreatest_foldl_later first rest
      constructor
      · exact ⟨nonneg _ member, fun _ timeMember => above timeMember⟩
      · exact fun length long => long.2 _ member

namespace Timeline

theorem mem_stops_mainClips {time : ℚ} :
    time ∈ timeline.mainClips.filterMap (fun clip =>
      (clip.window? timeline).map Window.stop) ↔
        ∃ clip ∈ timeline.clips, clip.track.number = 0 ∧
          ∃ window, clip.window? timeline = some window ∧ window.stop = time := by
  simp [mem_mainClips, Track.isMain, and_assoc]

theorem isLeast_outputDuration (passed : timeline.check = .ok checked) :
    IsLeast {length | timeline.Suffices length} checked.outputDuration := by
  have nonneg : ∀ time ∈ timeline.mainClips.filterMap (fun clip =>
      (clip.window? timeline).map Window.stop), 0 ≤ time := by
    intro time member
    obtain ⟨clip, -, -, window, plays, rfl⟩ := mem_stops_mainClips.mp member
    obtain ⟨start, -, notEmpty⟩ := Clip.window?_eq_some_iff.mp plays
    exact (start ▸ le_max_right _ _).trans notEmpty.le
  cases checked_eq passed
  obtain ⟨⟨fromZero, above⟩, least⟩ := isLeast_greatest nonneg
  constructor
  · refine ⟨fromZero, ?_⟩
    intro clip member main window plays
    exact above _ (mem_stops_mainClips.mpr ⟨clip, member, main, window, plays, rfl⟩)
  · intro length long
    apply least
    refine ⟨long.1, ?_⟩
    intro time member
    obtain ⟨clip, clipMember, main, window, plays, rfl⟩ := mem_stops_mainClips.mp member
    exact long.2 clip clipMember main window plays

/-- Every clip of an accepted timeline plays exactly where it overlaps the output, and the output
is just as long as the clips of the main track need. -/
theorem windows_exact (passed : timeline.check = .ok checked) :
    (∀ clip ∈ timeline.clips, clip.HasExactWindow timeline) ∧
      IsLeast {length | timeline.Suffices length} checked.outputDuration :=
  ⟨fun clip _ => clip.hasExactWindow timeline, isLeast_outputDuration passed⟩

def overhanging : Timeline ℚ where
  clips := [
    { Clip.ofTrim "long.mp4" 2 7 with startTime := -1 },
    { Clip.ofTrim "late.mp4" 0 2 with startTime := 4 }]
  trimStart := 1
  trimEnd := some 3

theorem overhanging_windows :
    overhanging.check = .ok overhanging.sorted ∧
      (∀ clip ∈ overhanging.clips, clip.HasExactWindow overhanging) ∧
      IsLeast {length | overhanging.Suffices length} overhanging.sorted.outputDuration := by
  have passed : overhanging.check = .ok overhanging.sorted :=
    check_eq_of_isSome (by decide +kernel)
  exact ⟨passed, windows_exact passed⟩

end Timeline

end Montage
