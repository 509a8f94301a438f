import Montage.Proofs.Number.Seconds
import Montage.Proofs.Timeline.Accepted
import Montage.Proofs.Timeline.Window

/-! The times of an accepted timeline. Wherever its clips are placed and however it is trimmed,
the window of a clip that plays, its length and the place in the source are times from zero on. -/

namespace Montage

section

variable {τ : Type} [Quantity τ]

structure Clip.IsTimed (clip : Clip τ) : Prop where
  trimStart_finite : Quantity.isFinite clip.trimStart = true
  trimEnd_finite : Quantity.isFinite clip.trimEnd = true
  startTime_finite : Quantity.isFinite clip.startTime = true
  not_negative : Quantity.less clip.trimStart 0.0 = false
  ends_later : Quantity.atMost clip.trimEnd clip.trimStart = false

theorem Clip.isTimed_of_check {clip : Clip τ} {index : Nat} (passed : clip.check index = .ok ()) :
    clip.IsTimed := by
  rcases exists_of_bind_ok passed with ⟨_, trimStart, passed⟩
  rcases exists_of_bind_ok passed with ⟨_, trimEnd, passed⟩
  rcases exists_of_bind_ok passed with ⟨_, startTime, passed⟩
  rcases exists_of_bind_ok passed with ⟨_, ordered, _⟩
  have inOrder := holds_of_require ordered
  simp only [Bool.not_eq_true', Bool.or_eq_false_iff] at inOrder
  exact ⟨holds_of_require trimStart, holds_of_require trimEnd, holds_of_require startTime,
    inOrder.1, inOrder.2⟩

namespace Timeline

variable {timeline : Timeline τ} {checked : CheckedTimeline τ}

theorem clips_timed (passed : timeline.check = .ok checked) :
    ∀ clip ∈ timeline.clips, clip.IsTimed := by
  intro clip member
  rcases exists_of_bind_ok passed with ⟨_, _, passed⟩
  rcases exists_of_bind_ok passed with ⟨_, clipsPassed, _⟩
  rcases clip_passes_of_checkClips clipsPassed clip member with ⟨place, clipPassed⟩
  exact Clip.isTimed_of_check clipPassed

theorem trim_finite (passed : timeline.check = .ok checked) :
    Quantity.isFinite timeline.trimStart = true ∧
      ∀ trimEnd, timeline.trimEnd = some trimEnd → Quantity.isFinite trimEnd = true := by
  rcases exists_of_bind_ok passed with ⟨_, _, passed⟩
  rcases exists_of_bind_ok passed with ⟨_, _, passed⟩
  rcases exists_of_bind_ok passed with ⟨_, trimPassed, _⟩
  rcases exists_of_bind_ok trimPassed with ⟨_, start, trimPassed⟩
  refine ⟨holds_of_require start, ?_⟩
  intro trimEnd given
  rw [given] at trimPassed
  rcases exists_of_bind_ok trimPassed with ⟨_, stop, _⟩
  exact holds_of_require stop

end Timeline

theorem foldl_later_mem (first : τ) (rest : List τ) :
    rest.foldl Quantity.later first ∈ first :: rest := by
  induction rest generalizing first with
  | nil => exact List.mem_cons_self
  | cons second rest induction =>
      rcases List.mem_cons.mp (induction (Quantity.later first second)) with same | later
      · rw [List.foldl_cons, same]
        unfold Quantity.later
        split
        · exact List.mem_cons_of_mem _ List.mem_cons_self
        · exact List.mem_cons_self
      · exact List.mem_cons_of_mem _ (List.mem_cons_of_mem _ later)

theorem earlier_eq_or (first second : τ) :
    Quantity.earlier first second = first ∨ Quantity.earlier first second = second := by
  unfold Quantity.earlier
  split
  · exact .inr rfl
  · exact .inl rfl

theorem Clip.eq_of_window? {clip : Clip τ} {timeline : Timeline τ} {window : Window τ}
    (plays : clip.window? timeline = some window) :
    window.start = Quantity.later (clip.outputStart timeline) 0.0 ∧
      window.stop =
        Quantity.earlier (clip.outputStart timeline + clip.duration) timeline.duration := by
  simp only [window?] at plays
  split at plays
  · cases plays
  · cases plays
    exact ⟨rfl, rfl⟩

end

open Double

variable {clip : Clip Float} {timeline : Timeline Float} {checked : CheckedTimeline Float}
  {window : Window Float}

theorem Clip.IsTimed.isFinite_duration (timed : clip.IsTimed) : clip.duration.isFinite = true :=
  isFinite_sub_of_reachesZero timed.trimEnd_finite timed.trimStart_finite
    (reachesZero_of_not_lt (isDefined_of_isFinite timed.trimStart_finite)
      (of_decide_eq_false timed.not_negative))
    (of_decide_eq_false timed.ends_later)

theorem Clip.IsTimed.isDefined_endTime (timed : clip.IsTimed) : IsDefined clip.endTime :=
  isDefined_add (isDefined_of_isFinite timed.startTime_finite) timed.isFinite_duration

namespace Timeline

theorem isDefined_resolvedEnd (passed : timeline.check = .ok checked) :
    IsDefined timeline.resolvedEnd := by
  unfold resolvedEnd
  cases given : timeline.trimEnd with
  | some trimEnd => exact isDefined_of_isFinite ((trim_finite passed).2 trimEnd given)
  | none =>
      have ends : ∀ time ∈ timeline.clips.map Clip.endTime, IsDefined time := by
        intro time member
        rcases List.mem_map.mp member with ⟨clip, clipMember, rfl⟩
        exact (clips_timed passed clip clipMember).isDefined_endTime
      dsimp only
      generalize timeline.clips.map Clip.endTime = times at ends ⊢
      cases times with
      | nil => exact isDefined_of_isFinite (trim_finite passed).1
      | cons first rest => exact ends _ (foldl_later_mem first rest)

theorem isDefined_duration (passed : timeline.check = .ok checked) : IsDefined timeline.duration :=
  isDefined_sub (isDefined_resolvedEnd passed) (trim_finite passed).1

end Timeline

namespace Clip

theorem isDefined_outputStart (timed : clip.IsTimed) (passed : timeline.check = .ok checked) :
    IsDefined (clip.outputStart timeline) :=
  isDefined_sub (isDefined_of_isFinite timed.startTime_finite) (Timeline.trim_finite passed).1

theorem isDefined_stop (timed : clip.IsTimed) (passed : timeline.check = .ok checked)
    (plays : clip.window? timeline = some window) : IsDefined window.stop := by
  rw [(eq_of_window? plays).2]
  rcases earlier_eq_or (clip.outputStart timeline + clip.duration) timeline.duration with
    same | same
  · rw [same]
    exact isDefined_add (isDefined_outputStart timed passed) timed.isFinite_duration
  · rw [same]
    exact Timeline.isDefined_duration passed

/-- A clip that begins before the output is cut at its head; any other begins where it is. -/
theorem start_cases (plays : clip.window? timeline = some window) :
    (clip.outputStart timeline < 0.0 ∧ window.start = 0.0) ∨
      (¬ clip.outputStart timeline < 0.0 ∧ window.start = clip.outputStart timeline) := by
  rw [(eq_of_window? plays).1, Quantity.later]
  by_cases early : clip.outputStart timeline < 0.0
  · exact .inl ⟨early, if_pos (decide_eq_true early)⟩
  · exact .inr ⟨early, if_neg (by simpa [Quantity.less] using early)⟩

structure HasTimes (clip : Clip Float) (timeline : Timeline Float) (window : Window Float) :
    Prop where
  start : ReachesZero window.start
  stop : ReachesZero window.stop
  seek : ReachesZero (clip.sourcePart timeline).start
  duration : ReachesZero (clip.sourcePart timeline).duration

theorem hasTimes (passed : timeline.check = .ok checked) (member : clip ∈ timeline.clips)
    (plays : clip.window? timeline = some window) : clip.HasTimes timeline window := by
  have timed := Timeline.clips_timed passed clip member
  have greater : ¬ window.stop ≤ window.start := of_decide_eq_false (window_not_empty plays)
  have startReaches : ReachesZero window.start := by
    rcases start_cases plays with ⟨_, isZero⟩ | ⟨notBelow, isStart⟩
    · rw [isZero]
      exact reachesZero_zero
    · rw [isStart]
      exact reachesZero_of_not_lt (isDefined_outputStart timed passed) notBelow
  have stopDefined := isDefined_stop timed passed plays
  rcases reachesZero_and_isFinite stopDefined startReaches greater with
    ⟨stopReaches, startFinite⟩
  have trimReaches : ReachesZero clip.trimStart :=
    reachesZero_of_not_lt (isDefined_of_isFinite timed.trimStart_finite)
      (of_decide_eq_false timed.not_negative)
  have cutReaches : ReachesZero (window.start - clip.outputStart timeline) := by
    rcases start_cases plays with ⟨below, isZero⟩ | ⟨_, isStart⟩
    · rw [isZero]
      exact reachesZero_zero_sub below
    · rw [← isStart]
      exact reachesZero_sub_self startFinite
  refine ⟨startReaches, stopReaches, ?_, ?_⟩
  · simp only [sourcePart, plays]
    exact trimReaches.add cutReaches
  · simp only [sourcePart, plays]
    exact reachesZero_sub stopDefined startFinite greater

end Clip

/-- The output is as long as one of the windows of its main clips, if it has any. -/
theorem Timeline.reachesZero_outputDuration (passed : timeline.check = .ok checked) :
    ReachesZero checked.outputDuration := by
  rw [Timeline.checked_eq passed, CheckedTimeline.outputDuration]
  have stops : ∀ time ∈ timeline.mainClips.filterMap fun clip =>
      (clip.window? timeline).map Window.stop, ReachesZero time := by
    intro time member
    rcases List.mem_filterMap.mp member with ⟨clip, clipMember, isStop⟩
    rcases Option.map_eq_some_iff.mp isStop with ⟨window, plays, rfl⟩
    exact (Clip.hasTimes passed (mem_mainClips.mp clipMember).1 plays).stop
  dsimp only [Timeline.sorted]
  generalize timeline.mainClips.filterMap (fun clip =>
    (clip.window? timeline).map Window.stop) = times at stops ⊢
  cases times with
  | nil => exact reachesZero_zero
  | cons first rest => exact stops _ (foldl_later_mem first rest)

end Montage
