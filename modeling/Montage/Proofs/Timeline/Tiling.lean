import Montage.Proofs.Export.Sync
import Montage.Proofs.Number.Thousandths
import Montage.Proofs.Timeline.Playing

/-! Windows without gaps between them. Where every main clip starts at the end of the one before
it, the windows of those that play cover the time from the first of them to the end of the output,
each moment once, and so do the same windows in thousandths. -/

namespace Montage

/-! ## Exactly one of a list -/

section

variable {α β : Type}

def ExactlyOne (holds : α → Prop) (items : List α) : Prop :=
  ∃ before item after, items = before ++ item :: after ∧ holds item ∧
    ∀ other ∈ before ++ after, ¬ holds other

example : ExactlyOne (· < 2) [3, 1, 2] := ⟨[3], 1, [2], rfl, by decide, by decide⟩

theorem exactlyOne_map_iff {holds : β → Prop} {change : α → β} {items : List α} :
    ExactlyOne holds (items.map change) ↔ ExactlyOne (fun item => holds (change item)) items := by
  constructor
  · rintro ⟨_, _, _, split, holdsThere, holdsNowhereElse⟩
    obtain ⟨before, _, rfl, rfl, fromItem⟩ := List.map_eq_append_iff.mp split
    obtain ⟨item, after, rfl, rfl, rfl⟩ := List.map_eq_cons_iff.mp fromItem
    rw [← List.map_append, List.forall_mem_map] at holdsNowhereElse
    exact ⟨before, item, after, rfl, holdsThere, holdsNowhereElse⟩
  · rintro ⟨before, item, after, rfl, holdsThere, holdsNowhereElse⟩
    refine ⟨before.map change, change item, after.map change, by simp, holdsThere, ?_⟩
    rw [← List.map_append, List.forall_mem_map]
    exact holdsNowhereElse

end

/-! ## Windows that follow on each other -/

def endOf : (time : ℚ) → (windows : List (Window ℚ)) → ℚ
  | time, [] => time
  | _, window :: rest => endOf window.stop rest

def Window.RunsForward (window : Window ℚ) : Prop :=
  window.start ≤ window.stop

variable {windows : List (Window ℚ)} {start time : ℚ}

namespace FollowOn

theorem le_endOf (follow : FollowOn start windows)
    (forward : ∀ window ∈ windows, window.RunsForward) : start ≤ endOf start windows := by
  induction windows generalizing start with
  | nil => exact le_rfl
  | cons window rest induction =>
      obtain ⟨rfl, restFollow⟩ := follow
      have restForward := fun other member => forward other (List.mem_cons_of_mem window member)
      exact (forward window List.mem_cons_self).trans (induction restFollow restForward)

/-- No window is open before the first one starts or after the last one stops. -/
theorem within (follow : FollowOn start windows)
    (forward : ∀ window ∈ windows, window.RunsForward) {window : Window ℚ}
    (member : window ∈ windows) (covers : window.Covers time) :
    start ≤ time ∧ time < endOf start windows := by
  induction windows generalizing start with
  | nil => cases member
  | cons first rest induction =>
      obtain ⟨rfl, restFollow⟩ := follow
      have restForward := fun other member => forward other (List.mem_cons_of_mem first member)
      cases member with
      | head => exact ⟨covers.1, covers.2.trans_le (restFollow.le_endOf restForward)⟩
      | tail _ later =>
          obtain ⟨afterFirst, beforeEnd⟩ := induction restFollow restForward later
          exact ⟨(forward first List.mem_cons_self).trans afterFirst, beforeEnd⟩

theorem exactlyOne (follow : FollowOn start windows)
    (forward : ∀ window ∈ windows, window.RunsForward) (started : start ≤ time)
    (notEnded : time < endOf start windows) : ExactlyOne (·.Covers time) windows := by
  induction windows generalizing start with
  | nil => exact absurd notEnded (not_lt.mpr started)
  | cons first rest induction =>
      obtain ⟨rfl, restFollow⟩ := follow
      have restForward := fun other member => forward other (List.mem_cons_of_mem first member)
      rcases lt_or_ge time first.stop with inFirst | afterFirst
      · refine ⟨[], first, rest, rfl, ⟨started, inFirst⟩, ?_⟩
        intro other member covers
        exact not_lt.mpr (restFollow.within restForward member covers).1 inFirst
      · obtain ⟨before, window, after, rfl, covers, coversAlone⟩ :=
          induction restFollow restForward afterFirst notEnded
        refine ⟨first :: before, window, after, rfl, covers, ?_⟩
        rw [List.cons_append, List.forall_mem_cons]
        exact ⟨fun coversFirst => not_lt.mpr afterFirst coversFirst.2, coversAlone⟩

theorem foldl_later_stop (follow : FollowOn start windows)
    (forward : ∀ window ∈ windows, window.RunsForward) :
    (windows.map Window.stop).foldl Quantity.later start = endOf start windows := by
  induction windows generalizing start with
  | nil => rfl
  | cons window rest induction =>
      obtain ⟨rfl, restFollow⟩ := follow
      have restForward := fun other member => forward other (List.mem_cons_of_mem window member)
      rw [List.map_cons, List.foldl_cons, Quantity.later_eq_max,
        max_eq_right (forward window List.mem_cons_self)]
      exact induction restFollow restForward

theorem greatest_stop (follow : FollowOn start windows) (some : windows ≠ [])
    (forward : ∀ window ∈ windows, window.RunsForward) :
    greatest (windows.map Window.stop) = endOf start windows := by
  cases windows with
  | nil => exact absurd rfl some
  | cons window rest =>
      exact follow.2.foldl_later_stop fun other member =>
        forward other (List.mem_cons_of_mem window member)

end FollowOn

/-! ## Windows in thousandths -/

def Window.rounded (window : Window ℚ) : Window ℚ where
  start := nearestThousandth window.start
  stop := nearestThousandth window.stop

theorem Window.RunsForward.rounded {window : Window ℚ} (forward : window.RunsForward) :
    window.rounded.RunsForward :=
  nearestThousandth_mono forward

theorem FollowOn.rounded (follow : FollowOn start windows) :
    FollowOn (nearestThousandth start) (windows.map Window.rounded) := by
  induction windows generalizing start with
  | nil => trivial
  | cons window rest induction =>
      obtain ⟨rfl, restFollow⟩ := follow
      exact ⟨rfl, induction restFollow⟩

theorem endOf_rounded : endOf (nearestThousandth start) (windows.map Window.rounded) =
    nearestThousandth (endOf start windows) := by
  induction windows generalizing start with
  | nil => rfl
  | cons window rest induction => exact induction

/-! ## Clips that are joined -/

def AreJoined (clips : List (Clip ℚ)) : Prop :=
  clips.IsChain fun clip next => next.startTime = clip.startTime + clip.duration

variable {timeline : Timeline ℚ} {checked : CheckedTimeline ℚ}

theorem Clip.runsForward_of_window? {clip : Clip ℚ} {window : Window ℚ}
    (plays : clip.window? timeline = some window) : window.RunsForward :=
  (window?_eq_some_iff.mp plays).2.2.le

theorem forall_runsForward (clips : List (Clip ℚ)) (timeline : Timeline ℚ) :
    ∀ window ∈ clips.filterMap (·.window? timeline), window.RunsForward := by
  intro window member
  obtain ⟨clip, -, plays⟩ := List.mem_filterMap.mp member
  exact Clip.runsForward_of_window? plays

theorem FollowOn.start_eq (follow : FollowOn start windows) {other : ℚ}
    (same : windows ≠ [] → start = other) : FollowOn other windows := by
  cases windows with
  | nil => trivial
  | cons window rest => exact same (List.cons_ne_nil window rest) ▸ follow

theorem FollowOn.lt_duration {clips : List (Clip ℚ)}
    (follow : FollowOn start (clips.filterMap (·.window? timeline)))
    (some : clips.filterMap (·.window? timeline) ≠ []) : start < timeline.duration := by
  cases all : clips.filterMap (·.window? timeline) with
  | nil => exact absurd all some
  | cons first rest =>
      have firstMember : first ∈ clips.filterMap (·.window? timeline) := all ▸ List.mem_cons_self
      obtain ⟨clip, -, plays⟩ := List.mem_filterMap.mp firstMember
      obtain ⟨-, stop, notEmpty⟩ := Clip.window?_eq_some_iff.mp plays
      rw [all] at follow
      rw [← follow.1]
      exact notEmpty.trans_le (stop ▸ min_le_right _ _)

/-- A clip before the output leaves its beginning to the next clip; one that reaches its end is
followed by none that plays. -/
theorem followOn_of_areJoined {clip : Clip ℚ} {rest : List (Clip ℚ)}
    (joined : AreJoined (clip :: rest))
    (lasting : ∀ other ∈ clip :: rest, other.trimStart < other.trimEnd) :
    FollowOn (max (clip.startTime - timeline.trimStart) 0)
      ((clip :: rest).filterMap (·.window? timeline)) := by
  induction rest generalizing clip with
  | nil =>
      cases result : clip.window? timeline with
      | none => simp [result, FollowOn]
      | some window =>
          obtain ⟨start, -, -⟩ := Clip.window?_eq_some_iff.mp result
          simp [result, FollowOn, start]
  | cons next more induction =>
      obtain ⟨nextStarts, moreJoined⟩ := List.isChain_cons_cons.mp joined
      have follow := induction moreJoined fun other member =>
        lasting other (List.mem_cons_of_mem clip member)
      have short := follow.lt_duration
      have lasts := lasting clip List.mem_cons_self
      have nextLater : next.startTime - timeline.trimStart =
          clip.startTime - timeline.trimStart + (clip.trimEnd - clip.trimStart) := by
        rw [nextStarts, Clip.duration]
        ring
      have earlier : clip.startTime - timeline.trimStart < next.startTime - timeline.trimStart := by
        linarith
      rw [List.filterMap_cons]
      cases result : clip.window? timeline with
      | none =>
          apply follow.start_eq
          intro plays
          have beforeEnd := max_lt_iff.mp (short plays)
          have notLate : next.startTime - timeline.trimStart ≤ 0 := by
            by_contra late
            have notEmpty : max (clip.startTime - timeline.trimStart) 0 <
                min (next.startTime - timeline.trimStart) timeline.duration :=
              lt_min (max_lt earlier (not_le.mp late))
                (max_lt (earlier.trans beforeEnd.1) beforeEnd.2)
            have clipPlays : clip.window? timeline = some ⟨_, _⟩ :=
              Clip.window?_eq_some_iff.mpr ⟨rfl, rfl, nextLater ▸ notEmpty⟩
            cases result.symm.trans clipPlays
          rw [max_eq_right notLate, max_eq_right (earlier.le.trans notLate)]
      | some window =>
          obtain ⟨start, stop, notEmpty⟩ := Clip.window?_eq_some_iff.mp result
          refine ⟨start, follow.start_eq ?_⟩
          intro plays
          have beforeEnd := max_lt_iff.mp (short plays)
          rw [start, stop, ← nextLater] at notEmpty
          have late : 0 < next.startTime - timeline.trimStart :=
            (le_max_right _ _).trans_lt (notEmpty.trans_le (min_le_left _ _))
          rw [stop, ← nextLater, max_eq_left late.le, min_eq_left beforeEnd.1.le]

namespace Timeline

theorem cut_of_mem_mainClips (passed : timeline.check = .ok checked) :
    ∀ clip ∈ checked.mainClips, clip.trimStart < clip.trimEnd := by
  cases checked_eq passed
  intro clip member
  have timed := clips_timed passed clip (mem_mainClips.mp member).1
  exact not_le.mp (of_decide_eq_false timed.ends_later)

theorem exists_followOn_mainClips (passed : timeline.check = .ok checked)
    (joined : AreJoined checked.mainClips) :
    ∃ start, FollowOn start (checked.mainClips.filterMap (·.window? timeline)) := by
  have lasting := cut_of_mem_mainClips passed
  generalize checked.mainClips = clips at joined lasting ⊢
  cases clips with
  | nil => exact ⟨0, trivial⟩
  | cons clip rest => exact ⟨_, followOn_of_areJoined joined lasting⟩

theorem outputDuration_eq_endOf (passed : timeline.check = .ok checked)
    (follow : FollowOn start (checked.mainClips.filterMap (·.window? timeline)))
    (plays : checked.mainClips.filterMap (·.window? timeline) ≠ []) :
    checked.outputDuration =
      endOf start (checked.mainClips.filterMap (·.window? timeline)) := by
  have sameTimeline : checked.timeline = timeline := by rw [checked_eq passed]; rfl
  rw [CheckedTimeline.outputDuration, sameTimeline, ← List.map_filterMap]
  exact follow.greatest_stop plays (forall_runsForward _ _)

end Timeline

end Montage
