import Mathlib.Data.Prod.Lex
import Mathlib.Order.Bounds.Basic
import Montage.Proofs.Number.Rational
import Montage.Proofs.Timeline.Accepted

/-! Timelines with the same clips in another order. The clips are sorted before anything is
made of them, so that the given order counts only among clips that are tied. -/

namespace Montage

/-! ## Ties -/

section

variable {α κ : Type} [LinearOrder κ] {key : α → κ} {first second : List α}

theorem mem_iff_of_ties
    (ties : ∀ place, first.filter (key · = place) = second.filter (key · = place)) {item : α} :
    item ∈ first ↔ item ∈ second := by
  have tied : (item ∈ first.filter (key · = key item)) = _ := congrArg (item ∈ ·) (ties (key item))
  simpa using tied

/-- A sorted list is known when each of its ties is. -/
theorem eq_of_sorted_of_ties
    (sorted : first.Pairwise fun item later => key item ≤ key later)
    (otherSorted : second.Pairwise fun item later => key item ≤ key later)
    (ties : ∀ place, first.filter (key · = place) = second.filter (key · = place)) :
    first = second := by
  induction first generalizing second with
  | nil =>
      refine (List.eq_nil_iff_forall_not_mem.mpr fun item member => ?_).symm
      exact List.not_mem_nil ((mem_iff_of_ties ties).mpr member)
  | cons item rest induction =>
      cases second with
      | nil => exact absurd ((mem_iff_of_ties ties).mp List.mem_cons_self) List.not_mem_nil
      | cons other otherRest =>
          rcases List.pairwise_cons.mp sorted with ⟨least, restSorted⟩
          rcases List.pairwise_cons.mp otherSorted with ⟨otherLeast, otherRestSorted⟩
          have below : key item ≤ key other := by
            rcases List.mem_cons.mp ((mem_iff_of_ties ties).mpr List.mem_cons_self) with
              same | member
            · exact (congrArg key same).ge
            · exact least other member
          have above : key other ≤ key item := by
            rcases List.mem_cons.mp ((mem_iff_of_ties ties).mp List.mem_cons_self) with
              same | member
            · exact (congrArg key same).ge
            · exact otherLeast item member
          have sameKey := le_antisymm below above
          -- Both are the first of the same tie.
          have heads := ties (key item)
          rw [List.filter_cons_of_pos (by simp),
            List.filter_cons_of_pos (by simp [sameKey])] at heads
          rcases List.cons.inj heads with ⟨rfl, _⟩
          rw [induction restSorted otherRestSorted fun place => ?_]
          have tied := ties place
          simp only [List.filter_cons] at tied
          split at tied
          · exact (List.cons.inj tied).2
          · exact tied

/-- Sorting keeps the order of what is tied. -/
theorem filter_mergeSort {before : α → α → Bool}
    (transitive : ∀ a b c, before a b = true → before b c = true → before a c = true)
    (total : ∀ a b, (before a b || before b a) = true) (keep : α → Bool)
    (tied : ∀ a b, keep a = true → keep b = true → before a b = true) (items : List α) :
    (items.mergeSort before).filter keep = items.filter keep := by
  have sorted : (items.filter keep).Pairwise (before · · = true) :=
    List.pairwise_of_forall_mem_list fun a memberA b memberB =>
      tied a b (List.mem_filter.mp memberA).2 (List.mem_filter.mp memberB).2
  have sublist := List.sublist_mergeSort transitive total sorted List.filter_sublist
  have kept := sublist.filter keep
  rw [List.filter_filter] at kept
  simp only [Bool.and_self] at kept
  refine (kept.eq_of_length ?_).symm
  exact ((List.mergeSort_perm items before).filter keep).length_eq.symm

theorem mergeSort_eq_of_ties {before : α → α → Bool}
    (transitive : ∀ a b c, before a b = true → before b c = true → before a c = true)
    (total : ∀ a b, (before a b || before b a) = true)
    (tied : ∀ a b, key a = key b → before a b = true)
    (ordered : ∀ a ∈ first ++ second, ∀ b ∈ first ++ second, before a b = true → key a ≤ key b)
    (ties : ∀ place, first.filter (key · = place) = second.filter (key · = place)) :
    first.mergeSort before = second.mergeSort before := by
  have sorted {items : List α} (within : ∀ item ∈ items, item ∈ first ++ second) :
      (items.mergeSort before).Pairwise fun item later => key item ≤ key later := by
    refine (List.pairwise_mergeSort transitive total items).imp_of_mem ?_
    intro item later member laterMember
    exact ordered item (within item (List.mem_mergeSort.mp member)) later
      (within later (List.mem_mergeSort.mp laterMember))
  refine eq_of_sorted_of_ties (sorted fun _ => List.mem_append_left second)
    (sorted fun _ => List.mem_append_right first) fun place => ?_
  have sameTie (a b : α) (atPlace : decide (key a = place) = true)
      (alsoAtPlace : decide (key b = place) = true) : before a b = true :=
    tied a b ((of_decide_eq_true atPlace).trans (of_decide_eq_true alsoAtPlace).symm)
  rw [filter_mergeSort transitive total _ sameTie, filter_mergeSort transitive total _ sameTie]
  exact ties place

end

/-! ## Clips in another order -/

def Clip.place (clip : Clip ℚ) : Int ×ₗ ℚ :=
  toLex (clip.track.number, clip.startTime)

structure Timeline.Reorders (timeline other : Timeline ℚ) : Prop where
  permutes : timeline.clips.Perm other.clips
  keepsTies : ∀ (number : Int) (startTime : ℚ),
    timeline.clips.filter (fun clip => clip.track.number = number ∧ clip.startTime = startTime) =
      other.clips.filter (fun clip => clip.track.number = number ∧ clip.startTime = startTime)
  trimStart : timeline.trimStart = other.trimStart
  trimEnd : timeline.trimEnd = other.trimEnd

theorem drawnFirst_iff {clip other : Clip ℚ} :
    drawnFirst clip other = true ↔ clip.place ≤ other.place := by
  rw [Clip.place, Clip.place, Prod.Lex.toLex_le_toLex]
  simp [drawnFirst, startsFirst, Quantity.less]

theorem startsFirst_iff {clip other : Clip ℚ} :
    startsFirst clip other = true ↔ clip.startTime ≤ other.startTime := by
  simp [startsFirst, Quantity.less]

namespace Timeline.Reorders

variable {timeline other : Timeline ℚ}

theorem symm (reorders : timeline.Reorders other) : other.Reorders timeline :=
  ⟨reorders.permutes.symm, fun number startTime => (reorders.keepsTies number startTime).symm,
    reorders.trimStart.symm, reorders.trimEnd.symm⟩

theorem filter_place (reorders : timeline.Reorders other) (keep : Clip ℚ → Bool)
    (place : Int ×ₗ ℚ) :
    (timeline.clips.filter keep).filter (·.place = place) =
      (other.clips.filter keep).filter (·.place = place) := by
  have same (clip : Clip ℚ) : clip.place = place ↔
      clip.track.number = (ofLex place).1 ∧ clip.startTime = (ofLex place).2 := by
    rw [Clip.place, ← Prod.mk.injEq]
    exact Iff.rfl
  have swapped (clips : List (Clip ℚ)) : (clips.filter keep).filter (·.place = place) =
      (clips.filter fun clip => clip.track.number = (ofLex place).1 ∧
        clip.startTime = (ofLex place).2).filter keep := by
    simp only [List.filter_filter, same, Bool.and_comm]
  rw [swapped, swapped, reorders.keepsTies]

theorem mainClips (reorders : timeline.Reorders other) :
    timeline.mainClips = other.mainClips := by
  refine mergeSort_eq_of_ties ?_ ?_ ?_ ?_ (reorders.filter_place _)
  · intro clip middle last early late
    exact startsFirst_iff.mpr ((startsFirst_iff.mp early).trans (startsFirst_iff.mp late))
  · intro clip later
    simp only [Bool.or_eq_true, startsFirst_iff]
    exact le_total _ _
  · intro clip later samePlace
    have sameStart : clip.startTime = later.startTime :=
      congrArg (fun place => (ofLex place).2) samePlace
    exact startsFirst_iff.mpr sameStart.le
  · intro clip member later laterMember starts
    have main {clip : Clip ℚ} (member : clip ∈ timeline.clips.filter (·.track.isMain) ++
        other.clips.filter (·.track.isMain)) : clip.track.number = 0 := by
      simp only [List.mem_append, List.mem_filter, Track.isMain, beq_iff_eq] at member
      exact member.elim And.right And.right
    rw [Clip.place, Clip.place, Prod.Lex.toLex_le_toLex]
    exact .inr ⟨(main member).trans (main laterMember).symm, startsFirst_iff.mp starts⟩

theorem overlayClips (reorders : timeline.Reorders other) :
    timeline.overlayClips = other.overlayClips := by
  refine mergeSort_eq_of_ties ?_ ?_ ?_ ?_ (reorders.filter_place _)
  · intro clip middle last early late
    exact drawnFirst_iff.mpr ((drawnFirst_iff.mp early).trans (drawnFirst_iff.mp late))
  · intro clip later
    simp only [Bool.or_eq_true, drawnFirst_iff]
    exact le_total _ _
  · intro clip later samePlace
    exact drawnFirst_iff.mpr samePlace.le
  · intro clip member later laterMember
    exact drawnFirst_iff.mp

end Timeline.Reorders

/-! ## The end of the timeline -/

theorem Quantity.later_eq_max (first second : ℚ) : later first second = max first second := by
  unfold later
  split
  · rename_i above
    exact (max_eq_right (of_decide_eq_true above).le).symm
  · rename_i notAbove
    exact (max_eq_left (not_lt.mp fun above => notAbove (decide_eq_true above))).symm

theorem isGreatest_foldl_later (first : ℚ) (rest : List ℚ) :
    IsGreatest {time | time ∈ first :: rest} (rest.foldl Quantity.later first) := by
  induction rest generalizing first with
  | nil => exact ⟨List.mem_cons_self, fun time member => (List.mem_singleton.mp member).le⟩
  | cons second rest induction =>
      rcases induction (Quantity.later first second) with ⟨member, above⟩
      rw [List.foldl_cons]
      generalize rest.foldl Quantity.later (Quantity.later first second) = latest at member above ⊢
      have afterBoth : max first second ≤ latest := by
        rw [← Quantity.later_eq_max]
        exact above List.mem_cons_self
      refine ⟨?_, fun time timeMember => ?_⟩
      · rcases List.mem_cons.mp member with isLater | inRest
        · rw [Quantity.later_eq_max] at isLater
          rcases max_choice first second with same | same
          · exact List.mem_cons.mpr (.inl (isLater.trans same))
          · exact List.mem_cons_of_mem _ (List.mem_cons.mpr (.inl (isLater.trans same)))
        · exact List.mem_cons_of_mem _ (List.mem_cons_of_mem _ inRest)
      · rcases List.mem_cons.mp timeMember with rfl | later
        · exact (le_max_left _ _).trans afterBoth
        · rcases List.mem_cons.mp later with rfl | inRest
          · exact (le_max_right _ _).trans afterBoth
          · exact above (List.mem_cons_of_mem _ inRest)

theorem Timeline.Reorders.resolvedEnd {timeline other : Timeline ℚ}
    (reorders : timeline.Reorders other) : timeline.resolvedEnd = other.resolvedEnd := by
  have ends := reorders.permutes.map Clip.endTime
  unfold Timeline.resolvedEnd
  rw [reorders.trimEnd, reorders.trimStart]
  generalize timeline.clips.map Clip.endTime = times, other.clips.map Clip.endTime = otherTimes
    at ends
  cases other.trimEnd with
  | some trimEnd => rfl
  | none =>
      match times, otherTimes with
      | [], [] => rfl
      | [], _ :: _ => exact absurd ends.length_eq (by simp)
      | _ :: _, [] => exact absurd ends.length_eq (by simp)
      | first :: rest, otherFirst :: otherRest =>
          have greatest := isGreatest_foldl_later first rest
          simp only [ends.mem_iff] at greatest
          exact greatest.unique (isGreatest_foldl_later otherFirst otherRest)

/-! ## Checks -/

variable {τ : Type}

theorem require_eq_ok_iff {holds : Bool} {violation : Violation τ} {done : Unit} :
    require holds violation = .ok done ↔ holds = true := by
  refine ⟨holds_of_require, ?_⟩
  rintro rfl
  rfl

variable [Quantity τ]

/-- Whether an overlay passes does not depend on the place of its clip in the timeline. -/
theorem Overlay.check_eq_ok_iff {overlay : Overlay τ} (index other : Nat) :
    overlay.check index = .ok () ↔ overlay.check other = .ok () := by
  simp only [check, bind_eq_ok_iff, require_eq_ok_iff]

theorem Clip.check_eq_ok_iff {clip : Clip τ} (index other : Nat) {done : Unit} :
    clip.check index = .ok done ↔ clip.check other = .ok () := by
  simp only [check, bind_eq_ok_iff, require_eq_ok_iff]
  cases clip.overlay with
  | none => exact Iff.rfl
  | some overlay => rw [Overlay.check_eq_ok_iff index other]

theorem checkClips_eq_ok_iff {clips : List (Clip τ)} {index : Nat} {done : Unit} :
    checkClips clips index = .ok done ↔ ∀ clip ∈ clips, clip.check 0 = .ok () := by
  induction clips generalizing index with
  | nil => exact ⟨fun _ => nofun, fun _ => rfl⟩
  | cons clip rest induction =>
      simp only [checkClips, bind_eq_ok_iff, induction, List.forall_mem_cons,
        Clip.check_eq_ok_iff index 0, exists_const]

theorem Timeline.check_eq_ok_iff {timeline : Timeline τ} {checked : CheckedTimeline τ} :
    timeline.check = .ok checked ↔
      timeline.clips ≠ [] ∧ (∀ clip ∈ timeline.clips, clip.check 0 = .ok ()) ∧
      timeline.checkTrim = .ok () ∧ (∃ clip ∈ timeline.clips, clip.track.isMain = true) ∧
      checked = timeline.sorted := by
  simp only [check, bind_eq_ok_iff, require_eq_ok_iff, checkClips_eq_ok_iff, exists_const,
    Bool.not_eq_true', List.isEmpty_eq_false_iff, List.any_eq_true]
  refine and_congr_right fun _ => and_congr_right fun _ => ?_
  constructor
  · rintro ⟨⟨⟩, trimPassed, main, given⟩
    exact ⟨trimPassed, main, (Except.ok.inj given).symm⟩
  · rintro ⟨trimPassed, main, rfl⟩
    exact ⟨(), trimPassed, main, rfl⟩

namespace Timeline.Reorders

variable {timeline other : Timeline ℚ}

theorem checkTrim (reorders : timeline.Reorders other) :
    timeline.checkTrim = other.checkTrim := by
  unfold Timeline.checkTrim
  rw [reorders.trimStart, reorders.trimEnd, reorders.resolvedEnd]

theorem check_of_check (reorders : timeline.Reorders other) {checked : CheckedTimeline ℚ}
    (passed : timeline.check = .ok checked) : other.check = .ok other.sorted := by
  rcases check_eq_ok_iff.mp passed with ⟨some, clips, trim, main, _⟩
  refine check_eq_ok_iff.mpr ⟨?_, ?_, reorders.checkTrim ▸ trim, ?_, rfl⟩
  · exact fun none => some (List.perm_nil.mp (none ▸ reorders.permutes))
  · exact fun clip member => clips clip (reorders.permutes.mem_iff.mpr member)
  · rcases main with ⟨clip, member, isMain⟩
    exact ⟨clip, reorders.permutes.mem_iff.mp member, isMain⟩

/-- The clips of both are heard and drawn in the same order. -/
theorem sorted (reorders : timeline.Reorders other) :
    timeline.sorted.mainClips = other.sorted.mainClips ∧
      timeline.sorted.layers = other.sorted.layers :=
  ⟨reorders.mainClips, congrArg (List.map Layer.ofClip) reorders.overlayClips⟩

end Timeline.Reorders

end Montage
