import Montage.Proofs.Number.Amount
import Montage.Proofs.Timeline.Decided
import Montage.Proofs.Timeline.Reordering
import Montage.Proofs.Timeline.Times

/-! Well-formed timelines. A check accepts these and no others; of any other timeline it finds
the first requirement that does not hold: clip by clip, then the global trim, then the main
track. -/

namespace Montage

/-! ## Enforcing requirements -/

structure Requirement (τ : Type) where
  holds : Prop
  violation : Violation τ

section

variable {τ : Type}

def IsFirstViolated (requirements : List (Requirement τ)) (violation : Violation τ) : Prop :=
  ∃ before requirement after, requirements = before ++ requirement :: after ∧
    (∀ earlier ∈ before, earlier.holds) ∧ ¬ requirement.holds ∧ requirement.violation = violation

inductive Enforces {α : Type} (requirements : List (Requirement τ))
    (result : Except (Violation τ) α) : Prop where
  | passes (value : α) (passed : result = .ok value)
      (hold : ∀ requirement ∈ requirements, requirement.holds)
  | finds (violation : Violation τ) (found : result = .error violation)
      (first : IsFirstViolated requirements violation)

namespace Enforces

variable {α β : Type} {requirement : Requirement τ} {requirements : List (Requirement τ)}

theorem nothing (value : α) : Enforces [] (.ok value : Except (Violation τ) α) :=
  .passes value rfl (by simp)

theorem require {holds : Bool} (same : holds = true ↔ requirement.holds) :
    Enforces [requirement] (Montage.require holds requirement.violation) := by
  cases holds with
  | true => exact .passes () rfl fun only member => List.mem_singleton.mp member ▸ same.mp rfl
  | false =>
      apply finds requirement.violation rfl
      exact ⟨[], requirement, [], rfl, by simp, fun met => Bool.false_ne_true (same.mpr met), rfl⟩

/-- The second check may rely on what the first one has enforced. -/
theorem bind {first : Except (Violation τ) α} {next : α → Except (Violation τ) β}
    {early late : List (Requirement τ)} (enforces : Enforces early first)
    (goesOn : ∀ value, (∀ requirement ∈ early, requirement.holds) → Enforces late (next value)) :
    Enforces (early ++ late) (first >>= next) := by
  cases enforces with
  | finds violation found isFirst =>
      obtain ⟨before, requirement, after, rfl, hold, isViolated, same⟩ := isFirst
      apply finds violation (by rw [found]; rfl)
      exact ⟨before, requirement, after ++ late, by simp, hold, isViolated, same⟩
  | passes value passed hold =>
      have nextRuns : (first >>= next) = next value := by rw [passed]; rfl
      cases goesOn value hold with
      | passes last latePassed lateHold =>
          apply passes last (nextRuns.trans latePassed)
          intro requirement member
          exact (List.mem_append.mp member).elim (hold requirement) (lateHold requirement)
      | finds violation found isFirst =>
          obtain ⟨before, requirement, after, rfl, lateHold, isViolated, same⟩ := isFirst
          apply finds violation (nextRuns.trans found)
          refine ⟨early ++ before, requirement, after, by simp, ?_, isViolated, same⟩
          intro earlier member
          exact (List.mem_append.mp member).elim (hold earlier) (lateHold earlier)

theorem cons {holds : Bool} {next : Unit → Except (Violation τ) β}
    (same : holds = true ↔ requirement.holds)
    (goesOn : requirement.holds → Enforces requirements (next ())) :
    Enforces (requirement :: requirements)
      (Montage.require holds requirement.violation >>= next) :=
  (require same).bind fun _ hold => goesOn (hold requirement List.mem_cons_self)

variable {result : Except (Violation τ) α}

theorem exists_ok_iff (enforces : Enforces requirements result) :
    (∃ value, result = .ok value) ↔ ∀ requirement ∈ requirements, requirement.holds := by
  cases enforces with
  | passes value passed hold => exact iff_of_true ⟨value, passed⟩ hold
  | finds violation found isFirst =>
      obtain ⟨before, requirement, after, rfl, -, isViolated, -⟩ := isFirst
      apply iff_of_false (by simp [found])
      intro hold
      exact isViolated (hold requirement (List.mem_append_right before List.mem_cons_self))

theorem exists_error (enforces : Enforces requirements result)
    (fails : ¬ ∀ requirement ∈ requirements, requirement.holds) :
    ∃ violation, result = .error violation ∧ IsFirstViolated requirements violation := by
  cases enforces with
  | passes value passed hold => exact absurd hold fails
  | finds violation found isFirst => exact ⟨violation, found, isFirst⟩

end Enforces

end

/-! ## What is required -/

variable {τ : Type} [Quantity τ] [Measured τ]

def IsFinite (quantity : τ) : Prop :=
  ∃ value, amount quantity = .number value

structure Overlay.IsWellFormed (overlay : Overlay τ) : Prop where
  opacity : ∃ opacity, amount overlay.opacity = .number opacity ∧ 0 ≤ opacity ∧ opacity ≤ 1
  size : ∃ width height, overlay.size = pairOf width height ∧ 0 < width ∧ 0 < height
  blendMode : overlay.blendMode ∈ ["normal", "multiply", "screen", "overlay"]

def Clip.IsCut (clip : Clip τ) : Prop :=
  ∃ trimStart trimEnd, amount clip.trimStart = .number trimStart ∧
    amount clip.trimEnd = .number trimEnd ∧ 0 ≤ trimStart ∧ trimStart < trimEnd

structure Clip.IsWellFormed (clip : Clip τ) : Prop where
  cut : clip.IsCut
  startTime : IsFinite clip.startTime
  track : 0 ≤ clip.track.number
  overlay : ∀ overlay, clip.overlay = some overlay → overlay.IsWellFormed

def Clip.StopsAt (clip : Clip τ) (time : ℚ) : Prop :=
  ∃ startTime trimStart trimEnd, amount clip.startTime = .number startTime ∧
    amount clip.trimStart = .number trimStart ∧ amount clip.trimEnd = .number trimEnd ∧
    time = startTime + trimEnd - trimStart

def Timeline.EndsAt (timeline : Timeline τ) (time : ℚ) : Prop :=
  match timeline.trimEnd with
  | some trimEnd => amount trimEnd = .number time
  | none => IsGreatest {stop | ∃ clip ∈ timeline.clips, clip.StopsAt stop} time

def Timeline.IsTrimmed (timeline : Timeline τ) : Prop :=
  ∃ start stop, amount timeline.trimStart = .number start ∧ timeline.EndsAt stop ∧ start < stop

structure Timeline.IsWellFormed (timeline : Timeline τ) : Prop where
  notEmpty : timeline.clips ≠ []
  clips : ∀ clip ∈ timeline.clips, clip.IsWellFormed
  trimStart : IsFinite timeline.trimStart
  trimEnd : ∀ trimEnd, timeline.trimEnd = some trimEnd → IsFinite trimEnd
  trimmed : timeline.IsTrimmed
  main : ∃ clip ∈ timeline.clips, clip.track.number = 0

/-! ## In which order -/

def Overlay.requirements (overlay : Overlay τ) (index : Nat) : List (Requirement τ) := [
  ⟨∃ opacity, amount overlay.opacity = .number opacity ∧ 0 ≤ opacity ∧ opacity ≤ 1,
    .opacity index overlay.opacity⟩,
  ⟨∃ width height, overlay.size = pairOf width height ∧ 0 < width ∧ 0 < height,
    .sizeNotPositive index overlay.size⟩,
  ⟨overlay.blendMode ∈ ["normal", "multiply", "screen", "overlay"],
    .blendMode index overlay.blendMode⟩]

def Clip.requirements (clip : Clip τ) (index : Nat) : List (Requirement τ) := [
  ⟨IsFinite clip.trimStart, .clipTimeNotFinite index clip.source "trim_start" clip.trimStart⟩,
  ⟨IsFinite clip.trimEnd, .clipTimeNotFinite index clip.source "trim_end" clip.trimEnd⟩,
  ⟨IsFinite clip.startTime, .clipTimeNotFinite index clip.source "start_time" clip.startTime⟩,
  ⟨clip.IsCut, .trimRange index clip.source clip.trimStart clip.trimEnd⟩,
  ⟨0 ≤ clip.track.number, .negativeTrack index clip.track⟩] ++
  match clip.overlay with
  | some overlay => overlay.requirements index
  | none => []

def Timeline.trimRequirements (timeline : Timeline τ) : List (Requirement τ) :=
  ⟨IsFinite timeline.trimStart, .trimNotFinite "global_trim_start" timeline.trimStart⟩ ::
  ((match timeline.trimEnd with
    | some trimEnd => [⟨IsFinite trimEnd, .trimNotFinite "global_trim_end" trimEnd⟩]
    | none => []) ++
  [⟨timeline.IsTrimmed, .globalRange timeline.trimStart timeline.resolvedEnd⟩])

def Timeline.requirements (timeline : Timeline τ) : List (Requirement τ) :=
  ⟨timeline.clips ≠ [], .noClips⟩ ::
  (timeline.clips.zipIdx.flatMap (fun (clip, index) => clip.requirements index) ++
  (timeline.trimRequirements ++
  [⟨∃ clip ∈ timeline.clips, clip.track.number = 0, .noMainClip⟩]))

/-! ## Single requirements -/

theorem isFinite_iff {quantity : τ} : Quantity.isFinite quantity = true ↔ IsFinite quantity := by
  rw [Measured.isFinite_eq, Amount.isFinite_iff]
  exact Iff.rfl

theorem less_iff {first second : τ} {firstValue secondValue : ℚ}
    (isFirst : amount first = .number firstValue)
    (isSecond : amount second = .number secondValue) :
    Quantity.less first second = true ↔ firstValue < secondValue := by
  rw [Measured.less_eq, isFirst, isSecond, Amount.less_number_iff]

theorem atMost_iff {first second : τ} {firstValue secondValue : ℚ}
    (isFirst : amount first = .number firstValue)
    (isSecond : amount second = .number secondValue) :
    Quantity.atMost first second = true ↔ firstValue ≤ secondValue := by
  rw [Measured.atMost_eq, isFirst, isSecond, Amount.atMost_number_iff]

/-- An infinite or undefined opacity fails one of the two comparisons. -/
theorem isOpacity_iff {opacity : τ} :
    (Quantity.atMost 0.0 opacity && Quantity.atMost opacity 1.0) = true ↔
      ∃ value, amount opacity = .number value ∧ 0 ≤ value ∧ value ≤ 1 := by
  rw [Bool.and_eq_true, Measured.atMost_eq (0.0 : τ), Measured.atMost_eq opacity, Measured.zero,
    Measured.one]
  cases amount opacity with
  | number value =>
      rw [Amount.atMost_number_iff, Amount.atMost_number_iff]
      simp
  | infinite negative =>
      apply iff_of_false
      · cases negative <;> decide
      · simp
  | undefined =>
      apply iff_of_false
      · decide
      · simp

theorem isCut_iff {clip : Clip τ} (startFinite : IsFinite clip.trimStart)
    (endFinite : IsFinite clip.trimEnd) :
    (!(Quantity.less clip.trimStart 0.0 || Quantity.atMost clip.trimEnd clip.trimStart)) = true ↔
      clip.IsCut := by
  obtain ⟨trimStart, isStart⟩ := startFinite
  obtain ⟨trimEnd, isEnd⟩ := endFinite
  rw [Bool.not_eq_true', Bool.or_eq_false_iff, ← Bool.not_eq_true, ← Bool.not_eq_true,
    less_iff isStart Measured.zero, atMost_iff isEnd isStart, not_lt, not_le]
  unfold Clip.IsCut
  simp [isStart, isEnd]

theorem isPositiveSize_iff {width height : Int} :
    (!decide (width ≤ 0) && !decide (height ≤ 0)) = true ↔
      ∃ givenWidth givenHeight, pairOf width height = pairOf givenWidth givenHeight ∧
        0 < givenWidth ∧ 0 < givenHeight := by
  simp [pairOf]

theorem isBlendMode_iff {mode : String} :
    blendModes.contains mode = true ↔ mode ∈ ["normal", "multiply", "screen", "overlay"] := by
  have same : blendModes.Perm ["normal", "multiply", "screen", "overlay"] := by decide
  rw [List.contains_iff_mem, same.mem_iff]

/-! ## Checks -/

theorem Overlay.enforced {overlay : Overlay τ} {width height : Int}
    (size : overlay.size = pairOf width height) (index : Nat) :
    Enforces (overlay.requirements index) (overlay.check index) := by
  unfold Overlay.requirements Overlay.check
  rw [size, sizeIsPositive_pairOf]
  exact .cons isOpacity_iff fun _ => .cons isPositiveSize_iff fun _ => .require isBlendMode_iff

def Timeline.HasIntegerSizes (timeline : Timeline τ) : Prop :=
  ∀ clip ∈ timeline.clips, ∀ overlay, clip.overlay = some overlay →
    ∃ width height, overlay.size = pairOf width height

theorem Clip.enforced {clip : Clip τ}
    (sizes : ∀ overlay, clip.overlay = some overlay →
      ∃ width height, overlay.size = pairOf width height) (index : Nat) :
    Enforces (clip.requirements index) (clip.check index) := by
  unfold Clip.requirements Clip.check
  refine .cons isFinite_iff fun startFinite => .cons isFinite_iff fun endFinite => ?_
  refine .cons isFinite_iff fun _ => .cons (isCut_iff startFinite endFinite) fun _ => ?_
  refine .cons decide_eq_true_iff fun _ => ?_
  cases given : clip.overlay with
  | none => exact .nothing ()
  | some overlay =>
      obtain ⟨width, height, size⟩ := sizes overlay given
      exact overlay.enforced size index

theorem enforced_checkClips {clips : List (Clip τ)}
    (sizes : ∀ clip ∈ clips, ∀ overlay, clip.overlay = some overlay →
      ∃ width height, overlay.size = pairOf width height) (index : Nat) :
    Enforces ((clips.zipIdx index).flatMap fun (clip, index) => clip.requirements index)
      (checkClips clips index) := by
  induction clips generalizing index with
  | nil => exact .nothing ()
  | cons clip rest induction =>
      rw [List.zipIdx_cons, List.flatMap_cons]
      apply (clip.enforced (sizes clip List.mem_cons_self) index).bind
      intro _ _
      exact induction (fun other member => sizes other (List.mem_cons_of_mem clip member))
        (index + 1)

/-! ## The end of a timeline -/

theorem le_foldl_later {first : τ} {rest : List τ}
    (finite : ∀ time ∈ first :: rest, IsFinite time) {latest : ℚ}
    (isLatest : amount (rest.foldl Quantity.later first) = .number latest) :
    ∀ time ∈ first :: rest, ∀ value, amount time = .number value → value ≤ latest := by
  induction rest generalizing first with
  | nil =>
      intro time member value isValue
      rw [List.mem_singleton.mp member] at isValue
      exact (Amount.number.inj (isValue.symm.trans isLatest)).le
  | cons second rest induction =>
      obtain ⟨firstValue, isFirst⟩ := finite first List.mem_cons_self
      obtain ⟨secondValue, isSecond⟩ :=
        finite second (List.mem_cons_of_mem first List.mem_cons_self)
      have isLater : amount (Quantity.later first second) =
          .number (max firstValue secondValue) := by
        unfold Quantity.later
        split
        · rename_i above
          rw [isSecond, max_eq_right ((less_iff isFirst isSecond).mp above).le]
        · rename_i notAbove
          rw [isFirst, max_eq_left (not_lt.mp (mt (less_iff isFirst isSecond).mpr notAbove))]
      have restFinite : ∀ time ∈ Quantity.later first second :: rest, IsFinite time := by
        intro time member
        cases member with
        | head => exact ⟨_, isLater⟩
        | tail _ later =>
            exact finite time (List.mem_cons_of_mem first (List.mem_cons_of_mem second later))
      have below := induction restFinite isLatest
      have bothBelow := below _ List.mem_cons_self _ isLater
      intro time member value isValue
      rcases List.mem_cons.mp member with rfl | member
      · rw [Amount.number.inj (isValue.symm.trans isFirst)]
        exact (le_max_left _ _).trans bothBelow
      rcases List.mem_cons.mp member with rfl | member
      · rw [Amount.number.inj (isValue.symm.trans isSecond)]
        exact (le_max_right _ _).trans bothBelow
      · exact below time (List.mem_cons_of_mem _ member) value isValue

/-- Where every clip ends is what it stands for: nothing is lost in the sums and differences of
finite times. -/
def Timeline.AddsExactly (timeline : Timeline τ) : Prop :=
  ∀ clip ∈ timeline.clips, ∀ time, clip.StopsAt time → amount clip.endTime = .number time

/-- Nothing ever is with exact amounts. -/
theorem Timeline.addsExactly (timeline : Timeline Amount) : timeline.AddsExactly := by
  rintro clip - time ⟨startTime, trimStart, trimEnd, isStartTime, isStart, isEnd, rfl⟩
  have ends : clip.endTime = clip.startTime.plus (clip.trimEnd.plus clip.trimStart.negated) := rfl
  change clip.endTime = _
  rw [ends, show clip.startTime = _ from isStartTime, show clip.trimStart = _ from isStart,
    show clip.trimEnd = _ from isEnd, add_sub_assoc, sub_eq_add_neg]
  rfl

theorem Clip.StopsAt.eq {clip : Clip τ} {time startTime trimStart trimEnd : ℚ}
    (stopsAt : clip.StopsAt time) (isStartTime : amount clip.startTime = .number startTime)
    (isStart : amount clip.trimStart = .number trimStart)
    (isEnd : amount clip.trimEnd = .number trimEnd) : time = startTime + trimEnd - trimStart := by
  obtain ⟨otherStartTime, otherStart, otherEnd, isOtherStartTime, isOtherStart, isOtherEnd, rfl⟩ :=
    stopsAt
  rw [Amount.number.inj (isStartTime.symm.trans isOtherStartTime),
    Amount.number.inj (isStart.symm.trans isOtherStart),
    Amount.number.inj (isEnd.symm.trans isOtherEnd)]

theorem Clip.IsWellFormed.exists_stopsAt {clip : Clip τ} (wellFormed : clip.IsWellFormed) :
    ∃ time, clip.StopsAt time := by
  obtain ⟨trimStart, trimEnd, isStart, isEnd, -, -⟩ := wellFormed.cut
  obtain ⟨startTime, isStartTime⟩ := wellFormed.startTime
  exact ⟨_, startTime, trimStart, trimEnd, isStartTime, isStart, isEnd, rfl⟩

variable {timeline : Timeline τ}

namespace Timeline

theorem exists_endsAt (notEmpty : timeline.clips ≠ [])
    (clips : ∀ clip ∈ timeline.clips, clip.IsWellFormed)
    (trimEnd : ∀ trimEnd, timeline.trimEnd = some trimEnd → IsFinite trimEnd)
    (adds : timeline.AddsExactly) :
    ∃ stop, amount timeline.resolvedEnd = .number stop ∧ timeline.EndsAt stop := by
  unfold EndsAt resolvedEnd
  cases given : timeline.trimEnd with
  | some time =>
      obtain ⟨stop, isStop⟩ := trimEnd time given
      exact ⟨stop, isStop, isStop⟩
  | none =>
      have stops : ∀ time ∈ timeline.clips.map Clip.endTime, ∃ clip ∈ timeline.clips, ∃ stop,
          clip.StopsAt stop ∧ amount time = .number stop := by
        intro time member
        obtain ⟨clip, clipMember, rfl⟩ := List.mem_map.mp member
        obtain ⟨stop, stopsAt⟩ := (clips clip clipMember).exists_stopsAt
        exact ⟨clip, clipMember, stop, stopsAt, adds clip clipMember stop stopsAt⟩
      have ends : ∀ clip ∈ timeline.clips, clip.endTime ∈ timeline.clips.map Clip.endTime :=
        fun _ => List.mem_map_of_mem
      have some : timeline.clips.map Clip.endTime ≠ [] := by simpa using notEmpty
      dsimp only
      generalize timeline.clips.map Clip.endTime = times at stops ends some ⊢
      match times with
      | [] => exact absurd rfl some
      | first :: rest =>
          obtain ⟨clip, clipMember, stop, stopsAt, isStop⟩ := stops _ (foldl_later_mem first rest)
          refine ⟨stop, isStop, ⟨clip, clipMember, stopsAt⟩, ?_⟩
          rintro other ⟨otherClip, otherMember, otherStops⟩
          have finite : ∀ time ∈ first :: rest, IsFinite time := by
            intro time member
            obtain ⟨_, _, value, _, isValue⟩ := stops time member
            exact ⟨value, isValue⟩
          exact le_foldl_later finite isStop _ (ends otherClip otherMember) other
            (adds otherClip otherMember other otherStops)

theorem EndsAt.unique {first second : ℚ} (isFirst : timeline.EndsAt first)
    (isSecond : timeline.EndsAt second) : first = second := by
  unfold EndsAt at isFirst isSecond
  cases given : timeline.trimEnd with
  | some trimEnd =>
      rw [given] at isFirst isSecond
      exact Amount.number.inj (isFirst.symm.trans isSecond)
  | none =>
      rw [given] at isFirst isSecond
      exact isFirst.unique isSecond

theorem isTrimmed_iff (notEmpty : timeline.clips ≠ [])
    (clips : ∀ clip ∈ timeline.clips, clip.IsWellFormed) (adds : timeline.AddsExactly)
    (trimStart : IsFinite timeline.trimStart)
    (trimEnd : ∀ trimEnd, timeline.trimEnd = some trimEnd → IsFinite trimEnd) :
    (!Quantity.atMost timeline.resolvedEnd timeline.trimStart) = true ↔ timeline.IsTrimmed := by
  obtain ⟨start, isStart⟩ := trimStart
  obtain ⟨stop, isStop, endsAt⟩ := exists_endsAt notEmpty clips trimEnd adds
  rw [Bool.not_eq_true', ← Bool.not_eq_true, atMost_iff isStop isStart, not_le]
  constructor
  · exact fun less => ⟨start, stop, isStart, endsAt, less⟩
  · rintro ⟨otherStart, otherStop, isOtherStart, otherEndsAt, less⟩
    rwa [Amount.number.inj (isStart.symm.trans isOtherStart), endsAt.unique otherEndsAt]

theorem enforced_checkTrim (notEmpty : timeline.clips ≠ [])
    (clips : ∀ clip ∈ timeline.clips, clip.IsWellFormed) (adds : timeline.AddsExactly) :
    Enforces timeline.trimRequirements timeline.checkTrim := by
  unfold trimRequirements checkTrim
  refine .cons isFinite_iff fun trimStart => ?_
  have range := isTrimmed_iff notEmpty clips adds trimStart
  cases given : timeline.trimEnd with
  | none => exact .require (range (by simp [given]))
  | some time =>
      refine .cons isFinite_iff fun trimEnd => .require (range ?_)
      rintro _ isTime
      cases given.symm.trans isTime
      exact trimEnd

end Timeline

/-! ## What is reported -/

theorem Overlay.requirements_reported (overlay : Overlay τ) (index : Nat) :
    ∀ requirement ∈ overlay.requirements index, requirement.violation.IsReported := by
  simp only [requirements, List.forall_mem_cons]
  exact ⟨rfl, rfl, rfl, List.forall_mem_nil _⟩

theorem Clip.requirements_reported (clip : Clip τ) (index : Nat) :
    ∀ requirement ∈ clip.requirements index, requirement.violation.IsReported := by
  rw [requirements, List.forall_mem_append]
  constructor
  · simp only [List.forall_mem_cons]
    exact ⟨rfl, rfl, rfl, rfl, rfl, List.forall_mem_nil _⟩
  · cases clip.overlay with
    | none => exact List.forall_mem_nil _
    | some overlay => exact overlay.requirements_reported index

namespace Timeline

theorem trimRequirements_reported (timeline : Timeline τ) :
    ∀ requirement ∈ timeline.trimRequirements, requirement.violation.IsReported := by
  rw [trimRequirements, List.forall_mem_cons, List.forall_mem_append, List.forall_mem_singleton]
  refine ⟨rfl, ?_, rfl⟩
  cases timeline.trimEnd with
  | none => exact List.forall_mem_nil _
  | some trimEnd => exact List.forall_mem_singleton.mpr rfl

theorem requirements_reported (timeline : Timeline τ) :
    ∀ requirement ∈ timeline.requirements, requirement.violation.IsReported := by
  rw [requirements, List.forall_mem_cons, List.forall_mem_append, List.forall_mem_append,
    List.forall_mem_singleton]
  refine ⟨rfl, ?_, timeline.trimRequirements_reported, rfl⟩
  intro requirement member
  obtain ⟨⟨clip, index⟩, -, ofClip⟩ := List.mem_flatMap.mp member
  exact clip.requirements_reported index requirement ofClip

end Timeline

/-! ## All requirements together -/

theorem Overlay.requirements_hold_iff {overlay : Overlay τ} {index : Nat} :
    (∀ requirement ∈ overlay.requirements index, requirement.holds) ↔ overlay.IsWellFormed := by
  simp only [requirements, List.forall_mem_cons]
  constructor
  · rintro ⟨opacity, size, blendMode, -⟩
    exact ⟨opacity, size, blendMode⟩
  · rintro ⟨opacity, size, blendMode⟩
    exact ⟨opacity, size, blendMode, by simp⟩

theorem Clip.requirements_hold_iff {clip : Clip τ} {index : Nat} :
    (∀ requirement ∈ clip.requirements index, requirement.holds) ↔ clip.IsWellFormed := by
  have overlays : (∀ requirement ∈ (match clip.overlay with
      | some overlay => overlay.requirements index
      | none => []), requirement.holds) ↔
        ∀ overlay, clip.overlay = some overlay → overlay.IsWellFormed := by
    cases clip.overlay with
    | none => simp
    | some overlay =>
        rw [Overlay.requirements_hold_iff]
        simp
  rw [requirements, List.forall_mem_append, overlays]
  simp only [List.forall_mem_cons]
  constructor
  · rintro ⟨⟨-, -, startTime, cut, track, -⟩, overlay⟩
    exact ⟨cut, startTime, track, overlay⟩
  · rintro ⟨cut, startTime, track, overlay⟩
    obtain ⟨trimStart, trimEnd, isStart, isEnd, -⟩ := id cut
    exact ⟨⟨⟨_, isStart⟩, ⟨_, isEnd⟩, startTime, cut, track, by simp⟩, overlay⟩

theorem clipRequirements_hold_iff {clips : List (Clip τ)} {index : Nat} :
    (∀ requirement ∈ (clips.zipIdx index).flatMap fun (clip, index) => clip.requirements index,
      requirement.holds) ↔ ∀ clip ∈ clips, clip.IsWellFormed := by
  induction clips generalizing index with
  | nil => simp
  | cons clip rest induction =>
      rw [List.zipIdx_cons, List.flatMap_cons, List.forall_mem_append, induction,
        List.forall_mem_cons, Clip.requirements_hold_iff]

namespace Timeline

theorem requirements_hold_iff :
    (∀ requirement ∈ timeline.requirements, requirement.holds) ↔ timeline.IsWellFormed := by
  have ends : (∀ requirement ∈ (match timeline.trimEnd with
      | some trimEnd => [⟨IsFinite trimEnd, .trimNotFinite "global_trim_end" trimEnd⟩]
      | none => [] : List (Requirement τ)), requirement.holds) ↔
        ∀ trimEnd, timeline.trimEnd = some trimEnd → IsFinite trimEnd := by
    cases timeline.trimEnd <;> simp
  simp only [requirements, trimRequirements, List.forall_mem_cons, List.forall_mem_append, ends,
    clipRequirements_hold_iff]
  constructor
  · rintro ⟨notEmpty, clips, ⟨trimStart, trimEnd, trimmed, -⟩, main, -⟩
    exact ⟨notEmpty, clips, trimStart, trimEnd, trimmed, main⟩
  · rintro ⟨notEmpty, clips, trimStart, trimEnd, trimmed, main⟩
    exact ⟨notEmpty, clips, ⟨trimStart, trimEnd, trimmed, by simp⟩, main, by simp⟩

theorem enforced (sizes : timeline.HasIntegerSizes) (adds : timeline.AddsExactly) :
    Enforces timeline.requirements timeline.check := by
  unfold requirements check
  refine .cons (by simp) fun notEmpty => ?_
  apply (enforced_checkClips sizes 0).bind
  intro _ clipsHold
  apply (enforced_checkTrim notEmpty (clipRequirements_hold_iff.mp clipsHold) adds).bind
  intro _ _
  exact .cons (by simp [Track.isMain]) fun _ => .nothing _

def undefinedTitle : Clip Float :=
  { Clip.ofTrim "title.mp4" (0.25 : Float) 1.5 with
    track := .numbered 1
    overlay := some
      { (Overlay.standard : Overlay Float) with opacity := 0.0 / 0.0, blendMode := "burn" } }

def faulty : Timeline Float :=
  .ofClips [.ofTrim "first.mp4" 0.0 4.0, undefinedTitle]

def sunkenClip : Clip Float :=
  { Clip.ofTrim "first.mp4" (0.0 : Float) 2.0 with track := .numbered (-overlong) }

theorem check_sunkenClip :
    sunkenClip.check 0 = .error (.negativeTrack 0 (.numbered (-overlong))) := by
  have zero : Quantity.isFinite (0.0 : Float) = true := by decide +kernel
  have two : Quantity.isFinite (2.0 : Float) = true := by decide +kernel
  have range :
      (!(Quantity.less (0.0 : Float) 0.0 || Quantity.atMost (2.0 : Float) 0.0)) = true := by
    decide +kernel
  simp only [sunkenClip, Clip.ofTrim, Clip.check, Track.number, zero, two, range,
    not_nonneg_neg_overlong, require, decide_false, if_true, Bool.false_eq_true, if_false]
  rfl

end Timeline

end Montage
