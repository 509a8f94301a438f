import Montage.Proofs.Graph.Usable
import Montage.Proofs.Manifest.Planning
import Montage.Proofs.Timeline.WellFormed

/-! What becomes of the output that a manifest asks for: whether its size and its rate are of
any use in the plan. -/

namespace Montage

/-! ## Layers that have passed -/

section

variable {τ : Type} [Quantity τ] [Measured τ]

theorem Overlay.isPositive_of_check {overlay : Overlay τ} (integers : overlay.HasIntegers)
    {index : Nat} (passed : overlay.check index = .ok ()) :
    ∀ extent, twoIntegers overlay.size = .ok extent → Extent.IsPositive extent := by
  obtain ⟨_, _, width, height, -, size⟩ := integers
  have requirements := (overlay.enforced size index).exists_ok_iff.mp ⟨_, passed⟩
  obtain ⟨givenWidth, givenHeight, given, positive⟩ :=
    requirements _ (List.mem_cons_of_mem _ List.mem_cons_self)
  intro extent read
  rw [given, twoIntegers_pairOf] at read
  exact Except.ok.inj read ▸ positive

omit [Measured τ] in
theorem Overlay.isPositive_standard : ∀ extent,
    twoIntegers (Overlay.standard : Overlay τ).size = .ok extent → Extent.IsPositive extent := by
  intro extent read
  cases read
  exact ⟨by decide, by decide⟩

omit [Measured τ] in
theorem Clip.check_overlay {clip : Clip τ} {overlay : Overlay τ} {index : Nat}
    (passed : clip.check index = .ok ()) (given : clip.overlay = some overlay) :
    overlay.check index = .ok () := by
  simp only [Clip.check, bind_eq_ok_iff, given] at passed
  obtain ⟨_, _, _, _, _, _, _, _, _, _, overlayPassed⟩ := passed
  exact overlayPassed

theorem Timeline.layers_isPositive {timeline : Timeline τ} {checked : CheckedTimeline τ}
    (passed : timeline.check = .ok checked)
    (integers : ∀ clip ∈ timeline.clips, clip.HasIntegers) :
    ∀ layer ∈ checked.layers, ∀ extent,
      twoIntegers layer.overlay.size = .ok extent → Extent.IsPositive extent := by
  intro layer member
  rw [checked_eq passed] at member
  obtain ⟨clip, sorted, rfl⟩ := List.mem_map.mp member
  have clipMember := (mem_overlayClips.mp sorted).1
  have clipPassed := (check_eq_ok_iff.mp passed).2.1 clip clipMember
  cases given : clip.overlay with
  | none =>
      simp only [Layer.ofClip, given, Option.getD_none]
      exact Overlay.isPositive_standard
  | some overlay =>
      simp only [Layer.ofClip, given, Option.getD_some]
      exact Overlay.isPositive_of_check (integers clip clipMember overlay given)
        (Clip.check_overlay clipPassed given)

end

namespace Manifest

variable {given : Value} {manifest : Manifest}

/-! ## What is accepted -/

theorem rate_of_readRate {rate : Value} (read : readRate given = .ok rate) :
    rate = .bool true ∨ ∃ number, 0 < number ∧ rate = .int number := by
  unfold readRate at read
  split at read
  · split at read
    · rename_i number positive
      cases read
      exact .inr ⟨number, positive, rfl⟩
    · cases read
  · cases read
    exact .inl rfl
  · cases read

/-- What is read from the block of the output has been read by what reads the field. -/
theorem of_readOutput {α : Type} {block : Value} {name : String}
    {read : Value → Except Problem α} {value : α}
    (found : readOutput block name read = .ok (some value)) :
    ∃ given, read given = .ok value := by
  obtain ⟨has, -, found⟩ := exists_of_bind_ok found
  cases has with
  | false => cases found
  | true =>
      obtain ⟨given, -, found⟩ := exists_of_bind_ok found
      obtain ⟨value, valueRead, found⟩ := exists_of_bind_ok found
      cases found
      exact ⟨given, valueRead⟩

/-- The rate of a manifest is a positive integer or the truth value for one. -/
theorem rate_of_ofValue (accepted : ofValue given = .ok manifest) {rate : Value}
    (asked : manifest.rate = some rate) :
    rate = .bool true ∨ ∃ number, 0 < number ∧ rate = .int number := by
  obtain ⟨has, -, accepted⟩ := exists_of_bind_ok accepted
  cases has with
  | false => cases accepted
  | true =>
      obtain ⟨clips, -, accepted⟩ := exists_of_bind_ok accepted
      cases clips with
      | list entries =>
          obtain ⟨_, _, accepted⟩ := exists_of_bind_ok accepted
          obtain ⟨_, _, accepted⟩ := exists_of_bind_ok accepted
          obtain ⟨_, _, accepted⟩ := exists_of_bind_ok accepted
          obtain ⟨_, _, accepted⟩ := exists_of_bind_ok accepted
          obtain ⟨_, _, accepted⟩ := exists_of_bind_ok accepted
          obtain ⟨_, _, accepted⟩ := exists_of_bind_ok accepted
          obtain ⟨found, rateFound, accepted⟩ := exists_of_bind_ok accepted
          cases accepted
          obtain rfl : found = some rate := asked
          obtain ⟨given, read⟩ := of_readOutput rateFound
          exact rate_of_readRate read
      | _ => cases accepted

/-! ## What is asked of the plan -/

theorem canvas_applyOutput_default (manifest : Manifest) :
    twoIntegers (manifest.applyOutput {}).canvas = .ok (manifest.resolution.getD (1920, 1080)) := by
  unfold applyOutput
  rcases manifest.resolution with _ | ⟨width, height⟩
  · cases manifest.rate <;> rfl
  · cases manifest.rate <;> rfl

theorem fps_applyOutput_default (manifest : Manifest) :
    (manifest.applyOutput {}).fps = manifest.rate.getD (.int 30) := by
  unfold applyOutput
  rcases manifest.resolution with _ | ⟨width, height⟩
  · cases manifest.rate <;> rfl
  · cases manifest.rate <;> rfl

theorem not_isPositiveNumeral_true : ¬ IsPositiveNumeral "True" := by
  rintro ⟨number, -, same⟩
  have letter : 'T' ∈ (integerText number).toList := by
    rw [← same]
    decide
  exact absurd (eq_sign_or_isDigit_of_mem_integerText letter) (by decide)

/-- A rate that was accepted is a numeral, unless it is a truth value. -/
theorem isPositiveNumeral_fps_iff (accepted : ofValue given = .ok manifest) :
    IsPositiveNumeral (manifest.applyOutput {}).fps.plain ↔ manifest.rate ≠ some (.bool true) := by
  rw [fps_applyOutput_default]
  cases asked : manifest.rate with
  | none => exact iff_of_true (isPositiveNumeral_integerText_iff.mpr (by decide)) nofun
  | some rate =>
      rcases rate_of_ofValue accepted asked with rfl | ⟨number, positive, rfl⟩
      · exact iff_of_false not_isPositiveNumeral_true (not_not.mpr rfl)
      · exact iff_of_true (isPositiveNumeral_integerText_iff.mpr positive) nofun

theorem isPositive_resolution_iff (resolution : Option (Int × Int)) :
    Extent.IsPositive (resolution.getD (1920, 1080)) ↔
      ∀ width height, resolution = some (width, height) → 0 < width ∧ 0 < height := by
  rcases resolution with _ | ⟨width, height⟩
  · exact iff_of_true ⟨by decide, by decide⟩ nofun
  · constructor
    · rintro positive _ _ ⟨⟩
      exact positive
    · exact fun positive => positive width height rfl

def PlansAs (manifest : Manifest) (checked : CheckedTimeline Float) (workspace : Workspace)
    (plan : Plan Float) (text : String) : Prop :=
  (planMontage checked (manifest.applyOutput {})
    (survivors id checked.mainClips checked.timeline workspace)
    (survivors Layer.clip checked.layers checked.timeline workspace)
    (workspace.file "audio.m4a").text).1 = .ok plan ∧ renderGraph plan.nodes = .ok text

theorem PlansAs.unique {checked : CheckedTimeline Float} {workspace : Workspace}
    {plan other : Plan Float} {text otherText : String}
    (plans : manifest.PlansAs checked workspace plan text)
    (plansSo : manifest.PlansAs checked workspace other otherText) :
    plan = other ∧ text = otherText := by
  cases plans.1.symm.trans plansSo.1
  cases plans.2.symm.trans plansSo.2
  exact ⟨rfl, rfl⟩

def WritesNumbers (manifest : Manifest) (checked : CheckedTimeline Float) (workspace : Workspace) :
    Prop :=
  HasWritablePlan (manifest.resolution.getD (1920, 1080)) (manifest.applyOutput {}) checked
    workspace

/-- Every timeline that a manifest holds can be planned once it has passed and its integers can be
written, and whether the numbers of the plan are usable is decided by what the manifest asks of the
output. -/
theorem exists_plan_usable_iff (accepted : ofValue given = .ok manifest)
    {checked : CheckedTimeline Float} (passed : manifest.timeline.check = .ok checked)
    {workspace : Workspace} (writes : manifest.WritesNumbers checked workspace) (output : String) :
    ∃ plan text arguments, manifest.PlansAs checked workspace plan text ∧
      compositionArguments plan text output (manifest.applyOutput {}) = .ok arguments ∧
      (UsableNumbers plan.inputs plan.nodes arguments ↔
        (∀ width height, manifest.resolution = some (width, height) → 0 < width ∧ 0 < height) ∧
          manifest.rate ≠ some (.bool true)) := by
  obtain ⟨entries, paths, -, read⟩ := exists_of_ofValue accepted
  have integers := hasIntegers_of_readClips read
  have positive := Timeline.layers_isPositive passed integers
  have canvasRead := canvas_applyOutput_default manifest
  obtain ⟨plan, text, planned, rendered, -⟩ := (exists_plan_survivors passed
    (Timeline.hasReadableOverlays integers) canvasRead workspace
    (workspace.file "audio.m4a").text).1 writes.1
  have written := compositionArguments_of_rate writes.2 plan text output
  refine ⟨plan, text, _, ⟨planned, rendered⟩, written, ?_⟩
  rw [usableNumbers_iff planned canvasRead
    (fun asset member => positive asset.item (item_mem_of_mem_survivors member)) written,
    isPositive_resolution_iff, isPositiveNumeral_fps_iff accepted]

/-- Once a document is accepted, its timeline has passed and its integers can be written, it can
be planned, and all numbers of the last call are usable, whatever the workspace and the output are
called. -/
def GivesUsableNumbers (given : Value) : Prop :=
  ∀ manifest checked workspace, ofValue given = .ok manifest →
    manifest.timeline.check = .ok checked → manifest.WritesNumbers checked workspace →
    ∀ output, ∃ plan text arguments, manifest.PlansAs checked workspace plan text ∧
      compositionArguments plan text output (manifest.applyOutput {}) = .ok arguments ∧
      UsableNumbers plan.inputs plan.nodes arguments

/-- The numbers are usable but where the resolution is not positive or the rate is a truth
value: neither is asked when a document is accepted. -/
theorem givesUsableNumbers_iff (given : Value) :
    GivesUsableNumbers given ↔
      ∀ manifest checked workspace, ofValue given = .ok manifest →
        manifest.timeline.check = .ok checked → manifest.WritesNumbers checked workspace →
        (∀ width height, manifest.resolution = some (width, height) → 0 < width ∧ 0 < height) ∧
          manifest.rate ≠ some (.bool true) := by
  constructor
  · intro gives manifest checked workspace accepted passed writes
    obtain ⟨plan, text, _, plans, written, usable⟩ := gives _ _ _ accepted passed writes ""
    obtain ⟨other, otherText, _, plansSo, writtenSo, same⟩ :=
      exists_plan_usable_iff accepted passed writes ""
    obtain ⟨rfl, rfl⟩ := plans.unique plansSo
    cases written.symm.trans writtenSo
    exact same.mp usable
  · intro asked manifest checked workspace accepted passed writes output
    obtain ⟨plan, text, arguments, plans, written, same⟩ :=
      exists_plan_usable_iff accepted passed writes output
    exact ⟨plan, text, arguments, plans, written, same.mpr (asked _ _ _ accepted passed writes)⟩

def truthDocument : Value :=
  .map [(.text "clips", .list [
    .map [(.text "source", .text "first.mp4"), (.text "trim_start", .int 0),
      (.text "trim_end", .int 2)]]),
    (.text "output", .map [(.text "fps", .bool true)])]

def truthManifest : Manifest :=
  (ofValue truthDocument).toOption.get (by decide +kernel)

/-- It is accepted, its timeline passes, and ffmpeg is asked for the rate True. -/
theorem not_givesUsableNumbers_truth : ¬ GivesUsableNumbers truthDocument := by
  have accepted : ofValue truthDocument = .ok truthManifest := eq_ok_get_of_isSome _
  have passed : truthManifest.timeline.check = .ok truthManifest.timeline.sorted :=
    Timeline.check_eq_of_isSome (by decide +kernel)
  have rate : (truthManifest.applyOutput {}).fps.plain = "True" := by decide +kernel
  have writes : truthManifest.WritesNumbers truthManifest.timeline.sorted .sample :=
    hasWritablePlan_of_short passed (by decide +kernel) (by decide +kernel) (by decide +kernel) _
  intro gives
  obtain ⟨plan, text, _, -, written, usable⟩ := gives _ _ _ accepted passed writes "out.mp4"
  obtain ⟨asked, given, positive⟩ := usable.rate
  rw [rateAsked?_compositionArguments written, rate] at given
  cases given
  exact not_isPositiveNumeral_true positive

end Manifest

end Montage
