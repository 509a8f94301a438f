import Montage.Proofs.Graph.Scene
import Montage.Timeline.Check

/-! Timelines that pass every check. -/

namespace Montage

variable {τ : Type}

theorem holds_of_require {holds : Bool} {violation : Violation τ}
    (passed : require holds violation = .ok ()) : holds = true := by
  cases holds with
  | true => rfl
  | false => cases passed

variable [Quantity τ]

theorem clip_passes_of_checkClips {clips : List (Clip τ)} :
    ∀ {index}, checkClips clips index = .ok () →
      ∀ clip ∈ clips, ∃ place, clip.check place = .ok () := by
  induction clips with
  | nil => simp
  | cons first rest induction =>
      intro index passed clip member
      rcases exists_of_bind_ok passed with ⟨⟨⟩, firstPassed, restPassed⟩
      rcases List.mem_cons.mp member with rfl | member
      · exact ⟨index, firstPassed⟩
      · exact induction restPassed clip member

theorem Clip.track_nonneg_of_check {clip : Clip τ} {index : Nat}
    (passed : clip.check index = .ok ()) : 0 ≤ clip.track.number := by
  rcases exists_of_bind_ok passed with ⟨_, _, passed⟩
  rcases exists_of_bind_ok passed with ⟨_, _, passed⟩
  rcases exists_of_bind_ok passed with ⟨_, _, passed⟩
  rcases exists_of_bind_ok passed with ⟨_, _, passed⟩
  rcases exists_of_bind_ok passed with ⟨_, nonneg, _⟩
  exact of_decide_eq_true (holds_of_require nonneg)

namespace Timeline

variable {timeline : Timeline τ} {checked : CheckedTimeline τ}

def HasReadableOverlays (timeline : Timeline τ) : Prop :=
  ∀ clip ∈ timeline.clips, ∀ overlay, clip.overlay = some overlay → overlay.IsReadable

def sorted (timeline : Timeline τ) : CheckedTimeline τ where
  timeline
  mainClips := timeline.mainClips
  layers := timeline.overlayClips.map .ofClip

theorem checked_eq (passed : timeline.check = .ok checked) :
    checked = timeline.sorted := by
  rcases exists_of_bind_ok passed with ⟨_, _, passed⟩
  rcases exists_of_bind_ok passed with ⟨_, _, passed⟩
  rcases exists_of_bind_ok passed with ⟨_, _, passed⟩
  rcases exists_of_bind_ok passed with ⟨_, _, passed⟩
  exact (Except.ok.inj passed).symm

theorem track_nonneg (passed : timeline.check = .ok checked) :
    ∀ clip ∈ timeline.clips, 0 ≤ clip.track.number := by
  intro clip member
  rcases exists_of_bind_ok passed with ⟨_, _, passed⟩
  rcases exists_of_bind_ok passed with ⟨_, clipsPassed, _⟩
  rcases clip_passes_of_checkClips clipsPassed clip member with ⟨place, clipPassed⟩
  exact clip.track_nonneg_of_check clipPassed

theorem mem_mainClips {clip : Clip τ} :
    clip ∈ timeline.mainClips ↔ clip ∈ timeline.clips ∧ clip.track.isMain = true := by
  simp [mainClips, List.mem_mergeSort]

theorem mainClips_singleton {clip : Clip τ} (main : clip.track.isMain = true) :
    (ofClips [clip]).mainClips = [clip] := by
  have kept : (ofClips [clip]).clips.filter (·.track.isMain) = [clip] := by simp [ofClips, main]
  rw [mainClips, kept, List.mergeSort_singleton]

theorem mem_overlayClips {clip : Clip τ} :
    clip ∈ timeline.overlayClips ↔ clip ∈ timeline.clips ∧ clip.track.isMain = false := by
  simp [overlayClips, List.mem_mergeSort]

theorem isMain_of_mem_mainClips (passed : timeline.check = .ok checked) {clip : Clip τ}
    (member : clip ∈ checked.mainClips) : clip.track.isMain = true := by
  rw [checked_eq passed] at member
  exact (mem_mainClips.mp member).2

/-- What holds of all overlays that are given holds of all layers, if it also holds of the standard
one: a clip that says nothing is drawn in that way. -/
theorem forall_layers (Holds : Overlay τ → Prop) (passed : timeline.check = .ok checked)
    (standard : Holds .standard)
    (given : ∀ clip ∈ timeline.clips, ∀ overlay, clip.overlay = some overlay → Holds overlay) :
    ∀ layer ∈ checked.layers, Holds layer.overlay := by
  intro layer member
  rw [checked_eq passed] at member
  rcases List.mem_map.mp member with ⟨clip, clipMember, rfl⟩
  cases isGiven : clip.overlay with
  | none =>
      simp only [Layer.ofClip, isGiven, Option.getD_none]
      exact standard
  | some overlay =>
      simp only [Layer.ofClip, isGiven, Option.getD_some]
      exact given clip (mem_overlayClips.mp clipMember).1 overlay isGiven

theorem layers_readable (passed : timeline.check = .ok checked)
    (readable : timeline.HasReadableOverlays) :
    ∀ layer ∈ checked.layers, layer.overlay.IsReadable :=
  forall_layers _ passed Overlay.isReadable_standard readable

theorem check_eq_of_isSome (passes : timeline.check.toOption.isSome = true) :
    timeline.check = .ok timeline.sorted := by
  cases result : timeline.check with
  | error violation =>
      rw [result] at passes
      cases passes
  | ok checked => rw [checked_eq result, sorted]

/-! ## A sample -/

def sample : Timeline Float :=
  .ofClips [
    { Clip.ofTrim "sign.mp4" 0.0 2.0 with
      track := .numbered 2
      startTime := 1.0
      overlay := some {
        position := pairOf (-20) 10
        size := pairOf 100 50
        opacity := 0.5
        blendMode := "screen" } },
    { Clip.ofTrim "second.mp4" 1.0 3.0 with startTime := 4.0 },
    .ofTrim "first.mp4" 0.0 4.0,
    { Clip.ofTrim "title.mp4" 0.0 1.5 with track := .numbered 1 }]

theorem sample_passes : sample.check = .ok sample.sorted :=
  check_eq_of_isSome (by decide +kernel)

theorem sample_layers_length : sample.sorted.layers.length = 2 := by
  simp only [sorted, overlayClips, List.length_map, List.length_mergeSort]
  decide +kernel

theorem sample_hasReadableOverlays : sample.HasReadableOverlays := by
  intro clip member overlay given
  simp only [sample, ofClips, List.mem_cons, List.not_mem_nil, or_false] at member
  rcases member with rfl | rfl | rfl | rfl
  · cases given
    exact Overlay.isReadable_of_integers rfl rfl
  · cases given
  · cases given
  · cases given

theorem sample_hasFewDigits :
    ∀ layer ∈ sample.sorted.layers, layer.overlay.rectangle.HasFewDigits := by
  refine forall_layers (·.rectangle.HasFewDigits) sample_passes (by decide +kernel) ?_
  intro clip member overlay given
  simp only [sample, ofClips, List.mem_cons, List.not_mem_nil, or_false] at member
  rcases member with rfl | rfl | rfl | rfl
  · cases given
    decide +kernel
  · cases given
  · cases given
  · cases given

theorem sample_hasWritableNumbers (mainAssets : List (Asset (Clip Float) Float))
    {layerAssets : List (Asset (Layer Float) Float)}
    (layers : ∀ asset ∈ layerAssets, asset.item ∈ sample.sorted.layers) :
    HasWritableNumbers (1920, 1080) (.int 30) mainAssets layerAssets where
  canvas := by decide +kernel
  rate _ := by decide +kernel
  layers asset member := sample_hasFewDigits asset.item (layers asset member)

end Timeline

end Montage
