import Mathlib.Data.List.Forall2
import Montage.Manifest.Basic
import Montage.Proofs.Timeline.Decided

/-! What is known of a manifest that has been read: its clips are those that are written down,
and the numbers of their overlays are integers. -/

namespace Montage

namespace Manifest

/-! ## Overlays -/

theorem hasIntegers_of_readOverlay {block : Value} {index : Nat} {overlay : Overlay Float}
    (read : readOverlay block index = .ok overlay) : overlay.HasIntegers := by
  rcases exists_of_bind_ok read with ⟨_, _, read⟩
  rcases exists_of_bind_ok read with ⟨_, _, read⟩
  rcases exists_of_bind_ok read with ⟨⟨x, y⟩, _, read⟩
  rcases exists_of_bind_ok read with ⟨⟨width, height⟩, _, read⟩
  rcases exists_of_bind_ok read with ⟨_, _, read⟩
  rcases exists_of_bind_ok read with ⟨_, _, read⟩
  rcases exists_of_bind_ok read with ⟨_, _, read⟩
  rcases exists_of_bind_ok read with ⟨_, _, read⟩
  cases read
  exact ⟨x, y, width, height, rfl, rfl⟩

theorem hasIntegers_of_readClip {entry paths : Value} {index : Nat} {clip : Clip Float}
    (read : readClip entry index paths = .ok clip) : clip.HasIntegers := by
  unfold readClip at read
  split at read
  · rcases exists_of_bind_ok read with ⟨_, _, read⟩
    rcases exists_of_bind_ok read with ⟨_, _, read⟩
    rcases exists_of_bind_ok read with ⟨_, _, read⟩
    rcases exists_of_bind_ok read with ⟨track, _, read⟩
    split at read
    · rcases exists_of_bind_ok read with ⟨overlay, none, read⟩
      cases none
      rcases exists_of_bind_ok read with ⟨_, _, read⟩
      rcases exists_of_bind_ok read with ⟨_, _, read⟩
      rcases exists_of_bind_ok read with ⟨_, _, read⟩
      rcases exists_of_bind_ok read with ⟨_, _, read⟩
      rcases exists_of_bind_ok read with ⟨_, _, read⟩
      cases read
      exact nofun
    · split at read
      · rcases exists_of_bind_ok read with ⟨_, onMainTrack, _⟩
        cases onMainTrack
      · rename_i block _ _
        rcases exists_of_bind_ok read with ⟨overlay, given, read⟩
        rcases exists_of_bind_ok read with ⟨_, _, read⟩
        rcases exists_of_bind_ok read with ⟨_, _, read⟩
        rcases exists_of_bind_ok read with ⟨_, _, read⟩
        rcases exists_of_bind_ok read with ⟨_, _, read⟩
        rcases exists_of_bind_ok read with ⟨_, _, read⟩
        cases read
        cases overlaid : readOverlay (orEmpty (some block)) index with
        | error problem =>
            rw [overlaid] at given
            cases given
        | ok drawn =>
            rw [overlaid] at given
            cases given
            rintro _ ⟨⟩
            exact hasIntegers_of_readOverlay overlaid
  · cases read

/-! ## Clips -/

/-- Each entry has become one clip, in their order. -/
theorem readClips_eq_ok_iff {paths : Value} {entries : List Value} {index : Nat}
    {clips : List (Clip Float)} :
    readClips paths entries index = .ok clips ↔
      List.Forall₂ (fun entry clip => readClip entry.1 entry.2 paths = .ok clip)
        (entries.zipIdx index) clips := by
  induction entries generalizing index clips with
  | nil =>
      rw [List.zipIdx_nil, List.forall₂_nil_left_iff]
      exact ⟨fun read => (Except.ok.inj read).symm, fun none => congrArg Except.ok none.symm⟩
  | cons entry rest induction =>
      simp only [readClips, bind_eq_ok_iff, induction]
      rw [List.zipIdx_cons, List.forall₂_cons_left_iff]
      constructor
      · rintro ⟨clip, read, others, restRead, given⟩
        cases given
        exact ⟨clip, others, read, restRead, rfl⟩
      · rintro ⟨clip, others, read, restRead, rfl⟩
        exact ⟨clip, read, others, restRead, rfl⟩

theorem hasIntegers_of_readClips {paths : Value} {entries : List Value} {index : Nat}
    {clips : List (Clip Float)} (read : readClips paths entries index = .ok clips) :
    ∀ clip ∈ clips, clip.HasIntegers := by
  have each := readClips_eq_ok_iff.mp read
  clear read
  generalize entries.zipIdx index = counted at each
  induction each with
  | nil => exact nofun
  | cons read _ induction =>
      exact List.forall_mem_cons.mpr ⟨hasIntegers_of_readClip read, induction⟩

/-- The entries of a manifest that was accepted, and what its timeline was read from. -/
theorem exists_of_ofValue {given : Value} {manifest : Manifest}
    (accepted : ofValue given = .ok manifest) :
    ∃ entries paths, (orEmpty (some given)).under "clips" = .ok (.list entries) ∧
      readClips paths entries 0 = .ok manifest.timeline.clips := by
  rcases exists_of_bind_ok accepted with ⟨has, _, accepted⟩
  cases has with
  | false => cases accepted
  | true =>
      rcases exists_of_bind_ok accepted with ⟨clips, under, accepted⟩
      cases clips with
      | list entries =>
          rcases exists_of_bind_ok accepted with ⟨_, _, accepted⟩
          rcases exists_of_bind_ok accepted with ⟨clips, read, accepted⟩
          rcases exists_of_bind_ok accepted with ⟨_, _, accepted⟩
          rcases exists_of_bind_ok accepted with ⟨_, _, accepted⟩
          rcases exists_of_bind_ok accepted with ⟨_, _, accepted⟩
          rcases exists_of_bind_ok accepted with ⟨_, _, accepted⟩
          rcases exists_of_bind_ok accepted with ⟨_, _, accepted⟩
          cases accepted
          refine ⟨entries, _, ?_, read⟩
          cases found : Value.under "clips" (orEmpty (some given)) with
          | error misfit =>
              rw [found] at under
              cases under
          | ok value =>
              rw [found] at under
              cases under
              rfl
      | _ => cases accepted

end Manifest

end Montage
