import Montage.Problem
import Montage.Proofs.Timeline.Accepted

/-! Timelines whose overlays have integers for their position and size. A check of one finds
whether it is well formed, and never a value that does not fit. -/

namespace Montage

def Overlay.HasIntegers {τ : Type} (overlay : Overlay τ) : Prop :=
  ∃ x y width height, overlay.position = pairOf x y ∧ overlay.size = pairOf width height

def Clip.HasIntegers {τ : Type} (clip : Clip τ) : Prop :=
  ∀ overlay, clip.overlay = some overlay → overlay.HasIntegers

theorem Timeline.hasReadableOverlays {τ : Type} {timeline : Timeline τ}
    (integers : ∀ clip ∈ timeline.clips, clip.HasIntegers) : timeline.HasReadableOverlays := by
  intro clip member overlay given
  rcases integers clip member overlay given with ⟨x, y, width, height, position, size⟩
  exact Overlay.isReadable_of_integers position size

theorem sizeIsPositive_pairOf (width height : Int) :
    sizeIsPositive (pairOf width height) = .ok (!decide (width ≤ 0) && !decide (height ≤ 0)) := by
  change (if decide (width ≤ 0) = true then Except.ok false
    else Except.ok (!decide (height ≤ 0))) = _
  cases decide (width ≤ 0) <;> rfl

/-- A check that passes or finds a violation, and never meets a value that does not fit. -/
def Decides {τ α : Type} (result : Except (Violation τ) α) : Prop :=
  ∀ cause, result ≠ .error (.misfit cause)

namespace Decides

variable {τ α β : Type}

theorem ok (value : α) : Decides (.ok value : Except (Violation τ) α) :=
  fun _ => nofun

theorem bind {first : Except (Violation τ) α} {next : α → Except (Violation τ) β}
    (early : Decides first) (late : ∀ value, Decides (next value)) : Decides (first >>= next) := by
  cases first with
  | error violation =>
      intro cause stopped
      exact early cause (congrArg Except.error (Except.error.inj stopped))
  | ok value => exact late value

theorem require (holds : Bool) {violation : Violation τ}
    (known : ∀ cause, violation ≠ .misfit cause) : Decides (Montage.require holds violation) := by
  intro cause stopped
  cases holds with
  | true => cases stopped
  | false => exact known cause (Except.error.inj stopped)

variable [Quantity τ]

theorem overlay {overlay : Overlay τ} (integers : overlay.HasIntegers) (index : Nat) :
    Decides (overlay.check index) := by
  rcases integers with ⟨x, y, width, height, -, size⟩
  unfold Overlay.check
  rw [size, sizeIsPositive_pairOf]
  refine (require _ (by nofun)).bind fun _ => ?_
  exact (require _ (by nofun)).bind fun _ => require _ (by nofun)

theorem clip {clip : Clip τ} (integers : clip.HasIntegers) (index : Nat) :
    Decides (clip.check index) := by
  refine (require _ (by nofun)).bind fun _ => ?_
  refine (require _ (by nofun)).bind fun _ => ?_
  refine (require _ (by nofun)).bind fun _ => ?_
  refine (require _ (by nofun)).bind fun _ => ?_
  refine (require _ (by nofun)).bind fun _ => ?_
  cases given : clip.overlay with
  | none => exact ok ()
  | some overlay => exact Decides.overlay (integers overlay given) index

theorem checkClips {clips : List (Clip τ)} (integers : ∀ clip ∈ clips, clip.HasIntegers)
    (index : Nat) : Decides (Montage.checkClips clips index) := by
  induction clips generalizing index with
  | nil => exact ok ()
  | cons first rest induction =>
      exact (clip (integers first List.mem_cons_self) index).bind fun _ =>
        induction (fun clip member => integers clip (List.mem_cons_of_mem _ member)) _

theorem checkTrim (timeline : Timeline τ) : Decides timeline.checkTrim := by
  unfold Timeline.checkTrim
  refine (require _ (by nofun)).bind fun _ => ?_
  cases timeline.trimEnd with
  | none => exact require _ (by nofun)
  | some trimEnd => exact (require _ (by nofun)).bind fun _ => require _ (by nofun)

theorem timeline {timeline : Timeline τ} (integers : ∀ clip ∈ timeline.clips, clip.HasIntegers) :
    Decides timeline.check := by
  refine (require _ (by nofun)).bind fun _ => ?_
  refine (checkClips integers 0).bind fun _ => ?_
  refine (checkTrim timeline).bind fun _ => ?_
  exact (require _ (by nofun)).bind fun _ => ok _

end Decides

def Violation.IsReported {τ : Type} [Quantity τ] (violation : Violation τ) : Prop :=
  Problem.ofViolation violation =
    if violation.isWritable then .failure { kind := .validation, message := violation.message }
    else .misfit .tooManyDigits

/-- What a check finds that never meets a value that does not fit is told with its message. -/
theorem Decides.isReported {τ α : Type} [Quantity τ] {violation : Violation τ}
    (decides : Decides (.error violation : Except (Violation τ) α)) : violation.IsReported := by
  cases violation with
  | misfit cause => exact absurd rfl (decides cause)
  | _ => rfl

end Montage
