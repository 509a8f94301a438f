import Mathlib.Order.Defs.Unbundled
import Montage.Proofs.Export.StepLaw

/-! Relations in which a step puts what was before to what is after, whether it ends well or
is stopped. -/

namespace Montage

namespace Act

variable {α β : Type}

def Always (step : Act α) (Rel : Session → Session → Prop) : Prop :=
  ∀ before, Rel before (step before).2

namespace Always

variable {Rel Wider : Session → Session → Prop} {step : Act α} {next : α → Act β}

theorem mono (always : step.Always Rel)
    (wider : ∀ {before after}, Rel before after → Wider before after) : step.Always Wider :=
  fun before => wider (always before)

/-! ## Steps that change nothing -/

section

variable [Std.Refl Rel]

theorem pure (value : α) : (Pure.pure value : Act α).Always Rel :=
  fun before => Std.Refl.refl before

theorem throw (problem : Problem) : (MonadExcept.throw problem : Act α).Always Rel :=
  fun before => Std.Refl.refl before

end

/-! ## Steps after each other -/

section

variable [IsTrans Session Rel]

theorem bind (first : step.Always Rel) (second : ∀ value, (next value).Always Rel) :
    (step >>= next).Always Rel := by
  intro before
  have early := first before
  rw [run_bind]
  rcases ran : step before with ⟨problem | value, middle⟩
  · rw [ran] at early
    exact early
  · rw [ran] at early
    exact IsTrans.trans _ _ _ early (second value middle)

end

variable [IsPreorder Session Rel]

theorem getThe {next : Session → Act β} (rest : ∀ session, (next session).Always Rel) :
    (MonadStateOf.get >>= next).Always Rel :=
  bind (fun before => Std.Refl.refl before) rest

theorem sequence : SequenceLaw fun step => step.Always Rel where
  pure := .pure
  throw := .throw
  bind := fun early late => early.bind late

theorem ofExcept {ε : Type} (toProblem : ε → Problem) (result : Except ε α) :
    (Act.ofExcept toProblem result).Always Rel :=
  sequence.ofExcept toProblem result

theorem takeJob (state : PoolState α) {job : Act (Option α)} (always : job.Always Rel) :
    (state.takeJob job).Always Rel := by
  unfold PoolState.takeJob
  split
  · exact pure _
  · intro before
    have changed := always before
    dsimp only
    rcases ran : job before with ⟨problem | result, after⟩
    · rw [ran] at changed
      exact changed
    · rw [ran] at changed
      exact changed

theorem runJobs (workers : Int) {jobs : List (Act (Option α))}
    (each : ∀ job ∈ jobs, job.Always Rel) : (Montage.runJobs workers jobs).Always Rel :=
  sequence.runJobs workers takeJob each

end Always

end Act

/-! ## Entering a stage -/

def Observer.interrupt (observer : Observer) (stage : Stage) : Act Unit :=
  match observer.breaksOff stage with
  | some problem => throw problem
  | none => pure ()

/-- Entering a stage is marking, logging and printing it, then whatever its observer does. What
holds of all of these, and of steps after each other, holds of entering a stage. -/
theorem enterStage_induction (Holds : Act Unit → Prop)
    (bind : ∀ {step : Act Unit} {next : Unit → Act Unit}, Holds step →
      (∀ value, Holds (next value)) → Holds (step >>= next))
    (marks : ∀ stage, Holds (modify fun session : Session =>
      { session with stages := session.stages ++ [stage] }))
    (logs : ∀ message, Holds (Act.writeLog .info "pipeline" message))
    (prints : ∀ line, Holds (Act.changeHost (·.print line)))
    (cancels : Holds (Act.change fun session => ((), session.cancel)))
    (breaks : ∀ problem, Holds (throw problem)) (rests : Holds (pure ())) (observer : Observer)
    (stage : Stage) : Holds (enterStage observer stage) := by
  have ends : Holds (observer.interrupt stage) := by
    unfold Observer.interrupt
    cases observer.breaksOff stage with
    | none => exact rests
    | some problem => exact breaks problem
  unfold enterStage
  refine bind (marks stage) fun _ => bind (logs _) fun _ => ?_
  cases observer.line stage with
  | none =>
      cases observer.cancels stage with
      | false => exact ends
      | true => exact bind cancels fun _ => ends
  | some line =>
      refine bind (prints line) fun _ => ?_
      cases observer.cancels stage with
      | false => exact ends
      | true => exact bind cancels fun _ => ends

end Montage
