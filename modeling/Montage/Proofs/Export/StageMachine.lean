import Montage.Proofs.Export.Progress
import Montage.Proofs.Timeline.Accepted

/-! Every export is a walk through its stages: some of the working ones, from the first on,
then cleaning up and done. What it gives tells how far it came. -/

namespace Montage

variable {τ : Type} [Quantity τ] {observer : Observer} {settings : Settings}
  {timeline : Timeline τ} {output : String} {exportId : Option String} {before : Session}

def Composed (observer : Observer) (settings : Settings) (timeline : Timeline τ)
    (output : String) (exportId : Option String) (before : Session) : Prop :=
  ∃ arguments middle stdout after,
    arrangement observer settings timeline output exportId before = (.ok arguments, middle) ∧
      runTool arguments (some Stage.composing.name) middle = (.ok stdout, after)

theorem composed_iff : Composed observer settings timeline output exportId before ↔
    (exportWork observer settings timeline output exportId before).1 = .ok () := by
  constructor
  · rintro ⟨arguments, middle, stdout, after, arranged, called⟩
    unfold exportWork compose
    rw [run_bind_of_ok arranged, run_bind_of_ok called]
    rfl
  · intro ended
    unfold exportWork compose at ended
    rw [run_bind] at ended
    rcases arranged : arrangement observer settings timeline output exportId before with
      ⟨problem | arguments, middle⟩
    · rw [arranged] at ended
      cases ended
    · rw [arranged] at ended
      dsimp only at ended
      rw [run_bind] at ended
      rcases called : runTool arguments (some Stage.composing.name) middle with
        ⟨problem | stdout, after⟩
      · rw [called] at ended
        cases ended
      · exact ⟨arguments, middle, stdout, after, arranged, called⟩

/-- The way of an export through its stages: some of the working ones, from the first on and
in order, then the last two; and each call is issued in the stage that it is for. -/
structure WalksStages (before after : Session) (entered : List Stage) (trace : List Milestone) :
    Prop where
  some_entered : entered ≠ []
  in_order : entered <+: workingStages
  passed : before.Passed trace after
  last_two : stagesOf trace = entered ++ [.cleaningUp, .done]
  calls_in_stage : ∀ earlier stage command issued later,
    trace = earlier ++ .called stage command issued :: later →
      (stagesOf earlier).getLast? = some stage

structure Tells (result : ExportResult) (entered : List Stage) (composed : Prop)
    (work : Except Problem Unit) : Prop where
  one_of_two : result.outputPath.isSome = result.failure.isNone
  output_iff : result.outputPath.isSome ↔ entered = workingStages ∧ composed
  failure_raised : ∀ failure, result.failure = some failure →
    ∃ raised stage, work = .error (.failure raised) ∧ entered.getLast? = some stage ∧
      failure.kind = raised.kind ∧ failure.message = raised.message ∧
      failure.stage = some stage.name

theorem settled_of_belongsTo {failure : Failure} {entered : List Stage} {stage : Stage}
    (last : entered.getLast? = some stage) (belongs : (Problem.failure failure).BelongsTo stage) :
    settled failure entered = { failure with stage := some stage.name } := by
  unfold settled
  rw [last]
  rcases belongs failure rfl with none | same
  · simp [Failure.during, none]
  · simp [Failure.during, same]

theorem tells_of_concludes {entered : List Stage} {stages : List Stage} {stage : Stage}
    {work : Except Problem Unit} {composed : Prop} {result : ExportResult}
    (composedIff : composed ↔ work = .ok ()) (whole : work = .ok () → entered = workingStages)
    (last : entered.getLast? = some stage) (lastOfAll : stages.getLast? = some stage)
    (belongs : ∀ problem, work = .error problem → problem.BelongsTo stage)
    (concludes : Concludes output stages (.ok result) work) :
    Tells result entered composed work := by
  rcases work with problem | ⟨⟩
  · cases problem with
    | failure raised =>
        rcases concludes with ⟨_, ⟨⟩, noOutput, failed⟩
        rw [settled_of_belongsTo lastOfAll (belongs _ rfl)] at failed
        refine ⟨by rw [noOutput, failed]; rfl, ?_, ?_⟩
        · rw [noOutput, composedIff]
          simp
        · intro failure same
          rw [failed] at same
          cases same
          exact ⟨raised, stage, rfl, last, rfl, rfl, rfl⟩
    | _ => cases concludes
  · rcases concludes with ⟨_, ⟨⟩, hasOutput, noFailure⟩
    refine ⟨by rw [hasOutput, noFailure]; rfl, ?_, ?_⟩
    · rw [hasOutput, composedIff]
      simp [whole rfl]
    · intro failure same
      rw [noFailure] at same
      cases same

/-- Every export walks through its stages, whatever its calls come to. When it gives a result,
that has either a video or a failure: the video exactly when all working stages were entered
and the last call came back well, otherwise the failure that was raised, with the working
stage that was entered last. Several workers are on the schedule of `runPool` here. -/
theorem exportTimeline_runs_stages (quiet : ∀ stage, observer.breaksOff stage = none)
    (settings : Settings) (timeline : Timeline τ) (output : String) (exportId : Option String)
    (before : Session) :
    let exported := exportTimeline observer settings timeline output exportId before
    ∃ entered trace, WalksStages before exported.2 entered trace ∧
      ∀ result, exported.1 = .ok result →
        Tells result entered
          (Composed observer settings timeline output exportId before.reset)
          (exportWork observer settings timeline output exportId before.reset).1 := by
  intro exported
  rcases exportTimeline_eq observer settings timeline output exportId before with
    ⟨workspace, concluded⟩
  rcases exportWork_passes quiet settings timeline output exportId before.reset with
    ⟨trace, worked, keeps, ends⟩
  rcases conclude_passes quiet output exportId workspace
    (exportWork observer settings timeline output exportId before.reset).1
    (exportWork observer settings timeline output exportId before.reset).2 with ⟨passed, concludes⟩
  have reset : before.Passed [] before.reset := Session.passed_of_same rfl rfl rfl
  have last : (Stage.validating :: stagesOf trace).getLast? =
      some (lastStage .validating (stagesOf trace)) := List.getLast?_cons
  refine ⟨.validating :: stagesOf trace,
    .entered .validating :: trace ++ [.entered .cleaningUp, .entered .done],
    ⟨List.cons_ne_nil _ _, ?_, ?_, ?_, ?_⟩, ?_⟩
  · have enteredRest : stagesOf trace <+:
        [.preprocessing, .audioAssembling, .graphBuilding, .composing] := by
      cases worked : (exportWork observer settings timeline output exportId before.reset).1 with
      | ok _ =>
          rw [worked] at ends
          exact ends ▸ List.prefix_rfl
      | error problem =>
          rw [worked] at ends
          exact ends.1
    exact (List.prefix_cons_inj Stage.validating).mpr enteredRest
  · rw [show exported = _ from concluded]
    exact reset.trans (worked.trans passed)
  · exact stagesOf_append (.entered .validating :: trace) _
  · intro earlier stage command issued later whole
    rcases earlier with _ | ⟨first, earlier⟩
    · cases whole
    · have first : Milestone.entered .validating = first := (List.cons.inj whole).1
      have rest : trace ++ [.entered .cleaningUp, .entered .done] =
          earlier ++ .called stage command issued :: later := (List.cons.inj whole).2
      have keepsAll : CallsKeepStage .validating
          (trace ++ [.entered .cleaningUp, .entered .done]) := callsKeepStage_append keeps trivial
      rw [rest] at keepsAll
      rw [← first, ← keepsAll.last_entered]
      exact List.getLast?_cons
  · intro result same
    rw [show exported = _ from concluded] at same
    rw [same] at concludes
    apply tells_of_concludes composed_iff ?_ last ?_ ?_ concludes
    · intro ended
      rw [ended] at ends
      exact congrArg (Stage.validating :: ·) ends
    · rw [worked.stages]
      exact (List.getLast?_append_of_ne_nil _ (List.cons_ne_nil _ _)).trans last
    · intro problem stopped
      rw [stopped] at ends
      exact ends.2

/-- Somebody who cancels once the pictures are to be extracted. -/
theorem exportTimeline_runs_stages_cancelled :
    let observer : Observer := { cancels := fun stage => stage == .preprocessing }
    let session : Session := { host := {}, runner := ({} : Host).newRunner none none }
    let exported := exportTimeline observer {} Timeline.sample "out.mp4" none session
    (∀ stage, observer.breaksOff stage = none) ∧
    ∃ entered trace, WalksStages session exported.2 entered trace ∧
      ∀ result, exported.1 = .ok result →
        Tells result entered
          (Composed observer {} Timeline.sample "out.mp4" none session.reset)
          (exportWork observer {} Timeline.sample "out.mp4" none session.reset).1 :=
  ⟨fun _ => rfl, exportTimeline_runs_stages (fun _ => rfl) {} Timeline.sample "out.mp4" none _⟩

end Montage
