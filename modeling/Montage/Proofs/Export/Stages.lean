import Montage.Proofs.Export.Trace

/-! The stages that the steps of an export go through. A step that is stopped has entered
some of its stages, from the first one on; the failure that stopped it has no stage yet, or
that in which it arose. -/

namespace Montage

variable {α β : Type}

def Problem.BelongsTo (problem : Problem) (stage : Stage) : Prop :=
  ∀ failure, problem = .failure failure →
    failure.stage = none ∨ failure.stage = some stage.name

def EndsWith (current : Stage) (stages entered : List Stage) : Except Problem α → Prop
  | .ok _ => entered = stages
  | .error problem =>
      entered <+: stages ∧ problem.BelongsTo (lastStage current entered)

theorem Problem.belongsTo_of_stage {failure : Failure} {stage : Stage}
    (same : failure.stage = some stage.name) : (Problem.failure failure).BelongsTo stage := by
  rintro other ⟨⟩
  exact .inr same

theorem belongsTo_of_callResult {stage : Stage} {timeout : Option Float} {command : Command}
    {begun : Session.Begun × Session} {problem : Problem}
    (stopped : (callResult (some stage.name) timeout command begun).1 = .error problem) :
    problem.BelongsTo stage := by
  rcases begun with ⟨_ | _ | ⟨index, course⟩, session⟩
  · cases stopped
    exact Problem.belongsTo_of_stage rfl
  · cases stopped
    exact Problem.belongsTo_of_stage rfl
  · simp only [callResult] at stopped
    rcases waited : (session.await index command course).1 with reason | exit
    · rw [waited] at stopped
      cases stopped
      rcases reason with _ | _ | _
      · exact Problem.belongsTo_of_stage rfl
      · exact fun _ same => by cases same
      · exact fun _ same => by cases same
    · simp only [waited, waitResult, exitResult] at stopped
      split at stopped
      · cases stopped
        exact Problem.belongsTo_of_stage rfl
      · split at stopped
        · cases stopped
          exact Problem.belongsTo_of_stage rfl
        · cases stopped

namespace Act

/-- From the current stage a step enters the given ones, and issues every call for the stage
that it is in. -/
def Enters (step : Act α) (current : Stage) (stages : List Stage) : Prop :=
  ∀ before, ∃ trace, before.Passed trace (step before).2 ∧ CallsKeepStage current trace ∧
    EndsWith current stages (stagesOf trace) (step before).1

namespace Enters

variable {step : Act α} {next : α → Act β} {current : Stage} {stages more : List Stage}

theorem bind (first : step.Enters current stages)
    (second : ∀ value, (next value).Enters (lastStage current stages) more) :
    (step >>= next).Enters current (stages ++ more) := by
  intro before
  rcases first before with ⟨trace, passed, keeps, ends⟩
  rw [run_bind]
  rcases ran : step before with ⟨problem | value, middle⟩
  · rw [ran] at passed ends
    exact ⟨trace, passed, keeps, ends.1.trans (List.prefix_append stages more), ends.2⟩
  · rw [ran] at passed ends
    have entered : stagesOf trace = stages := ends
    rcases second value middle with ⟨rest, restPassed, restKeeps, restEnds⟩
    refine ⟨trace ++ rest, passed.trans restPassed, ?_, ?_⟩
    · rw [← entered] at restKeeps
      exact callsKeepStage_append keeps restKeeps
    · rw [stagesOf_append, entered]
      dsimp only
      cases result : (next value middle).1 with
      | ok last =>
          rw [result] at restEnds
          exact congrArg (stages ++ ·) restEnds
      | error problem =>
          rw [result] at restEnds
          refine ⟨(List.prefix_append_right_inj stages).mpr restEnds.1, ?_⟩
          rw [lastStage_append]
          exact restEnds.2

theorem andThen (first : step.Enters current [])
    (second : ∀ value, (next value).Enters current stages) :
    (step >>= next).Enters current stages :=
  first.bind second

theorem ofUnseen (unseen : ∀ before : Session, before.Passed [] (step before).2)
    (belongs : ∀ before problem, (step before).1 = .error problem → problem.BelongsTo current) :
    step.Enters current [] := by
  intro before
  refine ⟨[], unseen before, trivial, ?_⟩
  cases result : (step before).1 with
  | ok value => rfl
  | error problem => exact ⟨List.prefix_rfl, belongs before problem result⟩

theorem pure (value : α) : (Pure.pure value : Act α).Enters current [] :=
  ofUnseen (fun before => .refl before) fun _ _ same => nomatch same

theorem throw {problem : Problem} (belongs : problem.BelongsTo current) :
    (MonadExcept.throw problem : Act α).Enters current [] :=
  ofUnseen (fun before => .refl before) fun _ _ same => Except.error.inj same ▸ belongs

theorem ofExcept {ε : Type} {toProblem : ε → Problem} {result : Except ε α}
    (belongs : ∀ error, result = .error error → (toProblem error).BelongsTo current) :
    (Act.ofExcept toProblem result).Enters current [] := by
  cases result with
  | ok value => exact pure value
  | error error => exact throw (belongs error rfl)

theorem writeLog {level : LogLevel} {part : String} (message : String)
    (ordinary : LogLine.isMilestone ⟨level, part, message⟩ = false) :
    (Act.writeLog level part message).Enters current [] :=
  ofUnseen (fun before => before.passed_writeLog level part message ordinary)
    fun _ _ same => nomatch same

theorem getThe {next : Session → Act β} (rest : ∀ session, (next session).Enters current stages) :
    (MonadStateOf.get >>= next).Enters current stages :=
  andThen (ofUnseen (fun before => .refl before) fun _ _ same => nomatch same) rest

theorem onHost {step : Host → Except Problem α × Host}
    (keeps : ∀ host : Host, (step host).2.log.filter LogLine.isMilestone =
      host.log.filter LogLine.isMilestone ∧ (step host).2.calls = host.calls)
    (belongs : ∀ host problem, (step host).1 = .error problem → problem.BelongsTo current) :
    (Act.onHost step).Enters current [] := by
  apply ofUnseen
  · intro before
    refine ⟨(List.append_nil _).symm, ?_, ?_⟩
    · exact (keeps before.host).1.trans (List.append_nil _).symm
    · exact (keeps before.host).2.trans (List.append_nil _).symm
  · exact fun before => belongs before.host

theorem mapM {job : β → Act α} {items : List β}
    (each : ∀ item ∈ items, (job item).Enters current []) :
    (items.mapM job).Enters current [] := by
  induction items with
  | nil =>
      rw [List.mapM_nil]
      exact pure []
  | cons item rest induction =>
      have restEnters := induction fun other member => each other (List.mem_cons_of_mem item member)
      rw [List.mapM_cons]
      exact (each item List.mem_cons_self).andThen fun value =>
        restEnters.andThen fun values => pure _

theorem forM {job : β → Act PUnit} {items : List β} (each : ∀ item, (job item).Enters current []) :
    (items.forM job).Enters current [] := by
  induction items with
  | nil => exact pure _
  | cons item rest induction => exact (each item).andThen fun _ => induction

/-! ## Calls -/

theorem runTool (arguments : List String) :
    (Montage.runTool arguments (some current.name)).Enters current [] := by
  intro before
  rcases runTool_passed arguments current before with ⟨issued, passed⟩
  refine ⟨_, passed, ⟨rfl, trivial⟩, ?_⟩
  cases result : (Montage.runTool arguments (some current.name) before).1 with
  | ok stdout => rfl
  | error problem =>
      rw [runTool_eq] at result
      exact ⟨List.prefix_rfl, belongsTo_of_callResult result⟩

/-! ## Jobs -/

def Stays (step : Act α) (current : Stage) (Holds : α → Prop) : Prop :=
  ∀ before, ∃ value trace, (step before).1 = .ok value ∧ before.Passed trace (step before).2 ∧
    CallsKeepStage current trace ∧ stagesOf trace = [] ∧ Holds value

def FailureBelongs (current : Stage) (state : PoolState α) : Prop :=
  ∀ problem, state.failure = some problem → problem.BelongsTo current

theorem takeJob {job : Act (Option α)} (enters : job.Enters current []) {state : PoolState α}
    (belongs : FailureBelongs current state) :
    Stays (state.takeJob job) current (FailureBelongs current) := by
  intro before
  unfold PoolState.takeJob
  by_cases failed : state.failure.isSome = true
  · rw [if_pos failed]
    exact ⟨_, [], rfl, .refl before, trivial, rfl, belongs⟩
  · rw [if_neg failed]
    rcases enters before with ⟨trace, passed, keeps, ends⟩
    rcases result : job before with ⟨problem | value, after⟩
    · rw [result] at passed ends
      have stays : stagesOf trace = [] := List.prefix_nil.mp ends.1
      have belongsNow := ends.2
      rw [stays] at belongsNow
      refine ⟨_, trace, rfl, passed, keeps, stays, ?_⟩
      rintro other ⟨⟩
      exact belongsNow
    · rw [result] at passed ends
      exact ⟨_, trace, rfl, passed, keeps, ends, belongs⟩

theorem takeJobs {jobs : List (Act (Option α))} (each : ∀ job ∈ jobs, job.Enters current []) :
    ∀ (state : PoolState α), FailureBelongs current state →
      Stays (jobs.foldlM PoolState.takeJob state) current (FailureBelongs current) := by
  induction jobs with
  | nil => exact fun _ belongs before => ⟨_, [], rfl, .refl before, trivial, rfl, belongs⟩
  | cons job rest induction =>
      intro state belongs before
      have restEach : ∀ job ∈ rest, job.Enters current [] :=
        fun other member => each other (List.mem_cons_of_mem job member)
      rcases takeJob (each job List.mem_cons_self) belongs before with
        ⟨middle, first, took, passed, keeps, stays, middleBelongs⟩
      have taken : state.takeJob job before = (.ok middle, (state.takeJob job before).2) :=
        Prod.ext took rfl
      rw [List.foldlM_cons, run_bind_of_ok taken]
      rcases induction restEach middle middleBelongs (state.takeJob job before).2 with
        ⟨done, trace, ran, restPassed, restKeeps, restStays, doneBelongs⟩
      refine ⟨done, first ++ trace, ran, passed.trans restPassed, ?_, ?_, doneBelongs⟩
      · apply callsKeepStage_append keeps
        rw [stays]
        exact restKeeps
      · rw [stagesOf_append, stays, restStays]
        rfl

theorem runPool {jobs : List (Act (Option α))} (each : ∀ job ∈ jobs, job.Enters current []) :
    (Montage.runPool jobs).Enters current [] := by
  intro before
  rcases takeJobs each {} (fun _ same => nomatch same) before with
    ⟨done, trace, ran, passed, keeps, stays, belongs⟩
  have all : jobs.foldlM PoolState.takeJob {} before =
      (.ok done, (jobs.foldlM PoolState.takeJob {} before).2) := Prod.ext ran rfl
  unfold Montage.runPool
  rw [run_bind_of_ok all]
  refine ⟨trace, ?_, keeps, ?_⟩
  · cases done.failure <;> exact passed
  · rw [stays]
    cases failure : done.failure with
    | none => rfl
    | some problem => exact ⟨List.prefix_rfl, belongs problem failure⟩

theorem runJobs (workers : Int) {jobs : List (Act (Option α))}
    (each : ∀ job ∈ jobs, job.Enters current []) :
    (Montage.runJobs workers jobs).Enters current [] := by
  unfold Montage.runJobs
  split
  · exact mapM each
  · exact runPool each

end Enters

end Act

end Montage
