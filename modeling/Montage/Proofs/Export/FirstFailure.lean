import Montage.Proofs.Export.Alone

/-! An export ends with its first command that does not go well. Up to that it issues what it
would issue if every command went well and left its file. -/

namespace Montage

open Session

variable {τ : Type} [Quantity τ] {observer : Observer} {settings : Settings}

/-! ## Up to the directory of the output -/

theorem arrangePlan_inStep (inTurn : settings.workers ≤ 1) (observer : Observer)
    (checked : CheckedTimeline τ) (workspace : Workspace) :
    (arrangePlan observer settings checked workspace).InStep := by
  have law := Act.InStep.law observer inTurn
  refine law.bind (law.enterStage .preprocessing) fun _ => ?_
  refine law.bind (law.extractAll id _ _ workspace) fun mainAssets => ?_
  refine law.bind (law.extractAll Layer.clip _ _ workspace) fun layerAssets => ?_
  refine law.bind (law.enterStage .audioAssembling) fun _ => ?_
  refine law.bind (law.assembleSound checked workspace settings) fun audio => ?_
  refine law.bind (law.enterStage .graphBuilding) fun _ => ?_
  refine law.bind (law.planComposition checked settings mainAssets layerAssets audio) fun _ => ?_
  refine law.bind (law.writeLog "pipeline" _ (by decide)) fun _ => ?_
  exact law.bind (law.enterStage .composing) fun _ => law.pure _

/-! ## Before there is a workspace -/

namespace Session

theorem cancel_withScript (session : Session) (script : Nat → Command → Outcome) :
    (session.withScript script).cancel = session.cancel.withScript script := by
  cases known : session.runner.inFlight with
  | none => simp only [cancel, withScript, updateHost, known]
  | some index =>
      simp only [cancel, withScript, updateHost, known, isRunning, Host.addEvent]
      cases session.host.processes[index]? == some .running <;> rfl

end Session

def Act.IgnoresScript {α : Type} (step : Act α) : Prop :=
  ∀ session script, step (session.withScript script) =
    ((step session).1, (step session).2.withScript script)

namespace Act.IgnoresScript

variable {α β : Type} {step : Act α} {next : α → Act β}

theorem bind (early : step.IgnoresScript) (late : ∀ value, (next value).IgnoresScript) :
    (step >>= next).IgnoresScript := by
  intro session script
  rw [run_bind, run_bind, early session script]
  rcases step session with ⟨problem | value, after⟩
  · rfl
  · exact late value after script

theorem enterStage (observer : Observer) (stage : Stage) :
    (Montage.enterStage observer stage).IgnoresScript := by
  apply enterStage_induction Act.IgnoresScript
  case bind => exact fun early late => early.bind late
  case marks => exact fun _ _ _ => rfl
  case logs => exact fun _ _ _ => rfl
  case prints => exact fun _ _ _ => rfl
  case cancels => exact fun session script => Prod.ext rfl (session.cancel_withScript script)
  case breaks => exact fun _ _ _ => rfl
  case rests => exact fun _ _ => rfl

theorem acquire (id root : Option String) :
    (Act.onHost (Workspace.acquire id root)).IgnoresScript := by
  intro session script
  have made (exportId : String) (host : Host) :
      Workspace.make exportId root { host with script } =
        ((Workspace.make exportId root host).1,
          { (Workspace.make exportId root host).2 with script }) := by
    unfold Workspace.make
    cases Workspace.isPlainId exportId with
    | false => rfl
    | true =>
        dsimp only
        rcases host.tree.makeNewDirectory host.workingPlace
          (Workspace.pathOf (root.getD host.temporaryRoot) exportId) with ⟨fault | _, tree⟩
        · cases fault <;> rfl
        · rfl
  have chosen : Host.chooseId { session.host with script } id =
      ((session.host.chooseId id).1, { (session.host.chooseId id).2 with script }) := by
    unfold Host.chooseId
    cases id with
    | none => rfl
    | some given =>
        dsimp only
        split <;> rfl
  have acquired : Workspace.acquire id root { session.host with script } =
      ((Workspace.acquire id root session.host).1,
        { (Workspace.acquire id root session.host).2 with script }) := by
    rw [Workspace.acquire, chosen]
    exact made _ _
  simp only [Act.onHost, withScript, updateHost, acquired]

end Act.IgnoresScript

/-! ## The work of an export -/

/-- Commands that were issued, beside those that would have been if every one went well and left
its file. They are the first of those. Only where that ends with a fault of a file, and some
command has left none, one more can have been issued. -/
def Session.KeepsToPlan {α : Type} (first : Session) (issued planned : List Command)
    (whole : Except Problem α) : Prop :=
  issued <+: planned ∨ ∃ fault command, whole = .error (.file fault) ∧
    issued = planned ++ [command] ∧
    ∃ outcome ∈ first.outcomes planned, outcome.leavesFile = false

structure Session.Compares {α : Type} (first : Session) (issued planned : List Command)
    (run whole : Except Problem α × Session) : Prop where
  issues : run.2.host.calls = first.host.calls ++ issued
  plans : whole.2.host.calls = first.host.calls ++ planned
  keeps : first.KeepsToPlan issued planned whole.1
  ends : first.AllSucceed issued ∨ ∃ problem, run.1 = .error problem ∧ first.EndsWith issued problem

variable {first behind ahead : Session} {issued : List Command}

theorem Session.Goes.compares {α : Type} {run whole : Except Problem α × Session}
    (goes : first.Goes run whole) : ∃ issued planned, first.Compares issued planned run whole := by
  cases goes with
  | on trails =>
      exact ⟨_, _, trails.calls, trails.sameCalls.trans trails.calls, .inl List.prefix_rfl,
        .inl trails.succeeded⟩
  | stops stopped further =>
      rcases stopped with ⟨issued, calls, ends⟩
      rcases further with ⟨rest, more⟩
      refine ⟨issued, issued ++ rest, calls, ?_, .inl (List.prefix_append _ _), ?_⟩
      · rw [← more, calls, List.append_assoc]
      · exact ends.imp id fun last => ⟨_, rfl, last⟩

theorem runTool_calls_prefix (arguments : List String) (stage : Option String)
    (before : Session) :
    (runTool arguments stage before).2.host.calls <+:
      before.host.calls ++ [before.runner.binary :: arguments] := by
  cases cancelled : before.runner.cancelled with
  | true =>
      rw [runTool_of_cancelled arguments stage cancelled]
      exact List.prefix_append _ _
  | false =>
      rcases runTool_of_not_cancelled arguments stage cancelled with ⟨after, ran, comes⟩
      rw [ran]
      exact comes.calls ▸ List.prefix_rfl

theorem compose_session (arguments : List String) (session : Session) :
    (compose arguments session).2 =
      (runTool arguments (some Stage.composing.name) session).2 := by
  unfold compose
  rw [run_bind]
  rcases runTool arguments (some Stage.composing.name) session with ⟨problem | value, after⟩ <;> rfl

/-- The last call, when both have come to it. -/
theorem Session.Paces.compares_compose (paces : Paces first issued behind ahead)
    (arguments : List String) :
    ∃ issued planned, first.Compares issued planned (compose arguments behind)
      (compose arguments ahead) := by
  rcases paces.runTool arguments .composing with
    ⟨succeeds, _, _, own, _, _, ran, ranAhead, ownSucceeds, leaves, comes, comesAhead⟩ |
    ⟨problem, after, ran, stopped, further⟩
  · have after := paces.after_ran rfl succeeds ownSucceeds comes comesAhead
    unfold compose
    rw [run_bind_of_ok ran, run_bind_of_ok ranAhead]
    exact ⟨_, _, after.calls, after.sameCalls.trans after.calls, .inl List.prefix_rfl,
      .inl after.succeeded⟩
  · rw [show compose arguments behind = (.error problem, after) from run_bind_of_error ran _]
    rw [← compose_session] at further
    exact (Goes.stops stopped further).compares

/-! ## The last steps -/

theorem lastSteps_issuesMore (output : String) (written : Except Misfit (List String)) :
    (lastSteps output written).Always IssuesMore := by
  have makes : (makeOutputDirectory output).Always IssuesMore := by
    intro before
    rw [makeOutputDirectory_run]
    exact List.prefix_rfl
  exact makes.bind fun _ => (Act.Always.ofExcept _ _).bind fun _ =>
    (runTool_issuesMore _ _).bind fun _ => .pure _

theorem lastSteps_of_unmade {output : String} {session : Session}
    (fails : ¬ makesDirectory session.host output session.host.tree)
    (written : Except Misfit (List String)) :
    ∃ fault tree, lastSteps output written session =
      (.error (.file fault), session.withTree tree) := by
  unfold lastSteps
  rw [run_bind, makeOutputDirectory_run]
  unfold makesDirectory at fails
  dsimp only at fails
  generalize
    FileTree.makeDirectories session.host.workingPlace _ _ session.host.tree = made at fails
  rcases made with ⟨fault | ⟨⟩, tree⟩
  · exact ⟨fault, tree, rfl⟩
  · exact absurd rfl fails

theorem lastSteps_of_unwritten {output : String} {session : Session}
    (made : makesDirectory session.host output session.host.tree) (misfit : Misfit) :
    ∃ tree, lastSteps output (.error misfit) session =
      (.error (.misfit misfit), session.withTree tree) := by
  unfold lastSteps
  rw [run_bind, makeOutputDirectory_run]
  unfold makesDirectory at made
  dsimp only at made
  generalize FileTree.makeDirectories session.host.workingPlace _ _ session.host.tree = ran at made
  rcases ran with ⟨fault | ⟨⟩, tree⟩
  · cases made
  · exact ⟨tree, rfl⟩

/-- When the directory of the output is made in the session behind and cannot be made in the one
ahead, the one behind issues the last call and the other does not. -/
theorem Session.Trails.compares_overrun (trails : Trails first issued behind ahead)
    (differs : ahead.host.tree ≠ behind.host.tree) (arguments : List String)
    (made madeAhead : FileTree) (fault : FileFault) :
    ∃ issued planned, first.Compares issued planned (compose arguments (behind.withTree made))
      (.error (.file fault), ahead.withTree madeAhead) := by
  let command := behind.runner.binary :: arguments
  have paces := trails.toPaces.withTree made madeAhead
  have plans : (ahead.withTree madeAhead).host.calls = first.host.calls ++ issued :=
    paces.sameCalls.trans paces.calls
  have overruns : first.KeepsToPlan (α := Unit) (issued ++ [command]) issued
      (.error (.file fault)) := by
    refine .inr ⟨fault, command, rfl, rfl, ?_⟩
    by_contra none
    push Not at none
    exact differs (trails.same fun outcome member => eq_true_of_ne_false (none outcome member))
  rcases paces.runTool arguments .composing with
    ⟨succeeds, _, after, own, _, _, ran, _, ownSucceeds, leaves, comes, comesAhead⟩ |
    ⟨problem, after, ran, ⟨more, moreCalls, ends⟩, _⟩
  · have paced := paces.after_ran rfl succeeds ownSucceeds comes comesAhead
    rw [show compose arguments (behind.withTree made) = (.ok (), after) from run_bind_of_ok ran _]
    exact ⟨_, _, paced.calls, plans, overruns, .inl paced.succeeded⟩
  · rw [show compose arguments (behind.withTree made) = (.error problem, after) from
      run_bind_of_error ran _]
    refine ⟨more, issued, moreCalls, plans, ?_, ends.imp id fun last => ⟨problem, rfl, last⟩⟩
    have few := runTool_calls_prefix arguments (some Stage.composing.name) (behind.withTree made)
    rw [ran, paces.calls] at few
    dsimp only at few
    rw [moreCalls, List.append_assoc, List.prefix_append_right_inj] at few
    rcases List.prefix_concat_iff.mp few with whole | part
    · rw [whole]
      exact overruns
    · exact .inl part

theorem Session.Trails.compares_lastSteps (trails : Trails first issued behind ahead)
    (output : String) (written : Except Misfit (List String)) :
    ∃ issued planned, first.Compares issued planned (lastSteps output written behind)
      (lastSteps output written ahead) := by
  rcases written with misfit | arguments
  · obtain ⟨problem, made, ran⟩ : ∃ problem made, lastSteps output (.error misfit) behind =
        (.error problem, behind.withTree made) := by
      by_cases makes : makesDirectory behind.host output behind.host.tree
      · exact ⟨_, lastSteps_of_unwritten makes misfit⟩
      · rcases lastSteps_of_unmade makes (.error misfit) with ⟨fault, stopped⟩
        exact ⟨_, stopped⟩
    rw [ran]
    have stopped := (trails.toPaces.withTree made made).stoppedBy problem
    refine (Goes.stops stopped ?_).compares
    rw [show (behind.withTree made).host.calls = ahead.host.calls from trails.sameCalls.symm]
    exact lastSteps_issuesMore output (.error misfit) ahead
  let directory := (Path.ofText output).parent
  have ran (session : Session) {result : Except FileFault Unit} {made : FileTree}
      (making : FileTree.makeDirectories session.host.workingPlace directory.parts.length
        directory session.host.tree = (result, made)) :
      makeOutputDirectory output session = (result.mapError .file, session.withTree made) := by
    rw [makeOutputDirectory_run, making]
  rcases making : FileTree.makeDirectories behind.host.workingPlace directory.parts.length
    directory behind.host.tree with ⟨fault | _, made⟩
  · rw [show lastSteps output (.ok arguments) behind =
        (.error (.file fault), behind.withTree made) from
      run_bind_of_error (ran behind making) _]
    have stopped := (trails.toPaces.withTree made made).stoppedBy (.file fault)
    refine (Goes.stops stopped ?_).compares
    rw [show (behind.withTree made).host.calls = ahead.host.calls from trails.sameCalls.symm]
    exact lastSteps_issuesMore output (.ok arguments) ahead
  · rw [show lastSteps output (.ok arguments) behind = compose arguments (behind.withTree made) from
      run_bind_of_ok (ran behind making) _]
    rcases makingAhead : FileTree.makeDirectories ahead.host.workingPlace directory.parts.length
      directory ahead.host.tree with ⟨fault | _, madeAhead⟩
    · rw [show lastSteps output (.ok arguments) ahead =
        (.error (.file fault), ahead.withTree madeAhead) from
          run_bind_of_error (ran ahead makingAhead) _]
      refine trails.compares_overrun (fun same => ?_) arguments made madeAhead fault
      rw [trails.workingPlace, same, making] at makingAhead
      cases makingAhead
    · rw [show lastSteps output (.ok arguments) ahead =
          compose arguments (ahead.withTree madeAhead) from
        run_bind_of_ok (ran ahead makingAhead) _]
      exact (trails.toPaces.withTree made madeAhead).compares_compose arguments

theorem produce_compares (inTurn : settings.workers ≤ 1)
    (trails : Trails first issued behind ahead) (observer : Observer)
    (checked : CheckedTimeline τ) (workspace : Workspace) (output : String) :
    let work := produce observer settings checked workspace output
    ∃ issued planned, first.Compares issued planned (work behind) (work ahead) := by
  intro work
  have both := (arrangePlan_inStep inTurn observer checked workspace).goes trails
  rw [show work = _ from produce_eq observer settings checked workspace output, run_bind, run_bind]
  generalize arrangePlan observer settings checked workspace behind = here,
    arrangePlan observer settings checked workspace ahead = there at both
  cases both with
  | on trails => exact trails.compares_lastSteps output _
  | stops stopped further =>
      refine (Goes.stops stopped (further.trans ?_)).compares
      rcases there with ⟨problem | planned, after⟩
      · exact List.prefix_rfl
      · exact lastSteps_issuesMore output _ after

/-! ## The whole work -/

theorem exportWork_eq_produce (observer : Observer) (settings : Settings) (timeline : Timeline τ)
    (output : String) (exportId : Option String) :
    exportWork observer settings timeline output exportId = (do
      enterStage observer .validating
      let checked ← Act.ofExcept Problem.ofViolation timeline.check
      let workspace ← Act.onHost (Workspace.acquire exportId settings.workspaceRoot)
      produce observer settings checked workspace output) :=
  exportWork_eq observer settings timeline output exportId

variable {script : Nat → Command → Outcome}

theorem Session.trails_withScript (session : Session)
    (delivers : (session.withScript script).host.AlwaysDelivers) :
    Trails session [] session (session.withScript script) :=
  ⟨⟨(List.append_nil _).symm, rfl, rfl, session.allSucceed_nil, rfl, rfl, rfl, rfl, delivers⟩,
    .refl _, fun _ => rfl⟩

/-- What becomes of the machine is the same in both, whatever the commands. -/
theorem Session.Trails.withHost {session : Session} {host : Host}
    (trails : Trails first issued session (session.withScript script))
    (world : session.host.SameWorld host) :
    Trails first issued { session with host } (withScript { session with host } script) where
  calls := world.calls.trans trails.calls
  script := world.script.trans trails.script
  timeout := trails.timeout
  succeeded := trails.succeeded
  sameCalls := rfl
  binary := rfl
  cancelled := rfl
  workingPlace := rfl
  delivers := trails.delivers
  covers := .refl _
  same := fun _ => rfl

theorem exportWork_compares (inTurn : settings.workers ≤ 1) (observer : Observer)
    (timeline : Timeline τ) (output : String) (exportId : Option String) (before : Session)
    (delivers : (before.withScript script).host.AlwaysDelivers) :
    let work := exportWork observer settings timeline output exportId
    ∃ issued planned, before.Compares issued planned (work before)
      (work (before.withScript script)) := by
  intro work
  have entering := (Act.InStep.enterStage observer .validating).goes
    (before.trails_withScript delivers)
  have entersToo := Act.IgnoresScript.enterStage observer .validating before script
  have parts : work = _ := exportWork_eq_produce observer settings timeline output exportId
  rw [parts, run_bind, run_bind, entersToo]
  rw [entersToo] at entering
  generalize enterStage observer .validating before = here at entering
  rcases here with ⟨problem | ⟨⟩, entered⟩
  · cases entering with
    | stops stopped further => exact (Goes.stops stopped further).compares
  · generalize aheadIs : entered.withScript script = ahead at entering
    cases entering with
    | on trails =>
      subst aheadIs
      cases passes : timeline.check with
      | error violation =>
          exact (Goes.stops (trails.stoppedBy _) (trails.sameCalls ▸ List.prefix_rfl)).compares
      | ok checked =>
          let acquiring := Act.onHost (Workspace.acquire exportId settings.workspaceRoot)
          have after : Trails before _ (acquiring entered).2
              ((acquiring entered).2.withScript script) :=
            trails.withHost
              (Workspace.acquire_sameWorld exportId settings.workspaceRoot entered.host)
          have acquiresToo : acquiring (entered.withScript script) =
              ((acquiring entered).1, (acquiring entered).2.withScript script) :=
            Act.IgnoresScript.acquire exportId settings.workspaceRoot entered script
          simp only [Act.ofExcept, pure_bind]
          rw [run_bind acquiring, run_bind acquiring, acquiresToo]
          generalize acquiring entered = acquired at after
          rcases acquired with ⟨problem | workspace, made⟩
          · exact (Goes.stops (after.stoppedBy _) (after.sameCalls ▸ List.prefix_rfl)).compares
          · exact produce_compares inTurn after observer checked workspace output

/-! ## The whole export -/

def Reports (exported : Except Problem ExportResult) : Problem → Prop
  | .failure failure => ∃ result, exported = .ok result ∧ result.outputPath = none ∧
      result.failure = some failure
  | problem => exported = .error problem

/-- An export beside the same one when every command goes well and leaves its file. If one of
its commands did not go well, that was the last, and what it gave is what the export reports. -/
structure StopsAtFailure (before : Session) (issued planned : List Command)
    (run whole : Except Problem ExportResult × Session) : Prop where
  issues : run.2.host.calls = before.host.calls ++ issued
  plans : whole.2.host.calls = before.host.calls ++ planned
  keeps : before.KeepsToPlan issued planned whole.1
  ends : before.AllSucceed issued ∨
    ∃ problem, Reports run.1 problem ∧ before.EndsWith issued problem

theorem stage_of_answer {limit : Option Float} {name : String} {outcome : Outcome}
    {failure : Failure} (gives : outcome.answer limit (some name) = .error (.failure failure)) :
    failure.stage = some name := by
  have ofBreak {cause : WaitBreak} (broken : waitProblem limit (some name) cause =
      .failure failure) : failure.stage = some name := by
    cases cause <;> cases broken
    rfl
  rcases outcome with reason | exit | cause | ⟨moment, exit⟩ | cause
  case starts.exits =>
    change exitResult exit false (some name) = _ at gives
    unfold exitResult at gives
    split at gives
    · cases gives
      rfl
    · split at gives
      · cases gives
        rfl
      · cases gives
  case starts.breaksOff | starts.isCancelledLate => exact ofBreak (Except.error.inj gives)
  case cannotStart | starts.isCancelled =>
    cases gives
    rfl

theorem settled_of_stage {failure : Failure} {name : String} (stage : failure.stage = some name)
    (entered : List Stage) : settled failure entered = failure := by
  rcases failure with ⟨kind, message, _ | own⟩
  · cases stage
  · unfold settled
    split <;> rfl

theorem reports_of_endsWith {output : String} {entered : List Stage}
    {exported : Except Problem ExportResult} {problem : Problem}
    (concludes : Concludes output entered exported (.error problem))
    (ends : first.EndsWith issued problem) : Reports exported problem := by
  rcases ends with ⟨_, last, _, _, stage, gives⟩
  cases problem with
  | failure failure =>
      rcases concludes with ⟨result, given, noOutput, failed⟩
      rw [settled_of_stage (stage_of_answer gives)] at failed
      exact ⟨result, given, noOutput, failed⟩
  | _ => exact concludes

theorem exportTimeline_concludes (quiet : ∀ stage, observer.breaksOff stage = none)
    (settings : Settings) (timeline : Timeline τ) (output : String) (exportId : Option String)
    (before : Session) :
    let exported := exportTimeline observer settings timeline output exportId before
    let work := exportWork observer settings timeline output exportId before.reset
    exported.2.host.calls = work.2.host.calls ∧
      ∃ entered, Concludes output entered exported.1 work.1 := by
  intro exported work
  rcases exportTimeline_eq observer settings timeline output exportId before with
    ⟨held, concluded⟩
  rcases conclude_passes quiet output exportId held work.1 work.2 with ⟨ended, concludes⟩
  rw [show exported = _ from concluded]
  exact ⟨ended.calls.trans (List.append_nil _), _, concludes⟩

/-- Up to its first command that does not go well, an export issues what it would issue if every
one did; that command is the last. -/
theorem exportTimeline_stops_at_failure (quiet : ∀ stage, observer.breaksOff stage = none)
    (inTurn : settings.workers ≤ 1) (timeline : Timeline τ) (output : String)
    (exportId : Option String) (before : Session)
    (delivers : (before.withScript script).host.AlwaysDelivers) :
    let exporting := exportTimeline observer settings timeline output exportId
    ∃ issued planned, StopsAtFailure before issued planned (exporting before)
      (exporting (before.withScript script)) := by
  intro exporting
  let work := exportWork observer settings timeline output exportId
  rcases exportWork_compares inTurn observer timeline output exportId before.reset delivers with
    ⟨issued, planned, compares⟩
  have concluded := exportTimeline_concludes quiet settings timeline output exportId
  rcases concluded before with ⟨calls, entered, concludes⟩
  rcases concluded (before.withScript script) with ⟨callsAhead, enteredAhead, concludesAhead⟩
  refine ⟨issued, planned, calls.trans compares.issues, callsAhead.trans compares.plans, ?_, ?_⟩
  · refine compares.keeps.imp id ?_
    rintro ⟨fault, command, stopped, longer⟩
    rw [show (work (before.withScript script).reset).1 = _ from stopped] at concludesAhead
    exact ⟨fault, command, concludesAhead, longer⟩
  · refine compares.ends.imp id ?_
    rintro ⟨problem, stopped, ends⟩
    rw [show (work before.reset).1 = _ from stopped] at concludes
    exact ⟨problem, reports_of_endsWith concludes ends, ends⟩

def overrunning (index : Nat) (_ : Command) : Outcome :=
  .starts (.exits { returnCode := if index = 2 then 1 else 0, leavesFile := index != 0 })

theorem exportTimeline_stops_at_failure_alone :
    let exporting := exportTimeline {} {} Timeline.alone outputInPicture (some "export0")
    let before := Session.sample.withScript overrunning
    let ideal := before.withScript Host.sample.script
    ideal.host.AlwaysDelivers ∧
      ∃ issued planned, StopsAtFailure before issued planned (exporting before)
        (exporting ideal) := by
  intro exporting before ideal
  have delivers : ideal.host.AlwaysDelivers := Host.sample_alwaysDelivers.congr rfl
  exact ⟨delivers, exportTimeline_stops_at_failure (fun _ => rfl) (by decide) Timeline.alone
    outputInPicture (some "export0") before delivers⟩

/-- A failing export can issue a command that would not be issued if every one went well. Its
picture would then stand where the directory of the output belongs. -/
theorem exportTimeline_overruns_alone :
    let settings : Settings := {}
    let exporting := exportTimeline {} settings Timeline.alone outputInPicture (some "export0")
    let before := Session.sample.withScript overrunning
    let ideal := before.withScript Host.sample.script
    Timeline.alone.check = .ok Timeline.alone.sorted ∧ settings.workers ≤ 1 ∧
      ideal.host.AlwaysDelivers ∧
      (∃ result failure, (exporting before).1 = .ok result ∧ result.failure = some failure) ∧
      ¬ (exporting before).2.host.calls <+: (exporting ideal).2.host.calls := by
  intro settings exporting before ideal
  let work := exportWork {} settings Timeline.alone outputInPicture (some "export0")
  have quiet : ∀ stage, ({} : Observer).breaksOff stage = none := fun _ => rfl
  have concluded := exportTimeline_concludes quiet settings Timeline.alone outputInPicture
    (some "export0")
  rcases concluded before with ⟨calls, _, concludes⟩
  rcases concluded ideal with ⟨idealCalls, _⟩
  rcases exportWork_alone overrunning (fun _ => rfl) rfl (fun _ => rfl) with
    ⟨arguments, after, place, worked, world, two, located, nothing⟩
  rcases exportWork_alone Host.sample.script (fun _ => rfl) rfl (fun _ => rfl) with
    ⟨idealArguments, idealAfter, idealPlace, idealWorked, _, idealTwo, idealLocated, there⟩
  -- Without the picture the directory is made, and the last call is issued.
  let made := after.withTree (after.host.tree.put place .directory)
  obtain ⟨failure, last, fails, one⟩ : ∃ failure last,
      compose arguments made = (.error (.failure failure), last) ∧
        last.host.calls = made.host.calls ++ [made.runner.binary :: arguments] := by
    have failing : ({ returnCode := 1, leavesFile := true } : Exit).returnCode ≠ 0 := by decide
    refine compose_of_failing world.cancelled failing fun command => ?_
    rw [show made.host.script = overrunning from world.script,
      show made.host.calls.length = 2 from two]
    rfl
  have failed : work before.reset = (.error (.failure failure), last) :=
    worked.trans ((lastSteps_of_nothing located nothing arguments).trans fails)
  -- With it the directory cannot be made.
  have stopped : work ideal.reset = (.error (.file .alreadyExists), idealAfter) :=
    idealWorked.trans (lastSteps_of_file idealLocated there (.ok idealArguments))
  refine ⟨Timeline.alone_passes, by decide, Host.sample_alwaysDelivers.congr rfl, ?_, ?_⟩
  · rw [show (work before.reset).1 = _ from congrArg Prod.fst failed] at concludes
    rcases concludes with ⟨result, gives, _, reported⟩
    exact ⟨result, _, gives, reported⟩
  · intro issued
    have shorter : last.host.calls.length ≤ idealAfter.host.calls.length := by
      rw [show (exporting before).2.host.calls = _ from
          calls.trans (congrArg (·.2.host.calls) failed),
        show (exporting ideal).2.host.calls = _ from
          idealCalls.trans (congrArg (·.2.host.calls) stopped)] at issued
      exact issued.length_le
    rw [one, List.length_append, show made.host.calls.length = 2 from two, List.length_singleton,
      idealTwo] at shorter
    exact absurd shorter (by decide)

end Montage
