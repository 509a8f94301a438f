import Montage.Proofs.Export.Cancellation

/-! Two sessions in which the same steps come to the same. What was done before in each of
them, and whether that was the same, is not looked at. -/

namespace Montage

/-! ## Sessions that are alike -/

structure Host.Alike (first second : Host) : Prop where
  tree : first.tree = second.tree
  workingPlace : first.workingPlace = second.workingPlace
  removalFault : first.removalFault = second.removalFault
  outcomes : ∀ count command, first.script (first.calls.length + count) command =
    second.script (second.calls.length + count) command

structure Runner.Alike (first second : Runner) : Prop where
  binary : first.binary = second.binary
  timeout : first.timeout = second.timeout
  cancelled : first.cancelled = second.cancelled

structure Session.Alike (first second : Session) : Prop where
  host : first.host.Alike second.host
  runner : first.runner.Alike second.runner
  stage : first.stages.getLast? = second.stages.getLast?

structure Session.GoOnAlike (first second firstAfter secondAfter : Session) : Prop where
  host : firstAfter.host.Alike secondAfter.host
  runner : firstAfter.runner.Alike secondAfter.runner
  stages : ∃ entered, firstAfter.stages = first.stages ++ entered ∧
    secondAfter.stages = second.stages ++ entered
  calls : ∃ issued, firstAfter.host.calls = first.host.calls ++ issued ∧
    secondAfter.host.calls = second.host.calls ++ issued

namespace Session

variable {first second firstMiddle secondMiddle firstAfter secondAfter : Session}

theorem Alike.refl_on (alike : first.Alike second) : first.GoOnAlike second first second where
  host := alike.host
  runner := alike.runner
  stages := ⟨[], (List.append_nil _).symm, (List.append_nil _).symm⟩
  calls := ⟨[], (List.append_nil _).symm, (List.append_nil _).symm⟩

theorem GoOnAlike.trans (early : first.GoOnAlike second firstMiddle secondMiddle)
    (late : firstMiddle.GoOnAlike secondMiddle firstAfter secondAfter) :
    first.GoOnAlike second firstAfter secondAfter := by
  rcases early.stages with ⟨entered, firstEntered, secondEntered⟩
  rcases late.stages with ⟨more, firstMore, secondMore⟩
  rcases early.calls with ⟨issued, firstIssued, secondIssued⟩
  rcases late.calls with ⟨further, firstFurther, secondFurther⟩
  refine ⟨late.host, late.runner, ⟨entered ++ more, ?_, ?_⟩, ⟨issued ++ further, ?_, ?_⟩⟩
  · rw [firstMore, firstEntered, List.append_assoc]
  · rw [secondMore, secondEntered, List.append_assoc]
  · rw [firstFurther, firstIssued, List.append_assoc]
  · rw [secondFurther, secondIssued, List.append_assoc]

theorem GoOnAlike.alike (alike : first.Alike second)
    (onwards : first.GoOnAlike second firstAfter secondAfter) :
    firstAfter.Alike secondAfter where
  host := onwards.host
  runner := onwards.runner
  stage := by
    rcases onwards.stages with ⟨entered, firstEntered, secondEntered⟩
    rw [firstEntered, secondEntered, List.getLast?_append, List.getLast?_append, alike.stage]

theorem Alike.withTree (alike : first.Alike second) (tree : FileTree) :
    first.GoOnAlike second (first.withTree tree) (second.withTree tree) where
  host := ⟨rfl, alike.host.workingPlace, alike.host.removalFault, alike.host.outcomes⟩
  runner := alike.runner
  stages := ⟨[], (List.append_nil _).symm, (List.append_nil _).symm⟩
  calls := ⟨[], (List.append_nil _).symm, (List.append_nil _).symm⟩

theorem Alike.writeLog (alike : first.Alike second) (level : LogLevel) (part message : String)
    (otherLevel : LogLevel) (otherPart other : String) :
    first.GoOnAlike second (first.updateHost (·.writeLog level part message))
      (second.updateHost (·.writeLog otherLevel otherPart other)) where
  host := ⟨alike.host.tree, alike.host.workingPlace, alike.host.removalFault, alike.host.outcomes⟩
  runner := alike.runner
  stages := ⟨[], (List.append_nil _).symm, (List.append_nil _).symm⟩
  calls := ⟨[], (List.append_nil _).symm, (List.append_nil _).symm⟩

end Session

/-! ## Steps -/

def Act.RunsAlikeIn {α : Type} (step : Act α) (first second : Session) : Prop :=
  (step first).1 = (step second).1 ∧ first.GoOnAlike second (step first).2 (step second).2

def Act.RunsAlike {α : Type} (step : Act α) : Prop :=
  ∀ ⦃first second : Session⦄, first.Alike second → step.RunsAlikeIn first second

namespace Act

variable {α β : Type} {step : Act α} {next : α → Act β}

theorem RunsAlikeIn.bind {first second : Session} (early : step.RunsAlikeIn first second)
    (late : ∀ value, (next value).RunsAlikeIn (step first).2 (step second).2) :
    (step >>= next).RunsAlikeIn first second := by
  rcases early with ⟨same, onwards⟩
  unfold RunsAlikeIn
  rw [run_bind, run_bind]
  generalize step first = here, step second = there at same onwards late
  rcases here with ⟨result, firstMiddle⟩
  rcases there with ⟨other, secondMiddle⟩
  obtain rfl : result = other := same
  cases result with
  | error problem => exact ⟨rfl, onwards⟩
  | ok value =>
      rcases late value with ⟨lateSame, further⟩
      exact ⟨lateSame, onwards.trans further⟩

theorem RunsAlikeIn.attempt {first second : Session} (runs : step.RunsAlikeIn first second) :
    step.attempt.RunsAlikeIn first second :=
  ⟨congrArg Except.ok runs.1, runs.2⟩

namespace RunsAlike

theorem pure (value : α) : (Pure.pure value : Act α).RunsAlike :=
  fun _ _ alike => ⟨rfl, alike.refl_on⟩

theorem throw (problem : Problem) : (MonadExcept.throw problem : Act α).RunsAlike :=
  fun _ _ alike => ⟨rfl, alike.refl_on⟩

theorem bind (early : step.RunsAlike) (late : ∀ value, (next value).RunsAlike) :
    (step >>= next).RunsAlike :=
  fun _ _ alike => (early alike).bind fun value => late value ((early alike).2.alike alike)

theorem sequence : SequenceLaw Act.RunsAlike where
  pure := .pure
  throw := .throw
  bind := fun early late => early.bind late

theorem takeJob (state : PoolState α) {job : Act (Option α)} (runs : job.RunsAlike) :
    (state.takeJob job).RunsAlike := by
  unfold PoolState.takeJob
  split
  · exact pure _
  · intro first second alike
    rcases runs alike with ⟨same, onwards⟩
    dsimp only [RunsAlikeIn]
    generalize job first = here, job second = there at same onwards
    rcases here with ⟨result, firstAfter⟩
    rcases there with ⟨other, secondAfter⟩
    obtain rfl : result = other := same
    cases result <;> exact ⟨rfl, onwards⟩

theorem writeLog (level : LogLevel) (part message : String) :
    (Act.writeLog level part message).RunsAlike :=
  fun _ _ alike => ⟨rfl, alike.writeLog level part message level part message⟩

/-! ## Files -/

theorem writeFile (path : Path) (content : String) : (Act.writeFile path content).RunsAlike := by
  intro first second alike
  unfold RunsAlikeIn
  rw [writeFile_eq, writeFile_eq, alike.host.tree, alike.host.workingPlace]
  cases second.host.tree.write second.host.workingPlace path content with
  | ok tree => exact ⟨rfl, alike.withTree tree⟩
  | error fault => exact ⟨rfl, alike.refl_on⟩

theorem copyFile (source target : Path) : (Act.copyFile source target).RunsAlike := by
  intro first second alike
  unfold RunsAlikeIn
  rw [copyFile_eq, copyFile_eq, alike.host.tree, alike.host.workingPlace]
  cases second.host.tree.read second.host.workingPlace source with
  | ok content => exact writeFile target content alike
  | error fault => exact ⟨rfl, alike.refl_on⟩

theorem writeList (list : Path) (parts : List Path) : (Act.writeList list parts).RunsAlike := by
  intro first second alike
  have sameText : first.host.listText parts = second.host.listText parts := by
    have lines : first.host.listedLine = second.host.listedLine := by
      funext part
      rw [Host.listedLine, Host.listedLine, Host.resolve, Host.resolve, alike.host.workingPlace]
    rw [Host.listText, Host.listText, lines]
  unfold RunsAlikeIn
  rw [Act.writeList, run_getThe, run_getThe, sameText]
  exact writeFile list (second.host.listText parts) alike

theorem makeOutputDirectory (output : String) : (Montage.makeOutputDirectory output).RunsAlike := by
  intro first second alike
  unfold RunsAlikeIn
  rw [makeOutputDirectory_run, makeOutputDirectory_run, alike.host.tree, alike.host.workingPlace]
  exact ⟨rfl, alike.withTree _⟩

end RunsAlike

end Act

/-! ## Commands -/

theorem Session.Alike.after_ran {first second firstAfter secondAfter : Session}
    (alike : first.Alike second) {command : Command} {outcome : Outcome}
    (ran : first.Ran command outcome firstAfter) (added : first.AddedTo firstAfter)
    (stages : firstAfter.stages = first.stages)
    (otherRan : second.Ran command outcome secondAfter) (otherAdded : second.AddedTo secondAfter)
    (otherStages : secondAfter.stages = second.stages) :
    first.GoOnAlike second firstAfter secondAfter where
  host := by
    refine ⟨?_, ?_, ?_, fun count next => ?_⟩
    · rw [ran.tree, otherRan.tree, alike.host.tree, alike.host.workingPlace]
    · rw [ran.workingPlace, otherRan.workingPlace, alike.host.workingPlace]
    · rw [added.removalFault, otherAdded.removalFault, alike.host.removalFault]
    · rw [ran.script, otherRan.script, ran.calls, otherRan.calls, List.length_append,
        List.length_append, List.length_singleton, Nat.add_assoc, Nat.add_assoc]
      exact alike.host.outcomes (1 + count) next
  runner := by
    refine ⟨?_, ?_, ?_⟩
    · rw [ran.binary, otherRan.binary, alike.runner.binary]
    · rw [ran.timeout, otherRan.timeout, alike.runner.timeout]
    · rw [ran.cancelled, otherRan.cancelled]
  stages := ⟨[], stages.trans (List.append_nil _).symm, otherStages.trans (List.append_nil _).symm⟩
  calls := ⟨[command], ran.calls, otherRan.calls⟩

theorem runTool_stages (arguments : List String) (stage : Stage) (before : Session) :
    (runTool arguments (some stage.name) before).2.stages = before.stages := by
  rcases runTool_passed arguments stage before with ⟨issued, passed⟩
  exact passed.stages.trans (List.append_nil _)

theorem Act.RunsAlike.runTool (arguments : List String) (stage : Stage) :
    (Montage.runTool arguments (some stage.name)).RunsAlike := by
  intro first second alike
  unfold RunsAlikeIn
  cases cancelled : second.runner.cancelled with
  | true =>
      rw [runTool_of_cancelled arguments _ (alike.runner.cancelled.trans cancelled),
        runTool_of_cancelled arguments _ cancelled]
      exact ⟨rfl, alike.writeLog _ _ _ _ _ _⟩
  | false =>
      have stages := runTool_stages arguments stage first
      have otherStages := runTool_stages arguments stage second
      have added := runTool_adds arguments (some stage.name) first
      have otherAdded := runTool_adds arguments (some stage.name) second
      have outcomes := alike.host.outcomes 0 (second.runner.binary :: arguments)
      rw [Nat.add_zero, Nat.add_zero] at outcomes
      rcases runTool_of_not_cancelled arguments (some stage.name)
        (alike.runner.cancelled.trans cancelled) with ⟨firstAfter, firstRan, comes⟩
      rcases runTool_of_not_cancelled arguments (some stage.name) cancelled with
        ⟨secondAfter, secondRan, otherComes⟩
      rw [alike.runner.binary, outcomes] at comes
      rw [alike.runner.binary, outcomes, alike.runner.timeout] at firstRan
      rw [firstRan] at stages added
      rw [secondRan] at otherStages otherAdded
      rw [firstRan, secondRan]
      exact ⟨rfl, alike.after_ran comes added stages otherComes otherAdded otherStages⟩

/-! ## Stages -/

namespace Session

structure OnlyTold (before after : Session) : Prop where
  host : after.host = { before.host with
    log := after.host.log
    printed := after.host.printed
    processes := after.host.processes
    events := after.host.events }
  runner : after.runner = { before.runner with cancelled := after.runner.cancelled }

instance : IsPreorder Session OnlyTold where
  refl _ := ⟨rfl, rfl⟩
  trans first second third early late := by
    refine ⟨late.host.trans ?_, late.runner.trans ?_⟩
    · rw [early.host]
    · rw [early.runner]

theorem onlyTold_kill (session : Session) (index : Nat) : session.OnlyTold (session.kill index) :=
  ⟨rfl, rfl⟩

theorem onlyTold_writeLog (session : Session) (level : LogLevel) (part message : String) :
    session.OnlyTold (session.updateHost (·.writeLog level part message)) :=
  ⟨rfl, rfl⟩

theorem onlyTold_cancel (session : Session) : session.OnlyTold session.cancel := by
  unfold cancel
  let cancelled := { session with runner := { session.runner with cancelled := true } }
  have polled : session.OnlyTold (cancelled.updateHost (·.addEvent .poll)) := ⟨rfl, rfl⟩
  cases session.runner.inFlight with
  | none => exact ⟨rfl, rfl⟩
  | some index =>
      dsimp only
      split
      · exact IsTrans.trans _ _ _ polled
          (IsTrans.trans _ _ _ (onlyTold_writeLog _ _ _ _) (onlyTold_kill _ index))
      · exact polled

end Session

theorem enterStage_onlyTells (observer : Observer) (stage : Stage) :
    (enterStage observer stage).Always Session.OnlyTold := by
  apply enterStage_induction (Act.Always · Session.OnlyTold)
  case bind => exact fun early late => early.bind late
  case marks => exact fun _ _ => ⟨rfl, rfl⟩
  case logs => exact fun _ _ => ⟨rfl, rfl⟩
  case prints => exact fun _ _ => ⟨rfl, rfl⟩
  case cancels => exact Session.onlyTold_cancel
  case breaks => exact .throw
  case rests => exact .pure ()

theorem Host.Alike.of_told {first second firstAfter secondAfter : Session}
    (alike : first.host.Alike second.host) (here : first.OnlyTold firstAfter)
    (there : second.OnlyTold secondAfter) : firstAfter.host.Alike secondAfter.host := by
  rw [here.host, there.host]
  exact ⟨alike.tree, alike.workingPlace, alike.removalFault, alike.outcomes⟩

/-- Whatever was entered before, entering a stage makes sessions alike as to the stage. -/
theorem enterStage_runsAlike {first second : Session} (host : first.host.Alike second.host)
    (runner : first.runner.Alike second.runner) (observer : Observer) (stage : Stage) :
    (enterStage observer stage).RunsAlikeIn first second := by
  have here := enterStage_onlyTells observer stage first
  have there := enterStage_onlyTells observer stage second
  refine ⟨?_, host.of_told here there, ?_, ⟨[stage], ?_, ?_⟩, ⟨[], ?_, ?_⟩⟩
  · rw [enterStage_result, enterStage_result]
  · refine ⟨?_, ?_, ?_⟩
    · rw [here.runner, there.runner]
      exact runner.binary
    · rw [here.runner, there.runner]
      exact runner.timeout
    · rw [enterStage_cancelled, enterStage_cancelled, runner.cancelled]
  · exact enterStage_stages observer stage first
  · exact enterStage_stages observer stage second
  · rw [here.host, List.append_nil]
  · rw [there.host, List.append_nil]

/-! ## The workspace -/

namespace Workspace

variable {first second : Host}

theorem make_alike (tree : first.tree = second.tree)
    (workingPlace : first.workingPlace = second.workingPlace)
    (temporaryRoot : first.temporaryRoot = second.temporaryRoot)
    (faultText : first.faultText = second.faultText) (exportId : String)
    (root : Option String) :
    (make exportId root first).1 = (make exportId root second).1 ∧
      (make exportId root first).2.tree = (make exportId root second).2.tree := by
  cases plain : isPlainId exportId with
  | false => simp [make, plain, tree]
  | true =>
      rcases ran : second.tree.makeNewDirectory second.workingPlace
        (pathOf (root.getD second.temporaryRoot) exportId) with ⟨fault | _, made⟩
      · simp only [make, plain, Bool.not_true, Bool.false_eq_true, if_false, tree, workingPlace,
          temporaryRoot, faultText, ran]
        cases fault <;> exact ⟨rfl, rfl⟩
      · simp [make, plain, tree, workingPlace, temporaryRoot, ran, Host.writeLog]

theorem chooseId_only (host : Host) (id : Option String) : (host.chooseId id).2 =
    { host with idsMade := (host.chooseId id).2.idsMade } := by
  unfold Host.chooseId
  split
  · split <;> rfl
  · rfl

theorem acquire_alike (tree : first.tree = second.tree)
    (workingPlace : first.workingPlace = second.workingPlace)
    (temporaryRoot : first.temporaryRoot = second.temporaryRoot)
    (faultText : first.faultText = second.faultText) {id : Option String}
    (sameId : (first.chooseId id).1 = (second.chooseId id).1) (root : Option String) :
    (acquire id root first).1 = (acquire id root second).1 ∧
      (acquire id root first).2.tree = (acquire id root second).2.tree := by
  have acquires (host : Host) :
      acquire id root host = make (host.chooseId id).1 root (host.chooseId id).2 := rfl
  rw [acquires first, acquires second, sameId, chooseId_only first, chooseId_only second]
  apply make_alike <;> assumption

theorem release_alike (alike : first.Alike second) (workspace : Workspace) :
    (workspace.release first).1 = (workspace.release second).1 ∧
      (workspace.release first).2.2.tree = (workspace.release second).2.2.tree := by
  unfold release
  rw [alike.removalFault, alike.tree, alike.workingPlace]
  split
  · exact ⟨rfl, alike.tree⟩
  · dsimp only
    cases second.removalFault with
    | some fault => cases fault <;> exact ⟨rfl, alike.tree⟩
    | none =>
        cases second.tree.locate second.workingPlace workspace.path with
        | error fault => exact ⟨rfl, alike.tree⟩
        | ok place =>
            dsimp only
            split
            · exact ⟨rfl, alike.tree⟩
            · exact ⟨rfl, rfl⟩

/-- A removal changes the files and the log. -/
theorem release_only (workspace : Workspace) (host : Host) :
    (workspace.release host).2.2 = { host with
      tree := (workspace.release host).2.2.tree
      log := (workspace.release host).2.2.log } := by
  unfold release
  split
  · rfl
  · split
    · rfl
    · rfl
    · split
      · rfl
      · split <;> rfl

end Workspace

theorem acquire_runsAlike {first second : Session} (alike : first.Alike second)
    (temporaryRoot : first.host.temporaryRoot = second.host.temporaryRoot)
    (faultText : first.host.faultText = second.host.faultText) {id : Option String}
    (sameId : (first.host.chooseId id).1 = (second.host.chooseId id).1) (root : Option String) :
    (Act.onHost (Workspace.acquire id root)).RunsAlikeIn first second := by
  have made := Workspace.acquire_alike alike.host.tree alike.host.workingPlace temporaryRoot
    faultText sameId root
  have here := Workspace.acquire_sameWorld id root first.host
  have there := Workspace.acquire_sameWorld id root second.host
  have fault := (acquire_idles id root first).removalFault
  have otherFault := (acquire_idles id root second).removalFault
  refine ⟨made.1, ⟨made.2, ?_, ?_, ?_⟩, alike.runner, ?_, ⟨[], ?_, ?_⟩⟩
  · exact (here.workingPlace.trans alike.host.workingPlace).trans there.workingPlace.symm
  · exact (fault.trans alike.host.removalFault).trans otherFault.symm
  · intro count command
    change (Workspace.acquire id root first.host).2.script
        ((Workspace.acquire id root first.host).2.calls.length + count) command =
      (Workspace.acquire id root second.host).2.script
        ((Workspace.acquire id root second.host).2.calls.length + count) command
    rw [here.script, here.calls, there.script, there.calls]
    exact alike.host.outcomes count command
  · exact ⟨[], (List.append_nil _).symm, (List.append_nil _).symm⟩
  · exact here.calls.trans (List.append_nil _).symm
  · exact there.calls.trans (List.append_nil _).symm

namespace Act.RunsAlike

theorem release (workspace : Workspace) : (Act.onHost fun host =>
    (.ok (workspace.release host).1.toList, (workspace.release host).2.2)).RunsAlike := by
  intro first second alike
  rcases Workspace.release_alike alike.host workspace with ⟨sameWarning, sameTree⟩
  have here := workspace.release_only first.host
  have there := workspace.release_only second.host
  refine ⟨congrArg (Except.ok ∘ Option.toList) sameWarning, ⟨sameTree, ?_, ?_, ?_⟩,
    alike.runner, ⟨[], (List.append_nil _).symm, (List.append_nil _).symm⟩, ⟨[], ?_, ?_⟩⟩
  · exact (congrArg Host.workingPlace here).trans
      (alike.host.workingPlace.trans (congrArg Host.workingPlace there).symm)
  · exact (congrArg Host.removalFault here).trans
      (alike.host.removalFault.trans (congrArg Host.removalFault there).symm)
  · intro count command
    change (workspace.release first.host).2.2.script
        ((workspace.release first.host).2.2.calls.length + count) command =
      (workspace.release second.host).2.2.script
        ((workspace.release second.host).2.2.calls.length + count) command
    rw [here, there]
    exact alike.host.outcomes count command
  · exact (congrArg Host.calls here).trans (List.append_nil _).symm
  · exact (congrArg Host.calls there).trans (List.append_nil _).symm

theorem settle (output : String) (exportId : Option String) (produced : Except Problem Unit) :
    (Montage.settle output exportId produced).RunsAlike := by
  rcases produced with problem | ⟨⟩
  · cases problem with
    | failure failure =>
        intro first second alike
        have same : settled failure first.stages = settled failure second.stages := by
          rw [settled, settled, alike.stage]
        let result (failure : Failure) : ExportResult := { exportId, failure := some failure }
        exact ⟨congrArg (Except.ok ∘ Except.ok ∘ result) same, alike.writeLog _ _ _ _ _ _⟩
    | _ => exact pure _
  · exact pure _

theorem law (observer : Observer) (workers : Int) : StepLaw observer workers Act.RunsAlike where
  toSequenceLaw := sequence
  runJobs := sequence.runJobs workers takeJob
  writeLog := fun part message _ => writeLog .debug part message
  copyFile := copyFile
  writeList := writeList
  enterStage := fun stage _ _ alike => enterStage_runsAlike alike.host alike.runner observer stage
  runTool := fun arguments stage _ _ rest => (runTool arguments stage).bind fun _ => rest

theorem conclude (observer : Observer) (output : String) (exportId : Option String)
    (workspace : Option Workspace) (produced : Except Problem Unit) :
    (Montage.conclude observer output exportId workspace produced).RunsAlike :=
  sequence.conclude settle ((law observer 1).enterStage .cleaningUp)
    ((law observer 1).enterStage .done) release output exportId workspace produced

end Act.RunsAlike

end Montage
