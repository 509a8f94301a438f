import Montage.Proofs.Export.Stages
import Montage.Proofs.Export.StepLaw

/-! The way of an export through its stages, from validating to done. -/

namespace Montage

theorem enterStage_passed {observer : Observer}
    (quiet : ∀ stage, observer.breaksOff stage = none) (stage : Stage) (before : Session) :
    ∃ after, enterStage observer stage before = (.ok (), after) ∧
      before.Passed [.entered stage] after := by
  let entered := Session.updateHost { before with stages := before.stages ++ [stage] }
    (·.writeLog .info "pipeline" ("Export stage: " ++ stage.name))
  have first : before.Passed [.entered stage] entered := by
    refine ⟨rfl, ?_, (List.append_nil _).symm⟩
    simp only [entered, Session.updateHost, Host.writeLog, List.filter_append]
    rfl
  have printed (line : String) :
      before.Passed [.entered stage] (entered.updateHost (·.print line)) :=
    first.then_unseen (Session.passed_of_same rfl rfl rfl)
  unfold enterStage
  rw [quiet stage]
  cases observer.line stage with
  | none =>
      cases observer.cancels stage with
      | false => exact ⟨_, rfl, first⟩
      | true => exact ⟨_, rfl, first.then_unseen (Session.passed_cancel _)⟩
  | some line =>
      cases observer.cancels stage with
      | false => exact ⟨_, rfl, printed line⟩
      | true => exact ⟨_, rfl, (printed line).then_unseen (Session.passed_cancel _)⟩

theorem Workspace.make_keeps (exportId : String) (root : Option String) (host : Host) :
    (make exportId root host).2.log.filter LogLine.isMilestone =
        host.log.filter LogLine.isMilestone ∧
      (make exportId root host).2.calls = host.calls ∧
      (make exportId root host).2.processes = host.processes := by
  rcases made : make exportId root host with ⟨result, after⟩
  unfold make at made
  split at made
  · cases made
    exact ⟨rfl, rfl, rfl⟩
  · dsimp only at made
    split at made
    · cases made
      refine ⟨?_, rfl, rfl⟩
      simp only [Host.writeLog, List.filter_append]
      exact List.append_nil _
    all_goals
      cases made
      exact ⟨rfl, rfl, rfl⟩

/-- Making a workspace is seen in none of the milestones. -/
theorem Workspace.acquire_keeps (id root : Option String) (host : Host) :
    (acquire id root host).2.log.filter LogLine.isMilestone =
        host.log.filter LogLine.isMilestone ∧
      (acquire id root host).2.calls = host.calls ∧
      (acquire id root host).2.processes = host.processes := by
  have chosen : (host.chooseId id).2.log = host.log ∧ (host.chooseId id).2.calls = host.calls ∧
      (host.chooseId id).2.processes = host.processes := by
    unfold Host.chooseId
    split
    · split <;> exact ⟨rfl, rfl, rfl⟩
    · exact ⟨rfl, rfl, rfl⟩
  rcases chosen with ⟨sameLog, sameCalls, sameProcesses⟩
  rw [← sameLog, ← sameCalls, ← sameProcesses]
  exact make_keeps _ root _

namespace Act.Enters

variable {τ : Type} [Quantity τ] {current : Stage}

/-! ## Steps within a stage -/

theorem ofMisfit {α : Type} (result : Except Misfit α) :
    (Act.ofExcept .misfit result).Enters current [] :=
  ofExcept fun _ _ _ same => nomatch same

theorem extract (clip : Clip τ) (stream : Stream) (timeline : Timeline τ) (workspace : Workspace)
    (settings : Settings) (ordinal : Int) :
    (Montage.extract clip stream timeline workspace settings ordinal).Enters stream.stage [] := by
  unfold Montage.extract
  split
  · exact (writeLog _ (by simp [LogLine.isMilestone])).andThen fun _ => pure _
  · exact (ofMisfit _).andThen fun _ => (runTool _).andThen fun _ => pure _

theorem extractAll {item : Type} (clipOf : item → Clip τ) (items : List item)
    (timeline : Timeline τ) (workspace : Workspace) (settings : Settings) :
    (Montage.extractAll clipOf items timeline workspace settings).Enters .preprocessing [] := by
  refine (runJobs settings.workers ?_).andThen fun _ => pure _
  intro job member
  rcases List.mem_map.mp member with ⟨⟨item, ordinal⟩, _, rfl⟩
  exact (extract (clipOf item) .video timeline workspace settings ordinal).andThen fun _ => pure _

theorem changeTree (tree : FileTree) :
    (Act.changeHost fun host => { host with tree }).Enters current [] :=
  ofUnseen (fun _ => Session.passed_of_same rfl rfl rfl) fun _ _ same => nomatch same

theorem ofFile {α : Type} (result : Except FileFault α) :
    (Act.ofExcept .file result).Enters current [] :=
  ofExcept fun _ _ _ same => nomatch same

theorem writeFile (path : Path) (content : String) :
    (Act.writeFile path content).Enters current [] :=
  getThe fun _ => (ofFile _).andThen fun tree => changeTree tree

theorem copyFile (source target : Path) : (Act.copyFile source target).Enters current [] :=
  getThe fun _ => (ofFile _).andThen fun content => writeFile target content

theorem joinSound (parts : List Path) (workspace : Workspace) :
    (Montage.joinSound parts workspace).Enters .audioAssembling [] := by
  unfold Montage.joinSound
  split
  · exact throw (Problem.belongsTo_of_stage rfl)
  · exact (copyFile _ _).andThen fun _ =>
      (writeLog _ (by simp [LogLine.isMilestone])).andThen fun _ => pure _
  · refine getThe fun session => (writeFile _ _).andThen fun _ => ?_
    exact (writeLog _ (by simp [LogLine.isMilestone])).andThen fun _ =>
      (runTool _).andThen fun _ => pure _

theorem assembleSound (checked : CheckedTimeline τ) (workspace : Workspace)
    (settings : Settings) :
    (Montage.assembleSound checked workspace settings).Enters .audioAssembling [] := by
  refine andThen (andThen (mapM ?_) fun _ => pure _) fun parts => joinSound parts workspace
  rintro ⟨clip, ordinal⟩ _
  exact extract clip .audio checked.timeline workspace settings ordinal

theorem planComposition (checked : CheckedTimeline τ) (settings : Settings)
    (mainAssets : List (Asset (Clip τ) τ)) (layerAssets : List (Asset (Layer τ) τ))
    (audio : Path) :
    (Montage.planComposition checked settings mainAssets layerAssets audio).Enters current [] := by
  unfold Montage.planComposition
  refine (forM fun _ => writeLog _ (by simp [LogLine.isMilestone])).andThen fun _ => ?_
  refine (ofMisfit _).andThen fun plan => (ofExcept ?_).andThen fun text => pure _
  exact fun _ _ _ same => by cases same

theorem makeOutputDirectory (output : String) :
    (Montage.makeOutputDirectory output).Enters current [] := by
  apply onHost
  · exact fun host => ⟨rfl, rfl⟩
  · intro host problem stopped
    dsimp only at stopped
    generalize FileTree.makeDirectories _ _ _ _ = making at stopped
    rcases making with ⟨_ | _, tree⟩
    · cases stopped
      exact fun _ same => nomatch same
    · cases stopped

theorem acquire (id root : Option String) :
    (Act.onHost (Workspace.acquire id root)).Enters current [] := by
  have refused (refusal : Refusal) : refusal.toProblem.BelongsTo current := by
    rintro failure ⟨⟩
    exact .inl rfl
  have made (exportId : String) (host : Host) (problem : Problem) :
      (Workspace.make exportId root host).1 = .error problem → problem.BelongsTo current := by
    unfold Workspace.make
    split
    · exact fun same => Except.error.inj same ▸ refused _
    · dsimp only
      split
      · exact fun same => by cases same
      · exact fun same => Except.error.inj same ▸ refused _
      · exact fun same => Except.error.inj same ▸ fun _ other => by cases other
      · exact fun same => Except.error.inj same ▸ refused _
  apply onHost
  · exact fun host => ⟨(Workspace.acquire_keeps id root host).1,
      (Workspace.acquire_keeps id root host).2.1⟩
  · exact fun host problem => made (host.chooseId id).1 (host.chooseId id).2 problem

/-! ## The stages -/

theorem enterStage {observer : Observer} (quiet : ∀ stage, observer.breaksOff stage = none)
    (stage : Stage) : (Montage.enterStage observer stage).Enters current [stage] := by
  intro before
  rcases enterStage_passed quiet stage before with ⟨after, ran, passed⟩
  rw [ran]
  exact ⟨[.entered stage], passed, trivial, rfl⟩

/-- The work on the clips begins with its stage, whatever comes of the rest. -/
theorem exists_arrange_rest {observer : Observer} (quiet : ∀ stage, observer.breaksOff stage = none)
    (settings : Settings) (checked : CheckedTimeline τ) (workspace : Workspace) (output : String) :
    ∃ rest : Act (List String), Montage.arrange observer settings checked workspace output =
        (Montage.enterStage observer .preprocessing >>= fun _ => rest) ∧
      rest.Enters .preprocessing [.audioAssembling, .graphBuilding, .composing] := by
  refine ⟨_, rfl, ?_⟩
  refine andThen (extractAll id _ _ workspace settings) fun mainAssets => ?_
  refine andThen (extractAll Layer.clip _ _ workspace settings) fun layerAssets => ?_
  refine bind (enterStage quiet .audioAssembling) fun _ => ?_
  refine andThen (assembleSound checked workspace settings) fun audio => ?_
  refine bind (enterStage quiet .graphBuilding) fun _ => ?_
  refine andThen (planComposition checked settings mainAssets layerAssets audio) fun planned => ?_
  refine andThen (writeLog _ (by simp [LogLine.isMilestone])) fun _ => ?_
  refine bind (enterStage quiet .composing) fun _ => ?_
  exact andThen (makeOutputDirectory output) fun _ => ofMisfit _

theorem arrange {observer : Observer} (quiet : ∀ stage, observer.breaksOff stage = none)
    (settings : Settings) (checked : CheckedTimeline τ) (workspace : Workspace) (output : String) :
    (Montage.arrange observer settings checked workspace output).Enters current
      [.preprocessing, .audioAssembling, .graphBuilding, .composing] := by
  rcases exists_arrange_rest quiet settings checked workspace output with ⟨rest, same, enters⟩
  rw [same]
  exact bind (enterStage quiet .preprocessing) fun _ => enters

theorem compose (arguments : List String) : (Montage.compose arguments).Enters .composing [] :=
  andThen (runTool arguments) fun _ => pure _

end Act.Enters

/-! ## The whole way -/

variable {τ : Type} [Quantity τ]

theorem Violation.ofViolation_belongsTo (violation : Violation τ) (stage : Stage) :
    (Problem.ofViolation violation).BelongsTo stage := by
  intro failure same
  unfold Problem.ofViolation at same
  split at same
  · cases same
  · split at same
    · cases same
      exact .inl rfl
    · cases same

def workingStages : List Stage :=
  [.validating, .preprocessing, .audioAssembling, .graphBuilding, .composing]

def arrangement (observer : Observer) (settings : Settings) (timeline : Timeline τ)
    (output : String) (exportId : Option String) : Act (List String) := do
  let (checked, workspace) ← prepare observer settings timeline exportId
  arrange observer settings checked workspace output

def exportWork (observer : Observer) (settings : Settings) (timeline : Timeline τ)
    (output : String) (exportId : Option String) : Act Unit := do
  compose (← arrangement observer settings timeline output exportId)

theorem exportWork_eq (observer : Observer) (settings : Settings) (timeline : Timeline τ)
    (output : String) (exportId : Option String) :
    exportWork observer settings timeline output exportId = (do
      enterStage observer .validating
      let checked ← Act.ofExcept Problem.ofViolation timeline.check
      let workspace ← Act.onHost (Workspace.acquire exportId settings.workspaceRoot)
      compose (← arrange observer settings checked workspace output)) := by
  simp only [exportWork, arrangement, prepare, bind_assoc, pure_bind]

/-- The whole work, given that the workspace can be made and the directory of the output. -/
theorem StepLaw.exportWork {observer : Observer} {settings : Settings}
    {Holds : ∀ {α : Type}, Act α → Prop} (law : StepLaw observer settings.workers Holds)
    (timeline : Timeline τ) {output : String} {exportId : Option String}
    (acquires : Holds (Act.onHost (Workspace.acquire exportId settings.workspaceRoot)))
    (makes : Holds (makeOutputDirectory output)) :
    Holds (Montage.exportWork observer settings timeline output exportId) := by
  rw [exportWork_eq]
  refine law.bind (law.enterStage .validating) fun _ => ?_
  refine law.bind (law.ofExcept _ _) fun checked => law.bind acquires fun workspace => ?_
  exact law.produce checked workspace makes

theorem exportTimeline_eq (observer : Observer) (settings : Settings) (timeline : Timeline τ)
    (output : String) (exportId : Option String) (before : Session) :
    ∃ workspace, exportTimeline observer settings timeline output exportId before =
      conclude observer output exportId workspace
        (exportWork observer settings timeline output exportId before.reset).1
        (exportWork observer settings timeline output exportId before.reset).2 := by
  unfold exportTimeline exportWork arrangement
  rw [Act.run_change, bind_assoc, run_bind (prepare _ _ _ _), run_bind (Act.attempt _)]
  simp only [Act.attempt]
  rcases prepared : prepare observer settings timeline exportId before.reset with
    ⟨problem | ⟨checked, workspace⟩, middle⟩
  · exact ⟨none, rfl⟩
  · exact ⟨some workspace, rfl⟩

variable {observer : Observer}

/-- The work of an export enters the first of its stages, whatever happens, and then further
ones in order. -/
theorem exportWork_passes (quiet : ∀ stage, observer.breaksOff stage = none) (settings : Settings)
    (timeline : Timeline τ) (output : String) (exportId : Option String) (before : Session) :
    let work := exportWork observer settings timeline output exportId before
    ∃ trace, before.Passed (.entered .validating :: trace) work.2 ∧
      CallsKeepStage .validating trace ∧
      EndsWith .validating [.preprocessing, .audioAssembling, .graphBuilding, .composing]
        (stagesOf trace) work.1 := by
  intro work
  have rest : Act.Enters (do
      let checked ← Act.ofExcept Problem.ofViolation timeline.check
      let workspace ← Act.onHost (Workspace.acquire exportId settings.workspaceRoot)
      compose (← arrange observer settings checked workspace output)) .validating
      [.preprocessing, .audioAssembling, .graphBuilding, .composing] := by
    refine .andThen (.ofExcept fun violation _ => violation.ofViolation_belongsTo _)
      fun checked => ?_
    refine .andThen (.acquire exportId settings.workspaceRoot) fun workspace => ?_
    exact .bind (.arrange quiet settings checked workspace output) fun arguments =>
      .compose arguments
  rcases enterStage_passed quiet .validating before with ⟨entered, ran, passed⟩
  rcases rest entered with ⟨trace, restPassed, keeps, ends⟩
  have same : work = _ := (congrFun (exportWork_eq observer settings timeline output exportId)
    before).trans (run_bind_of_ok ran _)
  rw [same]
  exact ⟨trace, passed.trans restPassed, keeps, ends⟩

/-! ## The end -/

theorem Workspace.release_keeps (workspace : Workspace) (host : Host) :
    (workspace.release host).2.2.log.filter LogLine.isMilestone =
        host.log.filter LogLine.isMilestone ∧
      (workspace.release host).2.2.calls = host.calls ∧
      (workspace.release host).2.2.processes = host.processes := by
  unfold release
  split
  · exact ⟨rfl, rfl, rfl⟩
  · split
    · exact ⟨rfl, rfl, rfl⟩
    · refine ⟨?_, rfl, rfl⟩
      simp only [Host.writeLog, List.filter_append]
      exact List.append_nil _
    · split
      · exact ⟨rfl, rfl, rfl⟩
      · split
        · exact ⟨rfl, rfl, rfl⟩
        · refine ⟨?_, rfl, rfl⟩
          simp only [Host.writeLog, List.filter_append]
          exact List.append_nil _

theorem cleanUp_passed (quiet : ∀ stage, observer.breaksOff stage = none)
    (workspace : Option Workspace) (before : Session) :
    ∃ warnings after, cleanUp observer workspace before = (.ok warnings, after) ∧
      before.Passed [.entered .cleaningUp, .entered .done] after := by
  rcases enterStage_passed quiet .cleaningUp before with ⟨entered, enteredRan, enteredPassed⟩
  unfold cleanUp
  rw [run_bind_of_ok enteredRan]
  cases workspace with
  | none =>
      rcases enterStage_passed quiet .done entered with ⟨after, ran, passed⟩
      exact ⟨[], after, run_bind_of_ok ran _, enteredPassed.trans passed⟩
  | some workspace =>
      have released : entered.Passed []
          { entered with host := (workspace.release entered.host).2.2 } := by
        have keeps := workspace.release_keeps entered.host
        exact ⟨(List.append_nil _).symm, keeps.1.trans (List.append_nil _).symm,
          keeps.2.1.trans (List.append_nil _).symm⟩
      rcases enterStage_passed quiet .done
        { entered with host := (workspace.release entered.host).2.2 } with ⟨after, ran, passed⟩
      exact ⟨_, after, run_bind_of_ok ran _, (enteredPassed.then_unseen released).trans passed⟩

def settled (failure : Failure) (entered : List Stage) : Failure :=
  match entered.getLast? with
  | some stage => failure.during stage
  | none => failure

def Concludes (output : String) (entered : List Stage) (outcome : Except Problem ExportResult) :
    Except Problem Unit → Prop
  | .ok () => ∃ result, outcome = .ok result ∧ result.outputPath = some output ∧
      result.failure = none
  | .error (.failure failure) => ∃ result, outcome = .ok result ∧ result.outputPath = none ∧
      result.failure = some (settled failure entered)
  | .error problem => outcome = .error problem

theorem Concludes.withWarnings {output : String} {entered : List Stage} {result : ExportResult}
    {produced : Except Problem Unit} (concludes : Concludes output entered (.ok result) produced)
    (warnings : List CleanupWarning) :
    Concludes output entered (.ok { result with warnings }) produced := by
  rcases produced with problem | ⟨⟩
  · cases problem with
    | failure failure =>
        rcases concludes with ⟨_, ⟨⟩, noOutput, failed⟩
        exact ⟨_, rfl, noOutput, failed⟩
    | _ => cases concludes
  · rcases concludes with ⟨_, ⟨⟩, hasOutput, noFailure⟩
    exact ⟨_, rfl, hasOutput, noFailure⟩

theorem settle_passed (output : String) (exportId : Option String)
    (produced : Except Problem Unit) (before : Session) :
    ∃ result after, settle output exportId produced before = (.ok result, after) ∧
      before.Passed [] after ∧ Concludes output before.stages result produced := by
  rcases produced with problem | ⟨⟩
  · cases problem with
    | failure failure =>
        exact ⟨_, _, rfl, before.passed_writeLog _ _ _ (by simp [LogLine.isMilestone]),
          _, rfl, rfl, rfl⟩
    | _ => exact ⟨_, before, rfl, .refl before, rfl⟩
  · exact ⟨_, before, rfl, .refl before, _, rfl, rfl, rfl⟩

theorem conclude_passes (quiet : ∀ stage, observer.breaksOff stage = none) (output : String)
    (exportId : Option String) (workspace : Option Workspace) (produced : Except Problem Unit)
    (before : Session) :
    let conclusion := conclude observer output exportId workspace produced before
    before.Passed [.entered .cleaningUp, .entered .done] conclusion.2 ∧
      Concludes output before.stages conclusion.1 produced := by
  rcases settle_passed output ((workspace.map Workspace.exportId).or exportId) produced before with
    ⟨result, middle, settledRan, unseen, concludes⟩
  rcases cleanUp_passed quiet workspace middle with ⟨warnings, after, ran, passed⟩
  intro conclusion
  cases result with
  | error problem =>
      have concluded : conclusion = (.error problem, after) :=
        (run_bind_of_ok settledRan _).trans (run_bind_of_ok ran _)
      rw [concluded]
      exact ⟨unseen.trans passed, concludes⟩
  | ok result =>
      have concluded : conclusion = (.ok { result with warnings }, after) :=
        (run_bind_of_ok settledRan _).trans (run_bind_of_ok ran _)
      rw [concluded]
      exact ⟨unseen.trans passed, concludes.withWarnings warnings⟩

end Montage
