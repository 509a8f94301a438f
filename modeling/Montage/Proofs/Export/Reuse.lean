import Montage.Proofs.Export.Alike

/-! An exporter that has been used before. Whatever became of its exports, and however often it
was cancelled between them, its next export is the one that a new exporter would make. -/

namespace Montage

variable {τ : Type} [Quantity τ]

/-! ## Exporters and their uses -/

inductive ExporterUse (τ : Type) where
  | exports (observer : Observer) (timeline : Timeline τ) (output : String)
      (exportId : Option String)
  | cancels
  | waits (change : Host → Host)

def Host.newExporter (host : Host) (settings : Settings) : Session where
  host := host
  runner := host.newRunner settings.ffmpeg settings.timeout

namespace Session

def use (settings : Settings) (session : Session) : ExporterUse τ → Session
  | .exports observer timeline output exportId =>
      (exportTimeline observer settings timeline output exportId session).2
  | .cancels => session.cancel
  | .waits change => session.updateHost change

def useAll (settings : Settings) (uses : List (ExporterUse τ)) (session : Session) : Session :=
  uses.foldl (use settings) session

/-! ## What is kept of the runner -/

structure SameTool (before after : Session) : Prop where
  binary : after.runner.binary = before.runner.binary
  timeout : after.runner.timeout = before.runner.timeout

instance : IsPreorder Session SameTool where
  refl _ := ⟨rfl, rfl⟩
  trans _ _ _ early late :=
    ⟨late.binary.trans early.binary, late.timeout.trans early.timeout⟩

variable {before after : Session}

theorem Quiet.sameTool (quiet : before.Quiet after) : before.SameTool after :=
  ⟨congrArg Runner.binary quiet.runner, congrArg Runner.timeout quiet.runner⟩

theorem OnlyTold.sameTool (told : before.OnlyTold after) : before.SameTool after where
  binary := by rw [told.runner]
  timeout := by rw [told.runner]

end Session

open Session

theorem runTool_sameTool (arguments : List String) (stage : Option String) :
    (runTool arguments stage).Always SameTool := by
  intro before
  cases cancelled : before.runner.cancelled with
  | true =>
      rw [runTool_of_cancelled arguments stage cancelled]
      exact ⟨rfl, rfl⟩
  | false =>
      rcases runTool_of_not_cancelled arguments stage cancelled with ⟨after, ran, comes⟩
      rw [ran]
      exact ⟨comes.binary, comes.timeout⟩

theorem sameTool_law (observer : Observer) (workers : Int) :
    StepLaw observer workers fun step => step.Always SameTool where
  toSequenceLaw := Act.Always.sequence
  runJobs := Act.Always.runJobs workers
  writeLog := fun part message other =>
    (writeLog_quiet message (by simp [LogLine.isMilestone, other])).mono Quiet.sameTool
  copyFile := fun source target => (copyFile_quiet source target).mono Quiet.sameTool
  writeList := fun list parts => (writeList_quiet list parts).mono Quiet.sameTool
  enterStage := fun stage => (enterStage_onlyTells observer stage).mono OnlyTold.sameTool
  runTool := fun arguments stage _ _ rest =>
    (runTool_sameTool arguments (some stage.name)).bind fun _ => rest

theorem exportTimeline_sameTool (observer : Observer) (settings : Settings)
    (timeline : Timeline τ) (output : String) (exportId : Option String) :
    (exportTimeline observer settings timeline output exportId).Always SameTool := by
  intro before
  have law := sameTool_law observer settings.workers
  have acquires : (Act.onHost (Workspace.acquire exportId settings.workspaceRoot)).Always
      SameTool := (onHost_quiet (Workspace.acquire_keeps exportId _)).mono Quiet.sameTool
  have makes := (makeOutputDirectory_quiet output).mono Quiet.sameTool
  have works := law.exportWork timeline acquires makes before.reset
  have ends (workspace : Option Workspace) (produced : Except Problem Unit) :=
    law.conclude
      (fun output exportId produced => (settle_quiet output exportId produced).mono Quiet.sameTool)
      (law.enterStage .cleaningUp) (law.enterStage .done)
      (fun workspace => (onHost_quiet workspace.release_keeps).mono Quiet.sameTool)
      output exportId workspace produced
  rcases exportTimeline_eq observer settings timeline output exportId before with
    ⟨workspace, concluded⟩
  rw [concluded]
  exact IsTrans.trans _ _ _ ⟨works.binary, works.timeout⟩ (ends workspace _ _)

theorem Session.use_sameTool (settings : Settings) (session : Session) (use : ExporterUse τ) :
    session.SameTool (session.use settings use) := by
  cases use with
  | exports observer timeline output exportId =>
      exact exportTimeline_sameTool observer settings timeline output exportId session
  | cancels => exact session.onlyTold_cancel.sameTool
  | waits change => exact ⟨rfl, rfl⟩

theorem Session.useAll_sameTool (settings : Settings) (uses : List (ExporterUse τ))
    (session : Session) : session.SameTool (session.useAll settings uses) := by
  induction uses generalizing session with
  | nil => exact ⟨rfl, rfl⟩
  | cons use rest induction =>
      exact IsTrans.trans _ _ _ (session.use_sameTool settings use) (induction _)

/-! ## The next export -/

structure Host.AlikeFor (exportId : Option String) (first second : Host) : Prop
    extends first.Alike second where
  chosenId : (first.chooseId exportId).1 = (second.chooseId exportId).1
  temporaryRoot : first.temporaryRoot = second.temporaryRoot
  faultText : first.faultText = second.faultText

theorem Host.chooseId_same {first second : Host} (freshId : first.freshId = second.freshId)
    (idsMade : first.idsMade = second.idsMade) (id : Option String) :
    (first.chooseId id).1 = (second.chooseId id).1 := by
  simp only [chooseId, makeId, freshId, idsMade]
  split
  · split <;> rfl
  · rfl

theorem Host.AlikeFor.of_told {exportId : Option String}
    {first second firstAfter secondAfter : Session}
    (alike : first.host.AlikeFor exportId second.host) (here : first.OnlyTold firstAfter)
    (there : second.OnlyTold secondAfter) :
    firstAfter.host.AlikeFor exportId secondAfter.host where
  toAlike := alike.toAlike.of_told here there
  chosenId := by
    have sameHere : (firstAfter.host.chooseId exportId).1 = (first.host.chooseId exportId).1 :=
      Host.chooseId_same (by rw [here.host]) (by rw [here.host]) exportId
    have sameThere : (second.host.chooseId exportId).1 = (secondAfter.host.chooseId exportId).1 :=
      Host.chooseId_same (by rw [there.host]) (by rw [there.host]) exportId
    exact sameHere.trans (alike.chosenId.trans sameThere)
  temporaryRoot := by
    rw [here.host, there.host]
    exact alike.temporaryRoot
  faultText := by
    rw [here.host, there.host]
    exact alike.faultText

def Host.afresh (host : Host) : Host :=
  { host with
    calls := []
    log := []
    script := fun count => host.script (host.calls.length + count) }

theorem Host.alikeFor_afresh (host : Host) (exportId : Option String) :
    host.AlikeFor exportId host.afresh := by
  have freshId : host.freshId = host.afresh.freshId := rfl
  refine ⟨⟨rfl, rfl, rfl, fun count command => ?_⟩, Host.chooseId_same freshId rfl exportId, rfl,
    rfl⟩
  simp only [afresh, List.length_nil, Nat.zero_add]

/-- What was done before in two sessions does not count for a preparation. -/
theorem prepare_runsAlike {first second : Session} {exportId : Option String}
    (host : first.host.AlikeFor exportId second.host) (runner : first.runner.Alike second.runner)
    (observer : Observer) (settings : Settings) (timeline : Timeline τ) :
    (prepare observer settings timeline exportId).RunsAlikeIn first second := by
  have entering := enterStage_runsAlike host.toAlike runner observer .validating
  have told := host.of_told (enterStage_onlyTells observer .validating first)
    (enterStage_onlyTells observer .validating second)
  have alike : (enterStage observer .validating first).2.Alike
      (enterStage observer .validating second).2 := by
    refine ⟨entering.2.host, entering.2.runner, ?_⟩
    rw [enterStage_stages, enterStage_stages, List.getLast?_concat, List.getLast?_concat]
  refine entering.bind fun _ => ?_
  have checks := (Act.RunsAlike.sequence.ofExcept Problem.ofViolation timeline.check) alike
  have unchanged (session : Session) :
      (Act.ofExcept Problem.ofViolation timeline.check session).2 = session := by
    cases timeline.check <;> rfl
  refine checks.bind fun checked => ?_
  rw [unchanged, unchanged]
  have acquires := acquire_runsAlike alike told.temporaryRoot told.faultText told.chosenId
    settings.workspaceRoot
  exact acquires.bind fun workspace => Act.RunsAlike.pure _ (acquires.2.alike alike)

theorem prepare_stages (observer : Observer) (settings : Settings) (timeline : Timeline τ)
    (exportId : Option String) (before : Session) :
    (prepare observer settings timeline exportId before).2.stages =
      before.stages ++ [.validating] := by
  rw [← enterStage_stages observer .validating before, prepare, run_bind]
  rcases enterStage observer .validating before with ⟨problem | ⟨⟩, entered⟩
  · rfl
  · cases timeline.check with
    | error violation => rfl
    | ok checked =>
        change ((Act.onHost (Workspace.acquire exportId settings.workspaceRoot) >>=
          fun workspace => pure (checked, workspace)) entered).2.stages = entered.stages
        rw [run_bind, Act.onHost]
        rcases Workspace.acquire exportId settings.workspaceRoot entered.host with
          ⟨problem | workspace, host⟩ <;> rfl

def afterPreparation (observer : Observer) (settings : Settings) (output : String)
    (exportId : Option String) (prepared : Except Problem (CheckedTimeline τ × Workspace)) :
    Act ExportResult := do
  let produced ← match prepared with
    | .ok (checked, workspace) => (produce observer settings checked workspace output).attempt
    | .error problem => pure (.error problem)
  conclude observer output exportId (prepared.toOption.map Prod.snd) produced

theorem exportTimeline_prepares (observer : Observer) (settings : Settings)
    (timeline : Timeline τ) (output : String) (exportId : Option String) :
    exportTimeline observer settings timeline output exportId = (do
      Act.change fun session => ((), session.reset)
      afterPreparation observer settings output exportId
        (← (prepare observer settings timeline exportId).attempt)) := rfl

theorem afterPreparation_runsAlike (observer : Observer) (settings : Settings) (output : String)
    (exportId : Option String) (prepared : Except Problem (CheckedTimeline τ × Workspace)) :
    (afterPreparation observer settings output exportId prepared).RunsAlike := by
  have law := Act.RunsAlike.law observer settings.workers
  have concludes (produced : Except Problem Unit) :=
    Act.RunsAlike.conclude observer output exportId (prepared.toOption.map Prod.snd) produced
  rcases prepared with problem | ⟨checked, workspace⟩
  · exact law.bind (law.pure _) concludes
  · have produces := law.produce checked workspace (Act.RunsAlike.makeOutputDirectory output)
    exact law.bind (fun _ _ alike => (produces alike).attempt) concludes

theorem exportTimeline_runsAlike {first second : Session} {exportId : Option String}
    (host : first.host.AlikeFor exportId second.host)
    (runner : first.reset.runner.Alike second.reset.runner) (observer : Observer)
    (settings : Settings) (timeline : Timeline τ) (output : String) :
    (exportTimeline observer settings timeline output exportId).RunsAlikeIn first second := by
  have still : first.reset.host.AlikeFor exportId second.reset.host := host
  have resets : (Act.change fun session => ((), session.reset)).RunsAlikeIn first second :=
    ⟨rfl, host.toAlike, runner, ⟨[], (List.append_nil _).symm, (List.append_nil _).symm⟩,
      ⟨[], (List.append_nil _).symm, (List.append_nil _).symm⟩⟩
  have prepares : (prepare observer settings timeline exportId).RunsAlikeIn first.reset
      second.reset := prepare_runsAlike still runner observer settings timeline
  have alike : (prepare observer settings timeline exportId first.reset).2.Alike
      (prepare observer settings timeline exportId second.reset).2 := by
    refine ⟨prepares.2.host, prepares.2.runner, ?_⟩
    rw [prepare_stages, prepare_stages, List.getLast?_concat, List.getLast?_concat]
  rw [exportTimeline_prepares]
  exact resets.bind fun _ => prepares.attempt.bind fun prepared =>
    afterPreparation_runsAlike observer settings output exportId prepared alike

/-- Whatever has become of an exporter, the next export enters the same stages, issues the same
commands, gives the same result and leaves the same files as the first export of a new one,
given a machine that is alike for the export and on which ffmpeg is found in the same place.
Several workers are on the schedule of `runPool` in both. -/
theorem exportTimeline_reused (settings : Settings) (built : Host)
    (history : List (ExporterUse τ)) (observer : Observer) (timeline : Timeline τ)
    (output : String) (exportId : Option String) (host : Host)
    (alike : ((built.newExporter settings).useAll settings history).host.AlikeFor exportId host)
    (ffmpeg : host.chooseFfmpeg settings.ffmpeg = built.chooseFfmpeg settings.ffmpeg) :
    let used := (built.newExporter settings).useAll settings history
    let exports := exportTimeline observer settings timeline output exportId
    let again := exports used
    let once := exports (host.newExporter settings)
    again.1 = once.1 ∧ again.2.host.tree = once.2.host.tree ∧
      again.2.stages = used.stages ++ once.2.stages ∧
      ∃ issued, again.2.host.calls = used.host.calls ++ issued ∧
        once.2.host.calls = host.calls ++ issued := by
  intro used exports again once
  have kept : (built.newExporter settings).SameTool used :=
    (built.newExporter settings).useAll_sameTool settings history
  have runner : used.reset.runner.Alike (host.newExporter settings).reset.runner :=
    ⟨kept.binary.trans ffmpeg.symm, kept.timeout, rfl⟩
  rcases exportTimeline_runsAlike alike runner observer settings timeline output with
    ⟨sameResult, onwards⟩
  rcases onwards.stages with ⟨entered, usedEntered, onceEntered⟩
  refine ⟨sameResult, onwards.host.tree, ?_, onwards.calls⟩
  rw [show once.2.stages = entered from onceEntered]
  exact usedEntered

theorem exportTimeline_reused_sample :
    let settings : Settings := { ffmpeg := some "ffmpeg" }
    let history : List (ExporterUse Float) := [.exports {} .sample "out.mp4" none, .cancels]
    let used := (Host.sample.newExporter settings).useAll settings history
    let exports := exportTimeline {} settings Timeline.sample "again.mp4" none
    let once := exports (used.host.afresh.newExporter settings)
    used.host.AlikeFor none used.host.afresh ∧ (exports used).1 = once.1 ∧
      (exports used).2.host.tree = once.2.host.tree := by
  have ffmpeg (host : Host) : host.chooseFfmpeg (some "ffmpeg") = "ffmpeg" := rfl
  have same := exportTimeline_reused { ffmpeg := some "ffmpeg" } .sample
    [.exports {} .sample "out.mp4" none, .cancels] {} Timeline.sample "again.mp4" none _
    (Host.alikeFor_afresh _ none) ((ffmpeg _).trans (ffmpeg _).symm)
  exact ⟨Host.alikeFor_afresh _ none, same.1, same.2.1⟩

end Montage
