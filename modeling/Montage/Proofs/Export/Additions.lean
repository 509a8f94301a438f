import Montage.Proofs.Export.Always
import Montage.Proofs.Workspace

/-! What the steps of an export leave alone. No directory goes and no removal is warned of
until the workspace is removed; and until it is made, no process is started. -/

namespace Montage

def Host.warnings (host : Host) : List LogLine :=
  host.log.filter fun line => line.level == .warning

theorem Host.warnings_writeLog (host : Host) {level : LogLevel} (other : level ≠ .warning)
    (part message : String) : (host.writeLog level part message).warnings = host.warnings := by
  simp [warnings, writeLog, List.filter_append, other]

namespace Session

structure AddedTo (before after : Session) : Prop where
  directories : before.host.tree.KeepsDirectories after.host.tree
  workingPlace : after.host.workingPlace = before.host.workingPlace
  removalFault : after.host.removalFault = before.host.removalFault
  warnings : after.host.warnings = before.host.warnings

structure Idle (before after : Session) : Prop extends AddedTo before after where
  calls : after.host.calls = before.host.calls
  processes : after.host.processes.length = before.host.processes.length

structure Still (before after : Session) : Prop extends Idle before after where
  tree : after.host.tree = before.host.tree

theorem addedTo_of_tree {before after : Session}
    (directories : before.host.tree.KeepsDirectories after.host.tree)
    (workingPlace : after.host.workingPlace = before.host.workingPlace)
    (removalFault : after.host.removalFault = before.host.removalFault)
    (log : after.host.log = before.host.log) : before.AddedTo after where
  directories
  workingPlace
  removalFault
  warnings := by rw [Host.warnings, log, Host.warnings]

theorem still_of_same {before after : Session} (tree : after.host.tree = before.host.tree)
    (workingPlace : after.host.workingPlace = before.host.workingPlace)
    (removalFault : after.host.removalFault = before.host.removalFault)
    (log : after.host.log = before.host.log) (calls : after.host.calls = before.host.calls)
    (processes : after.host.processes.length = before.host.processes.length) :
    before.Still after where
  toAddedTo := addedTo_of_tree (tree ▸ .refl _) workingPlace removalFault log
  calls
  processes
  tree

theorem AddedTo.trans {first second third : Session} (early : AddedTo first second)
    (late : AddedTo second third) : AddedTo first third where
  directories := early.directories.trans late.directories
  workingPlace := late.workingPlace.trans early.workingPlace
  removalFault := late.removalFault.trans early.removalFault
  warnings := late.warnings.trans early.warnings

theorem Idle.trans {first second third : Session} (early : Idle first second)
    (late : Idle second third) : Idle first third where
  toAddedTo := early.toAddedTo.trans late.toAddedTo
  calls := late.calls.trans early.calls
  processes := late.processes.trans early.processes

theorem Still.trans {first second third : Session} (early : Still first second)
    (late : Still second third) : Still first third where
  toIdle := early.toIdle.trans late.toIdle
  tree := late.tree.trans early.tree

instance : IsPreorder Session AddedTo where
  refl _ := addedTo_of_tree (.refl _) rfl rfl rfl
  trans _ _ _ := AddedTo.trans

instance : IsPreorder Session Idle where
  refl _ := ⟨addedTo_of_tree (.refl _) rfl rfl rfl, rfl, rfl⟩
  trans _ _ _ := Idle.trans

instance : IsPreorder Session Still where
  refl _ := still_of_same rfl rfl rfl rfl rfl rfl
  trans _ _ _ := Still.trans

/-! ## Steps of the runner -/

variable (session : Session) (index : Nat) (command : Command)

theorem still_writeLog {level : LogLevel} (other : level ≠ .warning) (part message : String) :
    session.Still (session.updateHost (·.writeLog level part message)) where
  directories := .refl _
  workingPlace := rfl
  removalFault := rfl
  warnings := session.host.warnings_writeLog other part message
  calls := rfl
  processes := rfl
  tree := rfl

theorem still_endProcess (returnCode : Int) :
    session.Still (session.endProcess index returnCode) :=
  still_of_same rfl rfl rfl rfl rfl (List.length_modify _ _ _)

theorem still_addEvent (event : ProcessEvent) :
    session.Still (session.updateHost (·.addEvent event)) :=
  still_of_same rfl rfl rfl rfl rfl rfl

theorem still_kill : session.Still (session.kill index) :=
  (session.still_endProcess index killedCode).trans (still_addEvent _ .kill)

theorem still_cancel : session.Still session.cancel := by
  have marked : session.Still
      { session with runner := { session.runner with cancelled := true } } :=
    still_of_same rfl rfl rfl rfl rfl rfl
  unfold cancel
  cases session.runner.inFlight with
  | none => exact marked
  | some index =>
      dsimp only
      split
      · exact ((marked.trans (still_addEvent _ .poll)).trans
          (still_writeLog _ (by decide) "tool" _)).trans (still_kill _ index)
      · exact marked.trans (still_addEvent _ .poll)

theorem addedTo_exitProcess (exit : Exit) :
    session.AddedTo (session.exitProcess index command exit) := by
  refine (session.still_endProcess index exit.returnCode).toAddedTo.trans ?_
  generalize endedIs : session.endProcess index exit.returnCode = ended
  simp only [exitProcess, endedIs, updateHost]
  split
  · split
    · rename_i written
      exact addedTo_of_tree (FileTree.keepsDirectories_write written) rfl rfl rfl
    · exact Std.Refl.refl ended
  · exact Std.Refl.refl ended

theorem addedTo_await (course : Course) :
    session.AddedTo (session.await index command course).2 := by
  have waits := (session.still_addEvent (.communicate session.runner.timeout)).toAddedTo
  have broken (cause : WaitBreak) {waiting : Session} (waits : session.AddedTo waiting) :
      session.AddedTo (waiting.breakOff index cause) :=
    (waits.trans (still_kill _ index).toAddedTo).trans (still_addEvent _ _).toAddedTo
  rcases course with exit | cause | ⟨_ | _, exit⟩ | cause
  · exact waits.trans (addedTo_exitProcess _ index command exit)
  · exact broken cause waits
  · exact (waits.trans (still_cancel _).toAddedTo).trans
      (still_endProcess _ index killedCode).toAddedTo
  · exact (waits.trans (addedTo_exitProcess _ index command exit)).trans (still_cancel _).toAddedTo
  · exact (broken cause waits).trans (still_cancel _).toAddedTo

theorem addedTo_beginCall : session.AddedTo (session.beginCall command).2 := by
  unfold beginCall
  split
  · exact Std.Refl.refl _
  · dsimp only
    split <;> exact addedTo_of_tree (.refl _) rfl rfl rfl

theorem addedTo_callResult (stage : Option String) (timeout : Option Float)
    (begun : Begun × Session) : begun.2.AddedTo (callResult stage timeout command begun).2 := by
  rcases begun with ⟨_ | _ | ⟨index, course⟩, after⟩
  · exact Std.Refl.refl _
  · exact Std.Refl.refl _
  · exact (addedTo_await after index command course).trans (addedTo_of_tree (.refl _) rfl rfl rfl)

end Session

open Session

theorem runTool_adds (arguments : List String) (stage : Option String) :
    (runTool arguments stage).Always AddedTo := by
  intro before
  let command := before.runner.binary :: arguments
  have announced : before.AddedTo (before.announce stage command) :=
    (before.still_writeLog (by decide) "tool" (callText stage command)).toAddedTo
  rw [runTool_eq]
  exact (announced.trans (addedTo_beginCall _ command)).trans (addedTo_callResult command _ _ _)

theorem writeLog_still {level : LogLevel} (other : level ≠ .warning) (part message : String) :
    (Act.writeLog level part message).Always Still :=
  fun before => before.still_writeLog other part message

theorem enterStage_still (observer : Observer) (stage : Stage) :
    (enterStage observer stage).Always Still := by
  apply enterStage_induction (Act.Always · Still)
  case bind => exact fun early late => early.bind late
  case marks => exact fun _ _ => still_of_same rfl rfl rfl rfl rfl rfl
  case logs => exact fun message => writeLog_still (by decide) _ message
  case prints => exact fun _ _ => still_of_same rfl rfl rfl rfl rfl rfl
  case cancels => exact fun session => session.still_cancel
  case breaks => exact .throw
  case rests => exact .pure ()

/-! ## Before there is a workspace -/

variable {τ : Type} [Quantity τ]

theorem still_chooseId (session : Session) (id : Option String) :
    session.Still { session with host := (session.host.chooseId id).2 } := by
  unfold Host.chooseId
  split
  · split <;> exact still_of_same rfl rfl rfl rfl rfl rfl
  · exact still_of_same rfl rfl rfl rfl rfl rfl

theorem idle_make (session : Session) (exportId : String) (root : Option String) :
    session.Idle { session with host := (Workspace.make exportId root session.host).2 } := by
  unfold Workspace.make
  split
  · exact Std.Refl.refl session
  · have kept (path : Path) : session.host.tree.KeepsDirectories
        (session.host.tree.makeNewDirectory session.host.workingPlace path).2 :=
      FileTree.makeNewDirectory_induction session.host.tree.KeepsDirectories
        FileTree.KeepsDirectories.makeDirectory (.refl _) path
    have kept := kept (Workspace.pathOf (root.getD session.host.temporaryRoot) exportId)
    rcases made : session.host.tree.makeNewDirectory session.host.workingPlace
      (Workspace.pathOf (root.getD session.host.temporaryRoot) exportId) with ⟨fault | _, tree⟩
    · rw [made] at kept
      simp only [made]
      cases fault <;> exact ⟨addedTo_of_tree kept rfl rfl rfl, rfl, rfl⟩
    · rw [made] at kept
      simp only [made]
      have changed : session.Idle { session with host := { session.host with tree } } :=
        ⟨addedTo_of_tree kept rfl rfl rfl, rfl, rfl⟩
      exact changed.trans (Session.still_writeLog _ (by decide) "workspace" _).toIdle

theorem acquire_idles (id root : Option String) :
    (Act.onHost (Workspace.acquire id root)).Always Idle :=
  fun before => (still_chooseId before id).toIdle.trans (idle_make _ _ root)

theorem prepare_idles (observer : Observer) (settings : Settings) (timeline : Timeline τ)
    (exportId : Option String) : (prepare observer settings timeline exportId).Always Idle :=
  ((enterStage_still observer .validating).mono Still.toIdle).bind fun _ =>
    (Act.Always.ofExcept _ _).bind fun _ =>
      (acquire_idles exportId settings.workspaceRoot).bind fun _ => .pure _

theorem settle_still (output : String) (exportId : Option String)
    (produced : Except Problem Unit) : (settle output exportId produced).Always Still := by
  rcases produced with problem | ⟨⟩
  · cases problem with
    | failure failure => exact fun before => before.still_writeLog (by decide) "pipeline" _
    | _ => exact .pure _
  · exact .pure _

/-! ## In the workspace -/

theorem writeFile_adds (path : Path) (content : String) :
    (Act.writeFile path content).Always AddedTo := by
  intro before
  unfold Act.writeFile
  rw [run_getThe]
  cases written : before.host.tree.write before.host.workingPlace path content with
  | error fault => exact Std.Refl.refl before
  | ok tree => exact addedTo_of_tree (FileTree.keepsDirectories_write written) rfl rfl rfl

theorem copyFile_adds (source target : Path) : (Act.copyFile source target).Always AddedTo :=
  .getThe fun _ => (Act.Always.ofExcept _ _).bind fun content => writeFile_adds target content

theorem writeList_adds (list : Path) (parts : List Path) :
    (Act.writeList list parts).Always AddedTo :=
  .getThe fun _ => writeFile_adds _ _

theorem makeOutputDirectory_adds (output : String) :
    (makeOutputDirectory output).Always AddedTo := by
  intro before
  exact addedTo_of_tree (FileTree.makeDirectories_induction before.host.tree.KeepsDirectories
    FileTree.KeepsDirectories.makeDirectory (.refl _) _ _) rfl rfl rfl

theorem adds_law (observer : Observer) (workers : Int) :
    StepLaw observer workers fun step => step.Always AddedTo where
  toSequenceLaw := Act.Always.sequence
  runJobs := Act.Always.runJobs workers
  writeLog := fun part message _ =>
    (writeLog_still (by decide) part message).mono (·.toAddedTo)
  copyFile := copyFile_adds
  writeList := writeList_adds
  enterStage := fun stage => (enterStage_still observer stage).mono (·.toAddedTo)
  runTool := fun arguments stage _ _ rest =>
    (runTool_adds arguments (some stage.name)).bind fun _ => rest

theorem produce_adds (observer : Observer) (settings : Settings) (checked : CheckedTimeline τ)
    (workspace : Workspace) (output : String) :
    (produce observer settings checked workspace output).Always AddedTo :=
  (adds_law observer settings.workers).produce checked workspace (makeOutputDirectory_adds output)

end Montage
