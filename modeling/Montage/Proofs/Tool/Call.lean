import Montage.Proofs.Steps
import Montage.Tool.Run

/-! One call of ffmpeg as a function of the session that it starts in. -/

namespace Montage

variable {α β : Type}

theorem run_getThe (next : Session → Act α) (session : Session) :
    (getThe Session >>= next) session = next session session := rfl

theorem Act.run_change (step : Session → α × Session) (next : α → Act β) (session : Session) :
    (Act.change step >>= next) session = next (step session).1 (step session).2 := rfl

theorem Act.run_writeLog (level : LogLevel) (part message : String) (next : Unit → Act α)
    (session : Session) :
    (Act.writeLog level part message >>= next) session =
      next () (session.updateHost (·.writeLog level part message)) := rfl

def callText (stage : Option String) (command : Command) : String :=
  "ffmpeg [" ++ stageMark stage ++ "]: " ++ shellCommand command

def Session.announce (session : Session) (stage : Option String) (command : Command) : Session :=
  session.updateHost (·.writeLog .debug "tool" (callText stage command))

def exitResult (exit : Exit) (cancelled : Bool) (stage : Option String) : Except Problem String :=
  if cancelled then .error (.failure (cancelledFailure stage))
  else if exit.returnCode ≠ 0 then .error (.failure (exitFailure exit stage))
  else .ok exit.stdout

def waitResult (timeout : Option Float) (stage : Option String) (cancelled : Bool) :
    Except WaitBreak Exit → Except Problem String
  | .error reason => .error (waitProblem timeout stage reason)
  | .ok exit => exitResult exit cancelled stage

def callResult (stage : Option String) (timeout : Option Float) (command : Command) :
    Session.Begun × Session → Except Problem String × Session
  | (.refused, after) => (.error (.failure (cancelledFailure stage)), after)
  | (.cannotStart reason, after) => (.error (.failure (cannotStartFailure reason stage)), after)
  | (.started index course, started) =>
      let waited := started.await index command course
      let after := waited.2.endCall
      (waitResult timeout stage after.runner.cancelled waited.1, after)

theorem runTool_eq (arguments : List String) (stage : Option String) (session : Session) :
    runTool arguments stage session =
      callResult stage session.runner.timeout (session.runner.binary :: arguments)
        ((session.announce stage (session.runner.binary :: arguments)).beginCall
          (session.runner.binary :: arguments)) := by
  unfold runTool Session.announce callText
  rw [run_getThe, Act.run_writeLog, Act.run_change]
  generalize begun : Session.beginCall _ _ = beginning
  rcases beginning with ⟨_ | _ | ⟨index, course⟩, after⟩
  · rfl
  · rfl
  · simp only [Act.run_change, callResult]
    cases (after.await index (session.runner.binary :: arguments) course).1 with
    | error reason => rfl
    | ok exit =>
        simp only [run_getThe, waitResult, exitResult]
        split
        · rfl
        · split <;> rfl

/-! ## Calls that succeed -/

def FileTree.leaving (tree : FileTree) (workingPlace : Place) (path : Path) : FileTree :=
  match tree.write workingPlace path "media" with
  | .ok left => left
  | .error _ => tree

theorem FileTree.leaving_of_write {tree left : FileTree} {workingPlace : Place} {path : Path}
    (written : tree.write workingPlace path "media" = .ok left) :
    tree.leaving workingPlace path = left := by
  rw [leaving, written]

namespace Session

structure SameWorld (before after : Session) : Prop where
  script : after.host.script = before.host.script
  workingPlace : after.host.workingPlace = before.host.workingPlace
  binary : after.runner.binary = before.runner.binary
  cancelled : after.runner.cancelled = before.runner.cancelled

theorem SameWorld.refl (session : Session) : SameWorld session session :=
  ⟨rfl, rfl, rfl, rfl⟩

theorem SameWorld.trans {first second third : Session} (early : SameWorld first second)
    (late : SameWorld second third) : SameWorld first third where
  script := late.script.trans early.script
  workingPlace := late.workingPlace.trans early.workingPlace
  binary := late.binary.trans early.binary
  cancelled := late.cancelled.trans early.cancelled

structure Called (before : Session) (command : Command) (exit : Exit) (after : Session) :
    Prop where
  world : SameWorld before after
  calls : after.host.calls = before.host.calls ++ [command]
  leaves : exit.leavesFile = true → after.host.tree =
    before.host.tree.leaving before.host.workingPlace (.ofText (command.getLastD ""))

theorem sameWorld_announce (session : Session) (stage : Option String) (command : Command) :
    session.SameWorld (session.announce stage command) :=
  ⟨rfl, rfl, rfl, rfl⟩

theorem beginCall_of_starts (session : Session) {command : Command} {course : Course}
    (notCancelled : session.runner.cancelled = false)
    (starts : session.host.script session.host.calls.length command = .starts course) :
    ∃ index started, session.beginCall command = (.started index course, started) ∧
      session.SameWorld started ∧ started.host.calls = session.host.calls ++ [command] ∧
      started.host.tree = session.host.tree := by
  unfold beginCall
  rw [if_neg (by simp [notCancelled])]
  simp only [starts]
  exact ⟨_, _, rfl, ⟨rfl, rfl, rfl, rfl⟩, rfl, rfl⟩

theorem exitProcess_leaves (before : Session) (index : Nat) (command : Command) (exit : Exit) :
    let after := before.exitProcess index command exit
    before.SameWorld after ∧ after.host.calls = before.host.calls ∧
      (exit.leavesFile = true → after.host.tree =
        before.host.tree.leaving before.host.workingPlace (.ofText (command.getLastD ""))) := by
  intro after
  unfold FileTree.leaving
  cases leaves : exit.leavesFile with
  | false =>
      have ended : after = before.endProcess index exit.returnCode := by
        simp only [after, exitProcess, leaves]
        rfl
      rw [ended]
      exact ⟨⟨rfl, rfl, rfl, rfl⟩, rfl, nofun⟩
  | true =>
      cases written : before.host.tree.write before.host.workingPlace
          (.ofText (command.getLastD "")) "media" with
      | error fault =>
          have ended : after = before.endProcess index exit.returnCode := by
            simp only [after, exitProcess, leaves, endProcess, updateHost, written]
            rfl
          rw [ended]
          exact ⟨⟨rfl, rfl, rfl, rfl⟩, rfl, fun _ => rfl⟩
      | ok tree =>
          have ended : after = (before.endProcess index exit.returnCode).updateHost
              fun host => { host with tree } := by
            simp only [after, exitProcess, leaves, endProcess, updateHost, written]
            rfl
          rw [ended]
          exact ⟨⟨rfl, rfl, rfl, rfl⟩, rfl, fun _ => rfl⟩

theorem await_exits (session : Session) (index : Nat) (command : Command) (exit : Exit) :
    ∃ after, session.await index command (.exits exit) = (.ok exit, after) ∧
      session.SameWorld after ∧ after.host.calls = session.host.calls ∧
      (exit.leavesFile = true → after.host.tree =
        session.host.tree.leaving session.host.workingPlace (.ofText (command.getLastD ""))) := by
  let waiting := session.updateHost (·.addEvent (.communicate session.runner.timeout))
  have sameWorld : session.SameWorld waiting := ⟨rfl, rfl, rfl, rfl⟩
  rcases waiting.exitProcess_leaves index command exit with ⟨world, calls, leaves⟩
  exact ⟨_, rfl, sameWorld.trans world, calls, leaves⟩

end Session

theorem runTool_of_exits {before : Session} {arguments : List String} {exit : Exit}
    (notCancelled : before.runner.cancelled = false)
    (exits : before.host.script before.host.calls.length (before.runner.binary :: arguments) =
      .starts (.exits exit)) (stage : Option String) :
    ∃ after, runTool arguments stage before = (exitResult exit false stage, after) ∧
      before.Called (before.runner.binary :: arguments) exit after := by
  generalize commandIs : before.runner.binary :: arguments = command at exits
  have announced := before.sameWorld_announce stage command
  rcases Session.beginCall_of_starts (before.announce stage command) notCancelled exits
    with ⟨index, started, begun, startedWorld, startedCalls, startedTree⟩
  rcases started.await_exits index command exit with
    ⟨exited, waited, exitWorld, exitCalls, leaves⟩
  have world : before.SameWorld exited := (announced.trans startedWorld).trans exitWorld
  have stillNot : exited.endCall.runner.cancelled = false := world.cancelled.trans notCancelled
  refine ⟨exited.endCall, ?_, world.trans ⟨rfl, rfl, rfl, rfl⟩, exitCalls.trans startedCalls, ?_⟩
  · rw [runTool_eq, commandIs, begun]
    simp only [callResult, waited, waitResult, stillNot]
  · rw [startedTree, startedWorld.workingPlace] at leaves
    exact leaves

theorem runTool_of_exit {before : Session} {arguments : List String} {exit : Exit}
    (notCancelled : before.runner.cancelled = false)
    (exits : before.host.script before.host.calls.length (before.runner.binary :: arguments) =
      .starts (.exits exit))
    (succeeds : exit.returnCode = 0) (stage : Option String) :
    ∃ after, runTool arguments stage before = (.ok exit.stdout, after) ∧
      before.Called (before.runner.binary :: arguments) exit after := by
  have result : exitResult exit false stage = .ok exit.stdout := by simp [exitResult, succeeds]
  rw [← result]
  exact runTool_of_exits notCancelled exits stage

def Host.AlwaysSucceeds (host : Host) : Prop :=
  ∀ index command, ∃ exit : Exit,
    host.script index command = .starts (.exits exit) ∧ exit.returnCode = 0

structure Session.Succeeds (session : Session) : Prop where
  notCancelled : session.runner.cancelled = false
  script : session.host.AlwaysSucceeds

theorem Session.Succeeds.of_sameWorld {before after : Session} (succeeds : before.Succeeds)
    (world : before.SameWorld after) : after.Succeeds where
  notCancelled := world.cancelled.trans succeeds.notCancelled
  script := by
    unfold Host.AlwaysSucceeds
    rw [world.script]
    exact succeeds.script

theorem runTool_of_succeeds {before : Session} (succeeds : before.Succeeds)
    (arguments : List String) (stage : Option String) :
    ∃ stdout after, runTool arguments stage before = (.ok stdout, after) ∧ after.Succeeds := by
  rcases succeeds.script before.host.calls.length (before.runner.binary :: arguments) with
    ⟨exit, exits, ended⟩
  rcases runTool_of_exit succeeds.notCancelled exits ended stage with ⟨after, ran, called⟩
  exact ⟨exit.stdout, after, ran, succeeds.of_sameWorld called.world⟩

end Montage
