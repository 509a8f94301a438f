import Montage.Proofs.Tool.Sharing

/-! What each outcome of a command comes to: how its process ends, what the runner asks of it
meanwhile, and what the call gives. -/

namespace Montage

/-! ## Courses -/

namespace Course

def ownExit : Course → Option Exit
  | .exits exit | .isCancelled .finished exit => some exit
  | .breaksOff _ | .isCancelled .running _ | .isCancelledLate _ => none

def waitBreak? : Course → Option WaitBreak
  | .breaksOff cause | .isCancelledLate cause => some cause
  | .exits _ | .isCancelled .. => none

def returnCode (course : Course) : Int :=
  match course.ownExit with
  | some exit => exit.returnCode
  | none => killedCode

def leavesFile (course : Course) : Bool :=
  match course.ownExit with
  | some exit => exit.leavesFile
  | none => false

def cancels : Course → Bool
  | .isCancelled .. | .isCancelledLate _ => true
  | .exits _ | .breaksOff _ => false

def events (limit : Option Float) : Course → List ProcessEvent
  | .exits _ => [.communicate limit]
  | .breaksOff cause => [.communicate limit, .kill, cause.reaping]
  | .isCancelled .running _ => [.communicate limit, .poll, .kill]
  | .isCancelled .finished _ => [.communicate limit, .poll]
  | .isCancelledLate cause => [.communicate limit, .kill, cause.reaping, .poll]

def answer (limit : Option Float) (stage : Option String) : Course → Except Problem String
  | .exits exit => exitResult exit false stage
  | .breaksOff cause | .isCancelledLate cause => .error (waitProblem limit stage cause)
  | .isCancelled .. => .error (.failure (cancelledFailure stage))

theorem answer_eq_ok_iff {limit : Option Float} {stage : Option String} {course : Course}
    {stdout : String} :
    course.answer limit stage = .ok stdout ↔
      course.cancels = false ∧
        ∃ exit, course.ownExit = some exit ∧ exit.returnCode = 0 ∧ exit.stdout = stdout := by
  rcases course with exit | cause | ⟨_ | _, exit⟩ | cause <;>
    simp [answer, cancels, ownExit, exitResult]
  by_cases succeeds : exit.returnCode = 0 <;> simp [succeeds]

end Course

namespace Outcome

def ownExit : Outcome → Option Exit
  | .cannotStart _ => none
  | .starts course => course.ownExit

def ended : Outcome → List ProcessState
  | .cannotStart _ => []
  | .starts course => [.exited course.returnCode]

def leavesFile : Outcome → Bool
  | .cannotStart _ => false
  | .starts course => course.leavesFile

def waitBreak? : Outcome → Option WaitBreak
  | .cannotStart _ => none
  | .starts course => course.waitBreak?

def cancels : Outcome → Bool
  | .cannotStart _ => false
  | .starts course => course.cancels

def events (limit : Option Float) : Outcome → List ProcessEvent
  | .cannotStart _ => []
  | .starts course => course.events limit

def answer (limit : Option Float) (stage : Option String) : Outcome → Except Problem String
  | .cannotStart reason => .error (.failure (cannotStartFailure reason stage))
  | .starts course => course.answer limit stage

theorem answer_eq_ok_iff {limit : Option Float} {stage : Option String} {outcome : Outcome}
    {stdout : String} :
    outcome.answer limit stage = .ok stdout ↔
      outcome.cancels = false ∧
        ∃ exit, outcome.ownExit = some exit ∧ exit.returnCode = 0 ∧ exit.stdout = stdout := by
  cases outcome with
  | cannotStart reason => simp [answer, ownExit]
  | starts course => exact Course.answer_eq_ok_iff

/-- A cancellation decides what a call gives, unless the waiting has been broken off. -/
theorem answer_of_cancels {limit : Option Float} {stage : Option String} {outcome : Outcome}
    (cancels : outcome.cancels = true) (waits : outcome.waitBreak? = none) :
    outcome.answer limit stage = .error (.failure (cancelledFailure stage)) := by
  match outcome with
  | .starts (.isCancelled moment exit) => rfl
  | .starts (.isCancelledLate cause) => cases waits
  | .cannotStart reason | .starts (.exits exit) | .starts (.breaksOff cause) => cases cancels

theorem answer_of_waitBreak {limit : Option Float} {stage : Option String} {outcome : Outcome}
    {cause : WaitBreak} (breaks : outcome.waitBreak? = some cause) :
    outcome.answer limit stage = .error (waitProblem limit stage cause) := by
  match outcome with
  | .starts (.breaksOff other) | .starts (.isCancelledLate other) =>
      cases breaks
      rfl
  | .cannotStart reason | .starts (.exits exit) | .starts (.isCancelled moment exit) =>
      cases breaks

def Succeeds (outcome : Outcome) : Prop :=
  ∃ exit : Exit, outcome = .starts (.exits exit) ∧ exit.returnCode = 0

theorem succeeds_iff (limit : Option Float) (stage : Option String) {outcome : Outcome} :
    outcome.Succeeds ↔ ∃ stdout, outcome.answer limit stage = .ok stdout := by
  constructor
  · rintro ⟨exit, rfl, zero⟩
    exact ⟨exit.stdout, answer_eq_ok_iff.mpr ⟨rfl, exit, rfl, zero, rfl⟩⟩
  · rintro ⟨stdout, gives⟩
    rcases answer_eq_ok_iff.mp gives with ⟨quiet, exit, itself, zero, _⟩
    rcases outcome with reason | own | cause | ⟨_ | _, own⟩ | cause <;> cases itself
    · exact ⟨exit, rfl, zero⟩
    · cases quiet

end Outcome

/-! ## Waiting for a process -/

theorem modify_concat {α : Type} (earlier : List α) (last : α) (change : α → α) :
    (earlier ++ [last]).modify earlier.length change = earlier ++ [change last] := by
  induction earlier with
  | nil => rfl
  | cons first earlier induction => simpa using induction

namespace Session

variable {session : Session} {earlier : List ProcessState}

theorem processes_endProcess_running
    (processes : session.host.processes = earlier ++ [.running]) (returnCode : Int) :
    (session.endProcess earlier.length returnCode).host.processes =
      earlier ++ [.exited returnCode] := by
  simp only [endProcess, updateHost, processes]
  exact modify_concat earlier .running _

theorem processes_endProcess_exited {ended : Int}
    (processes : session.host.processes = earlier ++ [.exited ended]) (returnCode : Int) :
    (session.endProcess earlier.length returnCode).host.processes = earlier ++ [.exited ended] := by
  simp only [endProcess, updateHost, processes]
  exact modify_concat earlier (.exited ended) _

theorem cancel_runner (session : Session) :
    session.cancel.runner = { session.runner with cancelled := true } := by
  unfold cancel
  cases session.runner.inFlight with
  | none => rfl
  | some index =>
      dsimp only
      split <;> rfl

/-- Cancelling leaves the commands, the files and what the outside decides as they are. -/
theorem cancel_keeps (session : Session) :
    session.cancel.host.calls = session.host.calls ∧
      session.cancel.host.script = session.host.script ∧
      session.cancel.host.workingPlace = session.host.workingPlace ∧
      session.cancel.host.tree = session.host.tree := by
  unfold cancel
  cases session.runner.inFlight with
  | none => exact ⟨rfl, rfl, rfl, rfl⟩
  | some index =>
      dsimp only
      split <;>
        simp only [kill, endProcess, updateHost, Host.addEvent, Host.writeLog, and_self]

/-- A process that still runs is killed. -/
theorem cancel_of_running {index : Nat} (known : session.runner.inFlight = some index)
    (runs : session.isRunning index = true) :
    session.cancel.host.processes = (session.endProcess index killedCode).host.processes ∧
      session.cancel.host.events = session.host.events ++ [.poll, .kill] := by
  have stillRuns : session.host.processes[index]? = some .running :=
    (isRunning_iff session index).mp runs
  simp [cancel, known, isRunning, updateHost, Host.addEvent, Host.writeLog, stillRuns, kill,
    endProcess]

/-- A process that has ended is not killed. -/
theorem cancel_of_ended {index : Nat} (known : session.runner.inFlight = some index)
    (ended : session.isRunning index = false) :
    session.cancel.host.processes = session.host.processes ∧
      session.cancel.host.events = session.host.events ++ [.poll] := by
  have polled : isRunning (updateHost
      { session with runner := { session.runner with cancelled := true } } (·.addEvent .poll))
      index = false := ended
  simp only [cancel, known] at polled ⊢
  rw [polled]
  exact ⟨rfl, rfl⟩

/-- A process that comes to its own end takes nothing from its runner. -/
theorem exitProcess_eq (session : Session) (index : Nat) (command : Command) (exit : Exit) :
    session.exitProcess index command exit =
      (session.endProcess index exit.returnCode).updateHost fun host =>
        { host with
          tree := if exit.leavesFile then
              host.tree.leaving host.workingPlace (.ofText (command.getLastD ""))
            else host.tree } := by
  unfold exitProcess FileTree.leaving updateHost
  cases exit.leavesFile with
  | false => rfl
  | true =>
      simp only [if_true]
      cases FileTree.write (session.endProcess index exit.returnCode).host.tree
        (session.endProcess index exit.returnCode).host.workingPlace
        (.ofText (command.getLastD "")) "media" <;> rfl

structure Awaited (earlier : List ProcessState) (before : Session) (command : Command)
    (course : Course) (after : Session) : Prop where
  runner : after.runner =
    { before.runner with cancelled := before.runner.cancelled || course.cancels }
  calls : after.host.calls = before.host.calls
  script : after.host.script = before.host.script
  workingPlace : after.host.workingPlace = before.host.workingPlace
  processes : after.host.processes = earlier ++ [.exited course.returnCode]
  events : after.host.events = before.host.events ++ course.events before.runner.timeout
  tree : after.host.tree =
    if course.leavesFile then
      before.host.tree.leaving before.host.workingPlace (.ofText (command.getLastD ""))
    else before.host.tree

variable {before : Session} (command : Command)

theorem await_exits_course (processes : before.host.processes = earlier ++ [.running])
    (exit : Exit) :
    before.Awaited earlier command (.exits exit)
      (before.await earlier.length command (.exits exit)).2 := by
  have ended := processes_endProcess_running processes exit.returnCode
  change Awaited _ _ _ _ (exitProcess _ _ _ _)
  rw [exitProcess_eq]
  exact ⟨by simp [Course.cancels, updateHost, endProcess], rfl, rfl, rfl, ended, rfl, rfl⟩

/-- A process that its runner stops waiting for is killed. -/
theorem await_breaksOff_course (processes : before.host.processes = earlier ++ [.running])
    (cause : WaitBreak) :
    before.Awaited earlier command (.breaksOff cause)
      (before.await earlier.length command (.breaksOff cause)).2 := by
  have killed := processes_endProcess_running processes killedCode
  simp only [await, breakOff, kill, endProcess, updateHost, Host.addEvent] at killed ⊢
  refine ⟨?_, rfl, rfl, rfl, killed, ?_, rfl⟩
  · simp [Course.cancels]
  · simp [Course.events]

theorem await_cancelled_running (known : before.runner.inFlight = some earlier.length)
    (processes : before.host.processes = earlier ++ [.running]) (exit : Exit) :
    before.Awaited earlier command (.isCancelled .running exit)
      (before.await earlier.length command (.isCancelled .running exit)).2 := by
  let waiting := before.updateHost (·.addEvent (.communicate before.runner.timeout))
  change Awaited _ _ _ _ (waiting.cancel.endProcess earlier.length killedCode)
  have runs : waiting.isRunning earlier.length = true := by
    rw [isRunning_iff, show waiting.host.processes = earlier ++ [.running] from processes]
    simp
  have inFlight : waiting.runner.inFlight = some earlier.length := known
  rcases cancel_of_running inFlight runs with ⟨killed, events⟩
  rcases waiting.cancel_keeps with ⟨calls, script, workingPlace, tree⟩
  have gone := killed.trans (processes_endProcess_running processes killedCode)
  refine ⟨?_, calls, script, workingPlace, processes_endProcess_exited gone killedCode, ?_, tree⟩
  · rw [Course.cancels, Bool.or_true]
    exact waiting.cancel_runner
  · refine events.trans ?_
    simp [waiting, updateHost, Host.addEvent, Course.events]

variable {command}

/-- Once the process has ended, a cancellation only tells the runner. -/
theorem Awaited.cancel {after : Session} {course later : Course}
    (awaited : before.Awaited earlier command course after)
    (known : before.runner.inFlight = some earlier.length) (cancels : later.cancels = true)
    (returnCode : later.returnCode = course.returnCode)
    (leaves : later.leavesFile = course.leavesFile)
    (events : later.events before.runner.timeout =
      course.events before.runner.timeout ++ [.poll]) :
    before.Awaited earlier command later after.cancel := by
  have ended : after.isRunning earlier.length = false := by
    rw [isRunning, awaited.processes]
    simp
  have knows : after.runner.inFlight = some earlier.length := by rw [awaited.runner, ← known]
  rcases cancel_of_ended knows ended with ⟨stays, polled⟩
  rcases after.cancel_keeps with ⟨calls, script, workingPlace, tree⟩
  refine ⟨?_, calls.trans awaited.calls, script.trans awaited.script,
    workingPlace.trans awaited.workingPlace, ?_, ?_, ?_⟩
  · rw [after.cancel_runner, awaited.runner, cancels, Bool.or_true]
  · rw [stays, awaited.processes, returnCode]
  · rw [polled, awaited.events, events, List.append_assoc]
  · rw [tree, awaited.tree, leaves]

variable (command)

theorem await_course (known : before.runner.inFlight = some earlier.length)
    (processes : before.host.processes = earlier ++ [.running]) (course : Course) :
    before.Awaited earlier command course (before.await earlier.length command course).2 := by
  match course with
  | .exits exit => exact await_exits_course command processes exit
  | .breaksOff cause => exact await_breaksOff_course command processes cause
  | .isCancelled .running exit => exact await_cancelled_running command known processes exit
  | .isCancelled .finished exit =>
      exact (await_exits_course command processes exit).cancel known rfl rfl rfl rfl
  | .isCancelledLate cause =>
      exact (await_breaksOff_course command processes cause).cancel known rfl rfl rfl rfl

structure Ran (before : Session) (command : Command) (outcome : Outcome) (after : Session) :
    Prop where
  binary : after.runner.binary = before.runner.binary
  timeout : after.runner.timeout = before.runner.timeout
  cancelled : after.runner.cancelled = outcome.cancels
  idle : before.runner.inFlight = none → after.runner.inFlight = none
  calls : after.host.calls = before.host.calls ++ [command]
  script : after.host.script = before.host.script
  workingPlace : after.host.workingPlace = before.host.workingPlace
  processes : after.host.processes = before.host.processes ++ outcome.ended
  events : after.host.events = before.host.events ++ outcome.events before.runner.timeout
  tree : after.host.tree =
    if outcome.leavesFile then
      before.host.tree.leaving before.host.workingPlace (.ofText (command.getLastD ""))
    else before.host.tree

variable (session : Session) {command}

theorem beginCall_of_cancelled (cancelled : session.runner.cancelled = true) :
    session.beginCall command = (.refused, session) := by
  rw [beginCall, if_pos cancelled]

theorem beginCall_of_cannotStart (notCancelled : session.runner.cancelled = false)
    {reason : String}
    (scripted : session.host.script session.host.calls.length command = .cannotStart reason) :
    session.beginCall command = (.cannotStart reason,
      session.updateHost fun host => { host with calls := host.calls ++ [command] }) := by
  rw [beginCall, if_neg (ne_true_of_eq_false notCancelled)]
  simp only [scripted]

def starting (command : Command) : Session where
  host :=
    { session.host with
      calls := session.host.calls ++ [command]
      processes := session.host.processes ++ [.running] }
  runner := { session.runner with inFlight := some session.host.processes.length }
  stages := session.stages

theorem beginCall_of_course (notCancelled : session.runner.cancelled = false) {course : Course}
    (scripted : session.host.script session.host.calls.length command = .starts course) :
    session.beginCall command =
      (.started session.host.processes.length course, session.starting command) := by
  rw [beginCall, if_neg (ne_true_of_eq_false notCancelled)]
  simp only [scripted]
  rfl

end Session

/-! ## Calls -/

theorem waitResult_await (session : Session) (index : Nat) (command : Command) (course : Course)
    (limit : Option Float) (stage : Option String) :
    waitResult limit stage course.cancels (session.await index command course).1 =
      course.answer limit stage := by
  rcases course with exit | cause | ⟨_ | _, exit⟩ | cause <;> rfl

variable {before : Session} (arguments : List String) (stage : Option String)

theorem runTool_of_cancelled (cancelled : before.runner.cancelled = true) :
    runTool arguments stage before =
      (.error (.failure (cancelledFailure stage)),
        before.announce stage (before.runner.binary :: arguments)) := by
  let announced := before.announce stage (before.runner.binary :: arguments)
  rw [runTool_eq, announced.beginCall_of_cancelled cancelled]
  rfl

theorem runTool_of_cannotStart (notCancelled : before.runner.cancelled = false) {reason : String}
    (scripted : before.host.script before.host.calls.length (before.runner.binary :: arguments) =
      .cannotStart reason) :
    ∃ after, runTool arguments stage before =
        (.error (.failure (cannotStartFailure reason stage)), after) ∧
      before.Ran (before.runner.binary :: arguments) (.cannotStart reason) after := by
  let announced := before.announce stage (before.runner.binary :: arguments)
  rw [runTool_eq, announced.beginCall_of_cannotStart notCancelled scripted]
  refine ⟨_, rfl, rfl, rfl, notCancelled, id, rfl, rfl, rfl, ?_, ?_, rfl⟩
  · exact (List.append_nil _).symm
  · exact (List.append_nil _).symm

theorem runTool_of_course (notCancelled : before.runner.cancelled = false) {course : Course}
    (scripted : before.host.script before.host.calls.length (before.runner.binary :: arguments) =
      .starts course) :
    ∃ after, runTool arguments stage before =
        (course.answer before.runner.timeout stage, after) ∧
      before.Ran (before.runner.binary :: arguments) (.starts course) after := by
  let command := before.runner.binary :: arguments
  let announced := before.announce stage command
  let waited := (announced.starting command).await before.host.processes.length command course
  have awaited : (announced.starting command).Awaited before.host.processes command course
      waited.2 := Session.await_course command rfl rfl course
  have cancelled : waited.2.runner.cancelled = course.cancels := by
    rw [awaited.runner]
    simp [Session.starting, announced, Session.announce, Session.updateHost, notCancelled]
  have binary : waited.2.runner.binary = before.runner.binary := by
    rw [awaited.runner]
    rfl
  have timeout : waited.2.runner.timeout = before.runner.timeout := by
    rw [awaited.runner]
    rfl
  refine ⟨waited.2.endCall, ?_, binary, timeout, cancelled, fun _ => rfl, awaited.calls,
    awaited.script, awaited.workingPlace, awaited.processes, awaited.events, awaited.tree⟩
  rw [runTool_eq, announced.beginCall_of_course notCancelled scripted]
  change (waitResult before.runner.timeout stage waited.2.runner.cancelled waited.1,
    waited.2.endCall) = _
  rw [cancelled, waitResult_await]

/-- What a call gives and leaves when the runner was not cancelled before it. -/
theorem runTool_of_not_cancelled (notCancelled : before.runner.cancelled = false) :
    let command := before.runner.binary :: arguments
    let outcome := before.host.script before.host.calls.length command
    ∃ after, runTool arguments stage before =
        (outcome.answer before.runner.timeout stage, after) ∧
      before.Ran command outcome after := by
  intro command outcome
  cases scripted : outcome with
  | cannotStart reason => exact runTool_of_cannotStart arguments stage notCancelled scripted
  | starts course => exact runTool_of_course arguments stage notCancelled scripted

end Montage
