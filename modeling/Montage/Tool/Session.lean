import Montage.Host
import Montage.Text.Shell

/-! A runner of ffmpeg on a machine, and the steps that it takes under its lock. The steps
are functions of their own, so that a single call and any number of calls at once are made
of the same ones. -/

namespace Montage

structure Runner where
  binary : String
  timeout : Option Float
  cancelled : Bool := false
  inFlight : Option Nat := none

structure Session where
  host : Host
  runner : Runner
  stages : List Stage := []

/-- A step that changes the machine and the runner and that a problem can stop. -/
abbrev Act (α : Type) := ExceptT Problem (StateM Session) α

namespace Session

def updateHost (session : Session) (change : Host → Host) : Session :=
  { session with host := change session.host }

def setInFlight (session : Session) (inFlight : Option Nat) : Session :=
  { session with runner := { session.runner with inFlight } }

/-! ## Processes -/

def addProcess (session : Session) : Nat × Session :=
  (session.host.processes.length, session.updateHost fun host =>
    { host with processes := host.processes ++ [.running] })

def isRunning (session : Session) (index : Nat) : Bool :=
  session.host.processes[index]? == some .running

def endProcess (session : Session) (index : Nat) (returnCode : Int) : Session :=
  session.updateHost fun host =>
    { host with processes := host.processes.modify index fun
      | .running => .exited returnCode
      | ended => ended }

def kill (session : Session) (index : Nat) : Session :=
  (session.endProcess index killedCode).updateHost (·.addEvent .kill)

def exitProcess (session : Session) (index : Nat) (command : Command) (exit : Exit) :
    Session :=
  (session.endProcess index exit.returnCode).updateHost fun host =>
    if exit.leavesFile then
      match host.tree.write host.workingPlace (.ofText (command.getLastD "")) "media" with
      | .ok tree => { host with tree }
      | .error _ => host
    else host

/-! ## Steps under the lock -/

inductive Begun where
  | refused
  | cannotStart (reason : String)
  | started (index : Nat) (course : Course)

/-- Begins a call: unless the runner was cancelled, the process is started and is the one
that the runner knows of. -/
def beginCall (session : Session) (command : Command) : Begun × Session :=
  if session.runner.cancelled then (.refused, session)
  else
    let host := session.host
    let outcome := host.script host.calls.length command
    let called := session.updateHost fun host => { host with calls := host.calls ++ [command] }
    match outcome with
    | .cannotStart reason => (.cannotStart reason, called)
    | .starts course =>
        let (index, started) := called.addProcess
        (.started index course, started.setInFlight (some index))

def endCall (session : Session) : Session :=
  session.setInFlight none

/-- Cancels: no further call starts a process, and the process that the runner knows of is
killed if it still runs. -/
def cancel (session : Session) : Session :=
  let cancelled := { session with runner := { session.runner with cancelled := true } }
  match session.runner.inFlight with
  | none => cancelled
  | some index =>
      let polled := cancelled.updateHost (·.addEvent .poll)
      if polled.isRunning index then
        let number := session.host.processNumber index
        (polled.updateHost (·.writeLog .info "tool" s!"Cancelling ffmpeg process {number}")).kill
          index
      else polled

def reset (session : Session) : Session :=
  { session with runner := { session.runner with cancelled := false } }

/-! ## Waiting -/

def breakOff (session : Session) (index : Nat) (cause : WaitBreak) : Session :=
  (session.kill index).updateHost (·.addEvent cause.reaping)

def await (session : Session) (index : Nat) (command : Command) (course : Course) :
    Except WaitBreak Exit × Session :=
  let waiting := session.updateHost (·.addEvent (.communicate session.runner.timeout))
  match course with
  | .exits exit => (.ok exit, waiting.exitProcess index command exit)
  | .isCancelled .finished exit => (.ok exit, (waiting.exitProcess index command exit).cancel)
  | .isCancelled .running exit =>
      (.ok { exit with returnCode := killedCode }, waiting.cancel.endProcess index killedCode)
  | .breaksOff cause => (.error cause, waiting.breakOff index cause)
  | .isCancelledLate cause => (.error cause, (waiting.breakOff index cause).cancel)

end Session

end Montage
