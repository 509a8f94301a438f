/-! What a call of a tool comes to. -/

namespace Montage

inductive CancelMoment where
  | running
  | finished
  deriving DecidableEq, Repr

structure Exit where
  returnCode : Int := 0
  stdout : String := ""
  stderr : String := ""
  leavesFile : Bool := false
  deriving DecidableEq, Repr

inductive WaitBreak where
  | timeout
  | crash (text : String)
  | interrupt
  deriving DecidableEq, Repr

inductive Course where
  | exits (exit : Exit)
  | breaksOff (cause : WaitBreak)
  /-- The caller cancels. A process that still runs is killed and does not come to its
  exit. -/
  | isCancelled (moment : CancelMoment) (exit : Exit)
  /-- The waiting breaks off, and the caller cancels when the process is already killed. -/
  | isCancelledLate (cause : WaitBreak)
  deriving DecidableEq, Repr

inductive Outcome where
  | cannotStart (reason : String)
  | starts (course : Course)
  deriving DecidableEq, Repr

inductive ProcessEvent where
  /-- Waiting for its end and its output, for so many seconds at most. -/
  | communicate (limit : Option Float)
  | poll
  | kill
  | wait

def WaitBreak.reaping : WaitBreak → ProcessEvent
  | .timeout => .communicate none
  | .crash _ | .interrupt => .wait

inductive ProcessState where
  | running
  | exited (returnCode : Int)
  deriving DecidableEq, Repr

def killedCode : Int := -9

end Montage
