import Montage.Number.Shortest
import Montage.Text.Lines
import Montage.Tool.Session

/-! One call of ffmpeg from start to end, and the question which ffmpeg there is. -/

namespace Montage

def cancelledFailure (stage : Option String) : Failure :=
  { kind := .cancelled, message := "Export cancelled", stage }

def cannotStartFailure (reason : String) (stage : Option String) : Failure where
  kind := .toolInvocation
  message := "Failed to execute FFmpeg. Make sure FFmpeg is installed and in your PATH. Error: " ++
    reason
  stage := stage

def timeoutFailure (limit : Option Float) (returnCode : Int) (stage : Option String) :
    Failure where
  kind := .toolTimeout (some returnCode) ""
  message := "FFmpeg timed out after " ++ (limit.map shortestText).getD "None" ++ "s"
  stage := stage

def exitFailure (exit : Exit) (stage : Option String) : Failure where
  kind := .toolExecution (some exit.returnCode) exit.stderr
  message := "FFmpeg error: " ++ exit.stderr
  stage := stage

namespace Act

def change (step : Session → α × Session) : Act α :=
  fun session => let (result, after) := step session; (.ok result, after)

def changeHost (step : Host → Host) : Act Unit :=
  change fun session => ((), session.updateHost step)

def writeLog (level : LogLevel) (part message : String) : Act Unit :=
  changeHost (·.writeLog level part message)

def fail (failure : Failure) : Act α :=
  throw (.failure failure)

def ofExcept (toProblem : ε → Problem) (result : Except ε α) : Act α :=
  match result with
  | .ok value => pure value
  | .error error => throw (toProblem error)

end Act

def stageMark (stage : Option String) : String :=
  match stage with
  | some name => if name.isEmpty then "-" else name
  | none => "-"

def waitProblem (limit : Option Float) (stage : Option String) : WaitBreak → Problem
  | .timeout => .failure (timeoutFailure limit killedCode stage)
  | .crash text => .crash text
  | .interrupt => .interrupted

/-- Calls ffmpeg and gives what it wrote. Whatever happens, its process has ended when the
call is over. A cancellation that came before the call or while it waits for the exit wins
over how the process ended; it does not win over what breaks off the waiting, even if it comes
while the killed process is still waited for. -/
def runTool (arguments : List String) (stage : Option String) : Act String := do
  let runner := (← getThe Session).runner
  let command := runner.binary :: arguments
  Act.writeLog .debug "tool" ("ffmpeg [" ++ stageMark stage ++ "]: " ++ shellCommand command)
  match ← Act.change (·.beginCall command) with
  | .refused => Act.fail (cancelledFailure stage)
  | .cannotStart reason => Act.fail (cannotStartFailure reason stage)
  | .started index course =>
      let waited ← Act.change (·.await index command course)
      Act.change fun session => ((), session.endCall)
      match waited with
      | .error reason => throw (waitProblem runner.timeout stage reason)
      | .ok exit =>
          if (← getThe Session).runner.cancelled then Act.fail (cancelledFailure stage)
          else if exit.returnCode ≠ 0 then Act.fail (exitFailure exit stage)
          else return exit.stdout

/-! ## Which ffmpeg there is -/

def Host.chooseFfmpeg (host : Host) (named : Option String) : String :=
  match named with
  | some binary => if binary.isEmpty then host.defaultFfmpeg else binary
  | none => host.defaultFfmpeg

def Host.newRunner (host : Host) (named : Option String) (timeout : Option Float) : Runner where
  binary := host.chooseFfmpeg named
  timeout := timeout

def versionLine (stdout : String) : String :=
  match lines stdout.toList with
  | [] => "Unknown version"
  | first :: _ => String.ofList first

def Host.probeFfmpeg (host : Host) (named : Option String) : Except Problem String × Host :=
  let command := [host.chooseFfmpeg named, "-version"]
  let called := { host with calls := host.calls ++ [command] }
  let notFound : Failure :=
    { kind := .toolInvocation
      message := "FFmpeg not found. Please install FFmpeg and add it to your PATH." }
  let answer : Except Problem String :=
    match host.script host.calls.length command with
    | .cannotStart _ => .error (.failure notFound)
    | .starts (.breaksOff cause) | .starts (.isCancelledLate cause) =>
        match cause with
        | .timeout => .error (.failure notFound)
        | .crash text => .error (.crash text)
        | .interrupt => .error .interrupted
    | .starts (.exits exit) | .starts (.isCancelled _ exit) =>
        if exit.returnCode = 0 then .ok (versionLine exit.stdout)
        else .error (.failure {
          kind := .toolExecution (some exit.returnCode) exit.stderr
          message := "FFmpeg found but returned an error" })
  (answer, called)

end Montage
