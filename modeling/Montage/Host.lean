import Montage.Problem
import Montage.Tool.Outcome

/-! The machine on which exports run: its files, the processes started on it, and the log.
What the outside decides, such as how a command ends, is part of it as data. -/

namespace Montage

inductive LogLevel where
  | debug
  | info
  | warning
  | error
  deriving DecidableEq, Repr

def LogLevel.name : LogLevel → String
  | .debug => "DEBUG"
  | .info => "INFO"
  | .warning => "WARNING"
  | .error => "ERROR"

structure LogLine where
  level : LogLevel
  part : String
  message : String
  deriving DecidableEq, Repr

namespace LogLine

def loggerName (line : LogLine) : String :=
  "cliptrack." ++ line.part

def text (line : LogLine) : String :=
  line.level.name ++ " " ++ line.loggerName ++ ": " ++ line.message

def isGrave (line : LogLine) : Bool :=
  line.level = .warning ∨ line.level = .error

end LogLine

abbrev Command := List String

/-- How the removal of a directory fails. `vanishing` is a removal that misses something it has
just seen, and gives up. -/
inductive RemovalFault where
  | reported (reason : String)
  | vanishing
  deriving DecidableEq, Repr

/-- A machine. What `script` says of a command depends on how many commands came before
it; `freshId` names the ids in the order in which they are made; `removalFault` is what
the removal of a directory fails with while it does; `sourceDuration` says how long a
source lasts, and `exportSeconds` how long an export takes. -/
structure Host where
  tree : FileTree := {}
  workingPlace : Place := []
  temporaryRoot : String := "/tmp"
  script : Nat → Command → Outcome := fun _ _ => .starts (.exits {})
  processNumber : Nat → Nat := fun index => index + 1
  freshId : Nat → String := fun index => "export" ++ integerText index
  removalFault : Option RemovalFault := none
  faultText : FileFault → String := fun _ => "file error"
  ffmpegFound : Option String := none
  sourceDuration : String → Float := fun _ => 0.0
  exportSeconds : Float := 0.0
  idsMade : Nat := 0
  calls : List Command := []
  processes : List ProcessState := []
  events : List ProcessEvent := []
  log : List LogLine := []
  printed : String := ""
  complained : String := ""

namespace Host

def writeLog (host : Host) (level : LogLevel) (part message : String) : Host :=
  { host with log := host.log ++ [⟨level, part, message⟩] }

def addEvent (host : Host) (event : ProcessEvent) : Host :=
  { host with events := host.events ++ [event] }

def print (host : Host) (line : String) : Host :=
  { host with printed := host.printed ++ line ++ "\n" }

def complain (host : Host) (line : String) : Host :=
  { host with complained := host.complained ++ line ++ "\n" }

def makeId (host : Host) : String × Host :=
  (host.freshId host.idsMade, { host with idsMade := host.idsMade + 1 })

def defaultFfmpeg (host : Host) : String :=
  host.ffmpegFound.getD "ffmpeg"

def resolve (host : Host) (path : Path) : Path :=
  path.resolve host.workingPlace

end Host

end Montage
