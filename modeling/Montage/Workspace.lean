import Montage.Host

/-! The scratch directory of an export: a directory of its own below some root, made new
and removed with all it holds. -/

namespace Montage

structure Workspace where
  path : Path
  exportId : String
  released : Bool := false

inductive Refusal where
  | invalidId (id : String)
  | taken (id : String) (path : Path)
  | cannotCreate (path : Path) (reason : String)
  deriving DecidableEq, Repr

def Refusal.message : Refusal → String
  | .invalidId id =>
      "Invalid export id " ++ quoted id ++ ": must not contain path separators or '..'"
  | .taken id path => "Workspace already exists for export '" ++ id ++ "': " ++ path.text
  | .cannotCreate path reason => "Cannot create workspace " ++ path.text ++ ": " ++ reason

def Refusal.toProblem (refusal : Refusal) : Problem :=
  .failure { kind := .workspace, message := refusal.message }

structure CleanupWarning where
  message : String
  deriving DecidableEq, Repr

/-- The id that is given; a new one when none is given or it is empty. -/
def Host.chooseId (host : Host) (id : Option String) : String × Host :=
  match id with
  | some given => if given.isEmpty then host.makeId else (given, host)
  | none => host.makeId

namespace Workspace

def namePrefix : String :=
  "cliptrack-"

def isPlainId (id : String) : Bool :=
  !id.toList.any ['/', '\\', '\x00'].contains && !Value.occursIn ['.', '.'] id.toList

example : isPlainId "a.b" ∧ ¬ isPlainId "a..b" ∧ ¬ isPlainId "a/b" := by decide

def pathOf (root : String) (id : String) : Path :=
  (Path.ofText root).child (namePrefix ++ id)

def make (exportId : String) (root : Option String) (host : Host) :
    Except Problem Workspace × Host :=
  if !isPlainId exportId then (.error (Refusal.invalidId exportId).toProblem, host)
  else
    let path := pathOf (root.getD host.temporaryRoot) exportId
    let (made, tree) := host.tree.makeNewDirectory host.workingPlace path
    let changed := { host with tree }
    match made with
    | .ok () =>
        (.ok { path, exportId },
          changed.writeLog .debug "workspace" ("Acquired workspace " ++ path.text))
    | .error .alreadyExists => (.error (Refusal.taken exportId path).toProblem, changed)
    | .error .impossibleName => (.error (.file .impossibleName), changed)
    | .error fault =>
        (.error (Refusal.cannotCreate path (host.faultText fault)).toProblem, changed)

def acquire (id : Option String) (root : Option String) (host : Host) :
    Except Problem Workspace × Host :=
  let (exportId, host) := host.chooseId id
  make exportId root host

def ordinalText (ordinal : Int) : String :=
  if ordinal < 0 then "-" ++ String.ofList (paddedDigits 2 ordinal.natAbs)
  else String.ofList (paddedDigits 3 ordinal.natAbs)

example : ordinalText 7 = "007" ∧ ordinalText 1000 = "1000" := by decide

def assetPath (workspace : Workspace) (stream : String) (track : Track) (ordinal : Int)
    (format : String) : Path :=
  workspace.path.child
    (stream ++ "-t" ++ track.literal ++ "-" ++ ordinalText ordinal ++ "." ++ format)

def file (workspace : Workspace) (name : String) : Path :=
  workspace.path.child name

/-- Removes the directory, unless that was done before. A failure is logged and given back
as a warning: what the export came to is decided by then. Something that is gone is no failure,
also where it keeps the rest from being removed. -/
def release (workspace : Workspace) (host : Host) :
    Option CleanupWarning × Workspace × Host :=
  if workspace.released then (none, workspace, host)
  else
    let released := { workspace with released := true }
    match host.removalFault with
    | some .vanishing => (none, released, host)
    | some (.reported reason) =>
        let warning : CleanupWarning :=
          ⟨"Failed to remove workspace " ++ workspace.path.text ++ ": " ++ reason⟩
        (some warning, released, host.writeLog .warning "workspace" warning.message)
    | none =>
        match host.tree.locate host.workingPlace workspace.path with
        | .error _ => (none, released, host)
        | .ok place =>
            if (host.tree.get? place).isNone then (none, released, host)
            else
              let removed := { host with tree := host.tree.remove place }
              (none, released,
                removed.writeLog .debug "workspace" ("Released workspace " ++ workspace.path.text))

def literal (workspace : Workspace) : String :=
  "Workspace(" ++ quoted workspace.path.text ++ ")"

end Workspace

end Montage
