import Montage.Host

/-! Sources that are not there. -/

namespace Montage

variable {τ : Type}

def Host.addMissing (host : Host) (missing : List String) (source : String) :
    Except FileFault (List String) := do
  if ← host.tree.has host.workingPlace (.ofText source) then return missing
  else if missing.contains source then return missing
  else return missing ++ [source]

def Host.missingSources (host : Host) (timeline : Timeline τ) :
    Except FileFault (List String) :=
  (timeline.clips.map Clip.source).foldlM host.addMissing []

def Host.checkSources (host : Host) (timeline : Timeline τ) : Except Problem Unit := do
  match ← (host.missingSources timeline).mapError Problem.file with
  | [] => return ()
  | missing => throw (.missingSources missing)

end Montage
