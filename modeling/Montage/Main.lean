import Montage.CommandLine.Commands

/-! The program. It looks at the files that its words name, runs the command line on a
machine that has these files, and writes what the command wrote. -/

namespace Montage

def contentOf? (name : String) : IO (Option String) :=
  try return some (← IO.FS.readFile name)
  catch _ => return none

def isThere (name : String) : IO Bool :=
  try
    let _ ← IO.FS.Handle.mk name .read
    return true
  catch _ => return false

def Host.withFile (host : Host) (name content : String) : Host :=
  { host with tree := host.tree.plant (host.resolve (.ofText name)).parts content }

def bareHost : Host where
  script _ _ := .cannotStart "no process can be started"
  sourceDuration _ := Binary64.infinity false

def hostFor (choices : ExportChoices) : IO Host := do
  let manifest := choices.manifest.getD ""
  let host ← match ← contentOf? manifest with
    | some content => pure (bareHost.withFile manifest content)
    | none => pure bareHost
  let session : Session := { host, runner := host.newRunner none none }
  match ((resolveChoices choices).run.run session).1 with
  | .ok (timeline, _) =>
      timeline.clips.foldlM (fun host clip => do
        if ← isThere clip.source then return host.withFile clip.source "" else return host) host
  | .error _ => return host

end Montage

open Montage in
def main (words : List String) : IO UInt32 := do
  let host ← match readRequest [] words with
    | .ok (.exportVideo choices) => hostFor choices
    | _ => pure bareHost
  let outcome := runCommandLine words host
  IO.print outcome.output
  IO.eprint outcome.complaints
  match outcome.ending with
  | .ok code => return code.toUInt32
  | .error problem =>
      IO.eprintln problem.text
      return 1
