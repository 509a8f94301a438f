import Montage.Export.Exporter
import Montage.Proofs.Tool.Call

/-! What an export does to the world: the calls that it issues, and the files that it and
they write, in their order. -/

namespace Montage

inductive Deed where
  | extract (arguments : List String)
  | copy (source target : Path)
  | list (parts : List Path) (output : Path)
  | join (arguments : List String)
  | makeDirectory (path : Path)
  | compose (arguments : List String)

def lastPath (arguments : List String) : Path :=
  .ofText (arguments.getLastD "")

namespace Deed

def arguments? : Deed → Option (List String)
  | .extract arguments | .join arguments | .compose arguments => some arguments
  | .copy .. | .list .. | .makeDirectory _ => none

def written? : Deed → Option Path
  | .extract arguments | .join arguments => some (lastPath arguments)
  | .copy _ target => some target
  | .list _ output => some output
  | .makeDirectory _ | .compose _ => none

def effect (host : Host) (tree : FileTree) : Deed → Except FileFault FileTree
  | .extract arguments | .join arguments =>
      tree.write host.workingPlace (lastPath arguments) "media"
  | .copy source target => do
      tree.write host.workingPlace target (← tree.read host.workingPlace source)
  | .list parts output => tree.write host.workingPlace output (host.listText parts)
  | .makeDirectory path =>
      match FileTree.makeDirectories host.workingPlace path.parts.length path tree with
      | (.ok (), made) => .ok made
      | (.error fault, _) => .error fault
  | .compose arguments => .ok (tree.leaving host.workingPlace (lastPath arguments))

end Deed

def argumentsOf (deeds : List Deed) : List (List String) :=
  deeds.filterMap Deed.arguments?

def writtenBy (deeds : List Deed) : List Path :=
  deeds.filterMap Deed.written?

theorem argumentsOf_append (first second : List Deed) :
    argumentsOf (first ++ second) = argumentsOf first ++ argumentsOf second :=
  List.filterMap_append

/-! ## Deeds of a session -/

def effects (host : Host) (deeds : List Deed) (tree : FileTree) : Except FileFault FileTree :=
  deeds.foldlM (Deed.effect host) tree

structure Session.Did (before : Session) (deeds : List Deed) (after : Session) : Prop where
  world : before.SameWorld after
  calls : after.host.calls =
    before.host.calls ++ (argumentsOf deeds).map (before.runner.binary :: ·)
  tree : effects before.host deeds before.host.tree = .ok after.host.tree

theorem Host.listText_congr {host other : Host} (same : other.workingPlace = host.workingPlace)
    (paths : List Path) : other.listText paths = host.listText paths := by
  have lines : other.listedLine = host.listedLine := by
    funext path
    simp only [listedLine, resolve, same]
  rw [listText, listText, lines]

theorem Deed.effect_congr {host other : Host} (same : other.workingPlace = host.workingPlace) :
    Deed.effect other = Deed.effect host := by
  funext tree deed
  cases deed <;> simp only [effect, same, Host.listText_congr same]

namespace Session

variable {before middle after : Session}

theorem Did.refl (session : Session) : session.Did [] session where
  world := .refl session
  calls := (List.append_nil _).symm
  tree := rfl

theorem Did.trans {first second : List Deed} (early : before.Did first middle)
    (late : middle.Did second after) : before.Did (first ++ second) after where
  world := early.world.trans late.world
  calls := by
    rw [late.calls, early.calls, early.world.binary, argumentsOf_append, List.map_append,
      List.append_assoc]
  tree := by
    have rest := late.tree
    rw [effects, Deed.effect_congr early.world.workingPlace] at rest
    rw [effects, List.foldlM_append, show List.foldlM _ _ first = _ from early.tree]
    exact rest

theorem did_of_same (world : before.SameWorld after) (calls : after.host.calls = before.host.calls)
    (tree : after.host.tree = before.host.tree) : before.Did [] after where
  world := world
  calls := by rw [calls, argumentsOf, List.filterMap_nil, List.map_nil, List.append_nil]
  tree := by rw [tree]; rfl

theorem Did.sameTree (same : before.Did [] after) : after.host.tree = before.host.tree :=
  (Except.ok.inj same.tree).symm

theorem Did.then_same {deeds : List Deed} (early : before.Did deeds middle)
    (late : middle.Did [] after) : before.Did deeds after := by
  have whole := early.trans late
  rwa [List.append_nil] at whole

theorem did_writeLog (session : Session) (level : LogLevel) (part message : String) :
    session.Did [] (session.updateHost (·.writeLog level part message)) :=
  did_of_same ⟨rfl, rfl, rfl, rfl⟩ rfl rfl

end Session

/-! ## Calls that leave their file -/

def Host.AlwaysDelivers (host : Host) : Prop :=
  ∀ index command, ∃ exit : Exit,
    host.script index command = .starts (.exits exit) ∧ exit.returnCode = 0 ∧
      exit.leavesFile = true

theorem Host.AlwaysDelivers.congr {host other : Host} (delivers : host.AlwaysDelivers)
    (same : other.script = host.script) : other.AlwaysDelivers := by
  unfold AlwaysDelivers
  rw [same]
  exact delivers

structure Session.Delivers (session : Session) : Prop where
  notCancelled : session.runner.cancelled = false
  script : session.host.AlwaysDelivers

theorem Session.Delivers.of_sameWorld {before after : Session} (delivers : before.Delivers)
    (world : before.SameWorld after) : after.Delivers where
  notCancelled := world.cancelled.trans delivers.notCancelled
  script := delivers.script.congr world.script

theorem Session.Delivers.succeeds {session : Session} (delivers : session.Delivers) :
    session.Succeeds where
  notCancelled := delivers.notCancelled
  script index command :=
    (delivers.script index command).imp fun _ exits => ⟨exits.1, exits.2.1⟩

theorem runTool_of_delivers {before : Session} (delivers : before.Delivers)
    {arguments : List String} (given : arguments ≠ []) (stage : Option String) :
    ∃ stdout after, runTool arguments stage before = (.ok stdout, after) ∧
      before.SameWorld after ∧
      after.host.calls = before.host.calls ++ [before.runner.binary :: arguments] ∧
      after.host.tree =
        before.host.tree.leaving before.host.workingPlace (lastPath arguments) := by
  rcases delivers.script before.host.calls.length (before.runner.binary :: arguments) with
    ⟨exit, exits, ended, leaves⟩
  rcases runTool_of_exit delivers.notCancelled exits ended stage with ⟨after, ran, called⟩
  have lastWord : (before.runner.binary :: arguments).getLastD "" = arguments.getLastD "" := by
    rw [List.getLastD_cons, List.getLastD_eq_getLast?, List.getLastD_eq_getLast?]
    cases last : arguments.getLast? with
    | none => exact absurd (List.getLast?_eq_none_iff.mp last) given
    | some word => rfl
  refine ⟨exit.stdout, after, ran, called.world, called.calls, ?_⟩
  rw [called.leaves leaves, lastWord]
  rfl

end Montage
