import Montage.Proofs.Files.Tree
import Montage.Proofs.Tool.Call
import Montage.Workspace

/-! A workspace that was made: it is a directory without anything in it but files. -/

namespace Montage

structure Workspace.Stands (workspace : Workspace) (host : Host) (place : Place) : Prop where
  normal : workspace.path.IsNormal
  below : workspace.path.parts ≠ []
  folder : host.tree.IsFolder host.workingPlace workspace.path place

structure Host.SameWorld (before after : Host) : Prop where
  script : after.script = before.script
  workingPlace : after.workingPlace = before.workingPlace
  calls : after.calls = before.calls

theorem Host.SameWorld.trans {first second third : Host} (early : first.SameWorld second)
    (late : second.SameWorld third) : first.SameWorld third where
  script := late.script.trans early.script
  workingPlace := late.workingPlace.trans early.workingPlace
  calls := late.calls.trans early.calls

theorem Host.chooseId_sameWorld (host : Host) (id : Option String) :
    host.SameWorld (host.chooseId id).2 ∧ (host.chooseId id).2.tree = host.tree := by
  unfold chooseId
  split
  · split <;> exact ⟨⟨rfl, rfl, rfl⟩, rfl⟩
  · exact ⟨⟨rfl, rfl, rfl⟩, rfl⟩

namespace Workspace

variable {workspace : Workspace} {host after : Host} {id root : Option String}

theorem isName_of_isPlainId {id : String} (plain : isPlainId id = true) :
    Path.IsName (namePrefix ++ id) := by
  have noSlash : '/' ∉ id.toList := by
    intro member
    simp only [isPlainId, Bool.and_eq_true, Bool.not_eq_true', List.any_eq_false] at plain
    exact plain.1 '/' member (by decide)
  unfold Path.IsName Path.isPart
  rw [String.toList_append]
  refine ⟨by simp [namePrefix], fun member => ?_⟩
  rcases List.mem_append.mp member with member | member
  · exact absurd member (by decide)
  · exact noSlash member

theorem make_sameWorld (exportId : String) (root : Option String) (host : Host) :
    host.SameWorld (make exportId root host).2 := by
  unfold make
  split
  · exact ⟨rfl, rfl, rfl⟩
  · dsimp only
    split <;> exact ⟨rfl, rfl, rfl⟩

theorem acquire_sameWorld (id root : Option String) (host : Host) :
    host.SameWorld (acquire id root host).2 :=
  (host.chooseId_sameWorld id).1.trans (make_sameWorld _ root _)

/-- A workspace is made when its id can be a part of a name and its directory is new. -/
theorem exists_of_make {exportId : String}
    (made : make exportId root host = (.ok workspace, after)) :
    ∃ tree, isPlainId exportId = true ∧
      host.tree.makeNewDirectory host.workingPlace
        (pathOf (root.getD host.temporaryRoot) exportId) = (.ok (), tree) ∧
      workspace = { path := pathOf (root.getD host.temporaryRoot) exportId, exportId } ∧
      after.tree = tree := by
  cases plain : isPlainId exportId with
  | false =>
      simp only [make, plain, Bool.not_false, if_true] at made
      cases made
  | true =>
      rcases ran : host.tree.makeNewDirectory host.workingPlace
        (pathOf (root.getD host.temporaryRoot) exportId) with ⟨fault | _, tree⟩
      · simp only [make, plain, Bool.not_true, Bool.false_eq_true, if_false, ran] at made
        cases fault <;> cases made
      · simp only [make, plain, Bool.not_true, Bool.false_eq_true, if_false, ran] at made
        rcases Prod.mk.inj made with ⟨sameWorkspace, sameAfter⟩
        refine ⟨tree, rfl, rfl, (Except.ok.inj sameWorkspace).symm, ?_⟩
        rw [← sameAfter]
        rfl

/-- A workspace is made where there is nothing yet. -/
theorem exists_make {exportId : String} {place : Place} (plain : isPlainId exportId = true)
    (located : host.tree.locate host.workingPlace
      (pathOf (root.getD host.temporaryRoot) exportId) = .ok place)
    (nothing : host.tree.get? place = none) :
    ∃ after, make exportId root host =
        (.ok { path := pathOf (root.getD host.temporaryRoot) exportId, exportId }, after) ∧
      after.tree = host.tree.put place .directory := by
  have ran : host.tree.makeDirectory host.workingPlace
      (pathOf (root.getD host.temporaryRoot) exportId) = .ok (host.tree.put place .directory) := by
    rw [FileTree.makeDirectory, located]
    simp only [bind, Except.bind, nothing]
    rfl
  have made : host.tree.makeNewDirectory host.workingPlace
      (pathOf (root.getD host.temporaryRoot) exportId) =
        (.ok (), host.tree.put place .directory) := by
    rw [FileTree.makeNewDirectory, ran]
  simp only [make, plain, Bool.not_true, Bool.false_eq_true, if_false, made]
  exact ⟨_, rfl, rfl⟩

/-- The directory of a workspace that has been made is there, and is still to be removed. -/
theorem standing_of_make {exportId : String}
    (made : make exportId root host = (.ok workspace, after)) :
    workspace.released = false ∧ ∃ place, place ≠ [] ∧
      after.tree.locate after.workingPlace workspace.path = .ok place ∧
      after.tree.isDirectory place = true := by
  have world := make_sameWorld exportId root host
  rw [made] at world
  rcases exists_of_make made with ⟨tree, _, ran, sameWorkspace, changed⟩
  rcases FileTree.exists_of_makeNewDirectory ran with ⟨above, ranMake⟩
  have path : workspace.path = pathOf (root.getD host.temporaryRoot) exportId := by
    rw [sameWorkspace]
  rw [path, changed, world.workingPlace]
  exact ⟨by rw [sameWorkspace], FileTree.standing_of_makeDirectory ranMake⟩

theorem stands_of_make {exportId : String} (grounded : host.tree.IsGrounded host.workingPlace)
    (made : make exportId root host = (.ok workspace, after)) :
    ∃ place, workspace.Stands after place := by
  have world := make_sameWorld exportId root host
  rw [made] at world
  rcases exists_of_make made with ⟨tree, plain, ran, sameWorkspace, changed⟩
  rcases grounded.isFolder_of_makeNewDirectory ran with ⟨place, folder⟩
  have path : workspace.path = pathOf (root.getD host.temporaryRoot) exportId := by
    rw [sameWorkspace]
  refine ⟨place, ?_, ?_, ?_⟩
  · rw [path]
    exact (Path.isNormal_ofText _).child _
  · rw [path, pathOf, Path.child_of_isName _ (isName_of_isPlainId plain)]
    exact List.concat_ne_nil _ _
  · rw [path, changed, world.workingPlace]
    exact folder

theorem stands_of_acquire (grounded : host.tree.IsGrounded host.workingPlace)
    (acquired : acquire id root host = (.ok workspace, after)) :
    ∃ place, workspace.Stands after place := by
  rcases host.chooseId_sameWorld id with ⟨world, tree⟩
  rw [← tree, ← world.workingPlace] at grounded
  exact stands_of_make grounded acquired

theorem make_congr (exportId : String) (root : Option String) (host : Host)
    (log : List LogLine) (printed : String) :
    (make exportId root { host with log, printed }).1 = (make exportId root host).1 ∧
      (make exportId root { host with log, printed }).2.tree =
        (make exportId root host).2.tree := by
  -- Whether it is made and what fails is decided by the files alone.
  cases plain : isPlainId exportId with
  | false => simp [make, plain]
  | true =>
      rcases ran : host.tree.makeNewDirectory host.workingPlace
        (pathOf (root.getD host.temporaryRoot) exportId) with ⟨fault | _, tree⟩
      · simp only [make, plain, Bool.not_true, Bool.false_eq_true, if_false, ran]
        cases fault <;> exact ⟨rfl, rfl⟩
      · simp [make, plain, ran, Host.writeLog]

theorem acquire_congr (id root : Option String) (host : Host) (log : List LogLine)
    (printed : String) :
    (acquire id root { host with log, printed }).1 = (acquire id root host).1 ∧
      (acquire id root { host with log, printed }).2.tree = (acquire id root host).2.tree := by
  have chosen : Host.chooseId { host with log, printed } id =
      ((host.chooseId id).1, { (host.chooseId id).2 with log, printed }) := by
    unfold Host.chooseId
    cases id with
    | none => rfl
    | some given =>
        dsimp only
        split <;> rfl
  rw [acquire, chosen]
  exact make_congr (host.chooseId id).1 root (host.chooseId id).2 log printed

/-- What was logged or printed before does not matter to the making of a workspace. -/
theorem acquire_logged (grounded : host.tree.IsGrounded host.workingPlace)
    (acquired : (acquire id root host).1 = .ok workspace) (log : List LogLine)
    (printed : String) :
    ∃ made place, acquire id root { host with log, printed } = (.ok workspace, made) ∧
      workspace.Stands made place ∧ (acquire id root host).2.SameWorld made ∧
      made.tree = (acquire id root host).2.tree := by
  rcases stands_of_acquire grounded (Prod.ext acquired rfl) with ⟨place, stands⟩
  rcases acquire_congr id root host log printed with ⟨sameWorkspace, sameTree⟩
  have world := acquire_sameWorld id root host
  have otherWorld := acquire_sameWorld id root { host with log, printed }
  have sameWorld : (acquire id root host).2.SameWorld
      (acquire id root { host with log, printed }).2 :=
    ⟨otherWorld.script.trans world.script.symm,
      otherWorld.workingPlace.trans world.workingPlace.symm,
      otherWorld.calls.trans world.calls.symm⟩
  refine ⟨_, place, Prod.ext (sameWorkspace.trans acquired) rfl, ?_, sameWorld, sameTree⟩
  refine ⟨stands.normal, stands.below, ?_⟩
  rw [sameTree, sameWorld.workingPlace]
  exact stands.folder

end Workspace

/-! ## A sample -/

def Host.sample : Host where
  tree := { entries := [(["tmp"], .directory)] }
  script := fun _ _ => .starts (.exits { leavesFile := true })

def Session.sample : Session where
  host := .sample
  runner := Host.sample.newRunner none none

def Workspace.sample : Workspace where
  path := ⟨"/", ["tmp", "cliptrack-export0"]⟩
  exportId := "export0"

theorem Host.sample_isGrounded : Host.sample.tree.IsGrounded Host.sample.workingPlace where
  parents := by
    intro place below there
    have isTemporary : place = ["tmp"] := by
      by_contra other
      have different : (place == ["tmp"]) = false := beq_false_of_ne other
      simp [sample, FileTree.get?, below, List.lookup_cons, different] at there
    rw [isTemporary]
    rfl
  workingPlace := rfl

namespace Workspace

theorem sample_path : pathOf "/tmp" "export0" = sample.path := by decide +kernel

theorem sample_located : Host.sample.tree.locate Host.sample.workingPlace sample.path =
    .ok ["tmp", "cliptrack-export0"] := by
  refine FileTree.locate_eq_ok_iff.mpr ⟨?_, by decide +kernel, rfl⟩
  rw [String.contains_char_eq]
  decide +kernel

/-- The sample is made on every machine with these files. -/
theorem sample_make (host : Host) (tree : host.tree = Host.sample.tree)
    (workingPlace : host.workingPlace = Host.sample.workingPlace)
    (root : host.temporaryRoot = Host.sample.temporaryRoot) :
    ∃ after, make "export0" none host = (.ok sample, after) ∧
      after.tree = Host.sample.tree.put ["tmp", "cliptrack-export0"] .directory := by
  have path : pathOf (none.getD host.temporaryRoot) "export0" = sample.path := by
    rw [Option.getD_none, root]
    exact sample_path
  have plain : isPlainId "export0" = true := by decide +kernel
  have located : host.tree.locate host.workingPlace
      (pathOf (none.getD host.temporaryRoot) "export0") = .ok ["tmp", "cliptrack-export0"] := by
    rw [path, tree, workingPlace, sample_located]
  have made := exists_make plain located (by rw [tree]; rfl)
  rwa [path, tree] at made

theorem sample_acquired : (acquire none none Host.sample).1 = .ok sample := by
  have chosen : Host.sample.chooseId none = ("export0", { Host.sample with idsMade := 1 }) := rfl
  rcases sample_make { Host.sample with idsMade := 1 } rfl rfl rfl with ⟨after, made, _⟩
  rw [acquire, chosen]
  exact congrArg Prod.fst made

end Workspace

end Montage
