import Montage.Proofs.Files.Waypoints
import Montage.Proofs.Workspace

/-! Where the workspaces below one folder lie: each at a place of its own, which its id
decides. -/

namespace Montage

open FileTree (road destination AllDirectories CanBeNamed)

theorem Value.occursIn_iff (part text : List Char) :
    Value.occursIn part text = true ↔ part <:+: text := by
  induction text with
  | nil => rw [occursIn, List.isEmpty_iff, List.infix_nil]
  | cons char rest induction =>
      rw [occursIn, Bool.or_eq_true, induction, List.isPrefixOf_iff_prefix, List.infix_cons_iff]

structure Site where
  workingPlace : Place
  folder : Path

def Host.site (host : Host) (root : Option String) : Site where
  workingPlace := host.workingPlace
  folder := .ofText (root.getD host.temporaryRoot)

namespace Site

variable {site : Site} {id other : String} {tree made : FileTree} {place : Place}

def pathOf (site : Site) (id : String) : Path :=
  site.folder.child (Workspace.namePrefix ++ id)

def base (site : Site) : Place :=
  destination site.workingPlace site.folder

def placeOf (site : Site) (id : String) : Place :=
  site.base ++ [Workspace.namePrefix ++ id]

/-- The places that have to be directories if the workspaces are to be found. -/
def approach (site : Site) : List Place :=
  road site.workingPlace site.folder ++ [site.base]

def IsAside (site : Site) (id : String) : Prop :=
  ∀ place ∈ site.workingPlace :: site.approach, ¬ site.placeOf id <+: place

theorem name_ne_back (id : String) : Workspace.namePrefix ++ id ≠ ".." := by
  intro same
  have chars := congrArg String.toList same
  rw [String.toList_append] at chars
  exact absurd (congrArg List.head? chars) (by simp [Workspace.namePrefix])

theorem pathOf_eq (plain : Workspace.isPlainId id = true) : site.pathOf id =
    { site.folder with parts := site.folder.parts ++ [Workspace.namePrefix ++ id] } :=
  Path.child_of_isName site.folder (Workspace.isName_of_isPlainId plain)

/-- A workspace is found when the way to it is there, and then at its place. -/
theorem locate_pathOf (plain : Workspace.isPlainId id = true) :
    tree.locate site.workingPlace (site.pathOf id) = .ok place ↔
      tree.AllDirectories site.approach ∧ CanBeNamed (site.pathOf id) ∧
        place = site.placeOf id := by
  have isName := Workspace.isName_of_isPlainId plain
  rw [FileTree.locate_eq_ok_iff_road, pathOf, FileTree.road_child site.folder isName,
    FileTree.destination_child site.folder isName (name_ne_back id)]
  rfl

theorem road_pathOf (plain : Workspace.isPlainId id = true) :
    road site.workingPlace (site.pathOf id) = site.approach :=
  FileTree.road_child site.folder (Workspace.isName_of_isPlainId plain)

theorem placeOf_ne_nil (site : Site) (id : String) : site.placeOf id ≠ [] :=
  List.concat_ne_nil _ _

theorem placeOf_append_inj {names others : List String}
    (same : site.placeOf id ++ names = site.placeOf other ++ others) :
    id = other ∧ names = others := by
  simp only [placeOf, List.append_assoc, List.append_cancel_left_eq, List.singleton_append,
    List.cons.injEq, String.append_right_inj] at same
  exact same

theorem not_isPrefix_of_ne (different : id ≠ other) (names : List String) :
    ¬ site.placeOf id <+: site.placeOf other ++ names := by
  rintro ⟨rest, same⟩
  exact different (placeOf_append_inj same).1

/-! ## Making a workspace -/

/-- A directory that is made new lies where its id says, and there was nothing. -/
theorem makeDirectory_pathOf (grounded : tree.IsGrounded site.workingPlace)
    (plain : Workspace.isPlainId id = true)
    (ran : tree.makeDirectory site.workingPlace (site.pathOf id) = .ok made) :
    made = tree.put (site.placeOf id) .directory ∧ tree.get? (site.placeOf id) = none ∧
      tree.AllDirectories site.approach ∧ CanBeNamed (site.pathOf id) ∧ site.IsAside id := by
  rcases FileTree.exists_of_makeDirectory ran with ⟨place, located, nothing, rfl⟩
  rcases (locate_pathOf plain).mp located with ⟨approach, canBeNamed, rfl⟩
  refine ⟨rfl, nothing, approach, canBeNamed, fun landmark member => ?_⟩
  apply grounded.not_isPrefix_of_none nothing
  rcases List.mem_cons.mp member with rfl | member
  · exact grounded.workingPlace
  · exact approach landmark member

end Site

namespace Workspace

variable {workspace : Workspace} {host after : Host} {id root : Option String}
  {exportId : String}

theorem isPlainId_iff (id : String) : isPlainId id = true ↔
    '/' ∉ id.toList ∧ '\\' ∉ id.toList ∧ '\x00' ∉ id.toList ∧ ¬ ['.', '.'] <:+: id.toList := by
  have separators : id.toList.any ['/', '\\', '\x00'].contains = false ↔
      '/' ∉ id.toList ∧ '\\' ∉ id.toList ∧ '\x00' ∉ id.toList := by
    rw [List.any_eq_false]
    constructor
    · intro none
      exact ⟨fun member => none _ member (by decide), fun member => none _ member (by decide),
        fun member => none _ member (by decide)⟩
    · rintro ⟨noSlash, noBackslash, noNul⟩ char member isSeparator
      rcases (by simpa using isSeparator : char = '/' ∨ char = '\\' ∨ char = '\x00') with
        rfl | rfl | rfl <;> contradiction
  rw [isPlainId, Bool.and_eq_true, Bool.not_eq_true', Bool.not_eq_true', separators,
    ← Value.occursIn_iff, Bool.not_eq_true]
  simp only [and_assoc]

theorem make_site (exportId : String) (root : Option String) (host : Host) :
    (make exportId root host).2.site = host.site := by
  unfold make
  split
  · rfl
  · dsimp only
    split <;> rfl

theorem chooseId_site (host : Host) (id : Option String) :
    (host.chooseId id).2.site = host.site := by
  unfold Host.chooseId
  split
  · split <;> rfl
  · rfl

/-- A workspace is made when its directory is, with those above it that are missing. -/
theorem make_makes (plain : isPlainId exportId = true) (root : Option String) (host : Host) :
    (make exportId root host).1.isOk = (host.tree.makeNewDirectory host.workingPlace
        ((host.site root).pathOf exportId)).1.isOk ∧
      (make exportId root host).2.tree = (host.tree.makeNewDirectory host.workingPlace
        ((host.site root).pathOf exportId)).2 := by
  change _ = (host.tree.makeNewDirectory host.workingPlace
      (Workspace.pathOf (root.getD host.temporaryRoot) exportId)).1.isOk ∧
    _ = (host.tree.makeNewDirectory host.workingPlace
      (Workspace.pathOf (root.getD host.temporaryRoot) exportId)).2
  unfold make
  rw [plain]
  simp only [Bool.not_true, Bool.false_eq_true, if_false]
  rcases host.tree.makeNewDirectory host.workingPlace
    (Workspace.pathOf (root.getD host.temporaryRoot) exportId) with ⟨fault | _, tree⟩
  · cases fault <;> exact ⟨rfl, rfl⟩
  · exact ⟨rfl, rfl⟩

theorem make_of_not_isPlainId (notPlain : isPlainId exportId = false) (root : Option String)
    (host : Host) :
    make exportId root host = (.error (Refusal.invalidId exportId).toProblem, host) := by
  rw [make, notPlain]
  rfl

theorem make_of_there {place : Place} (plain : isPlainId exportId = true)
    (located : host.tree.locate host.workingPlace ((host.site root).pathOf exportId) = .ok place)
    (there : (host.tree.get? place).isSome = true) :
    make exportId root host = (.error (Refusal.taken exportId
      ((host.site root).pathOf exportId)).toProblem, host) := by
  rcases Option.isSome_iff_exists.mp there with ⟨entry, found⟩
  have notMade : host.tree.makeDirectory host.workingPlace
      ((host.site root).pathOf exportId) = .error .alreadyExists := by
    rw [FileTree.makeDirectory, located]
    simp only [bind, Except.bind, found]
    rfl
  have notMadeNew : host.tree.makeNewDirectory host.workingPlace
      (Workspace.pathOf (root.getD host.temporaryRoot) exportId) =
        (.error .alreadyExists, host.tree) := by
    change host.tree.makeNewDirectory host.workingPlace ((host.site root).pathOf exportId) = _
    rw [FileTree.makeNewDirectory, notMade]
  unfold make
  rw [plain]
  simp only [Bool.not_true, Bool.false_eq_true, if_false, notMadeNew]
  rfl

/-! ## Removing a workspace -/

theorem release_workspace (workspace : Workspace) (host : Host) :
    (workspace.release host).2.1 = { workspace with released := true } := by
  rcases workspace with ⟨path, exportId, released⟩
  unfold release
  cases released with
  | true => rfl
  | false =>
      simp only [Bool.false_eq_true, if_false]
      split
      · rfl
      · rfl
      · split
        · rfl
        · split <;> rfl

theorem release_site (workspace : Workspace) (host : Host) :
    (workspace.release host).2.2.site = host.site := by
  unfold release
  split
  · rfl
  · split
    · rfl
    · rfl
    · split
      · rfl
      · split <;> rfl

theorem release_of_released (released : workspace.released = true) (host : Host) :
    (workspace.release host).2.2 = host := by
  rw [release, released]
  rfl

/-- A removal takes nothing, or all that is at the place of the workspace. -/
theorem release_tree (workspace : Workspace) (host : Host) :
    (workspace.release host).2.2.tree = host.tree ∨ workspace.released = false ∧
      ∃ place, host.tree.locate host.workingPlace workspace.path = .ok place ∧
        (workspace.release host).2.2.tree = host.tree.remove place := by
  unfold release
  split
  · exact .inl rfl
  · rename_i unreleased
    split
    · exact .inl rfl
    · exact .inl rfl
    · split
      · exact .inl rfl
      · rename_i place located
        split
        · exact .inl rfl
        · exact .inr ⟨eq_false_of_ne_true unreleased, place, located, rfl⟩

end Workspace

end Montage
