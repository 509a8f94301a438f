import Montage.Proofs.Files.Tree
import Montage.Proofs.Tool.Call

/-! Trees of which one has what the other has, and perhaps more files. Both have the same
directories, so that a path names the same place in both. -/

namespace Montage.FileTree

variable {tree other made : FileTree} {workingPlace place : Place} {path : Path}
  {content : String}

structure Covers (tree other : FileTree) : Prop where
  directories : ∀ place, tree.isDirectory place = other.isDirectory place
  there : ∀ place, (other.get? place).isSome = true → (tree.get? place).isSome = true

namespace Covers

theorem refl (tree : FileTree) : tree.Covers tree :=
  ⟨fun _ => rfl, fun _ there => there⟩

theorem locate_eq_ok_iff (covers : tree.Covers other) :
    tree.locate workingPlace path = .ok place ↔ other.locate workingPlace path = .ok place := by
  constructor
  · apply KeepsDirectories.locate
    exact fun inside directory => covers.directories inside ▸ directory
  · apply KeepsDirectories.locate
    exact fun inside directory => (covers.directories inside).symm ▸ directory

/-! ## Files at the same place -/

theorem put_file (covers : tree.Covers other) (notDirectory : tree.isDirectory place = false)
    (content otherContent : String) :
    (tree.put place (.file content)).Covers (other.put place (.file otherContent)) := by
  have below : place ≠ [] := by
    rintro rfl
    cases notDirectory
  refine ⟨fun inside => ?_, fun inside there => ?_⟩
  · rw [isDirectory_put below, isDirectory_put below, covers.directories]
    rfl
  · rw [get?_put _ _ _ _ below] at there ⊢
    split
    · rfl
    · rename_i different
      rw [if_neg different] at there
      exact covers.there inside there

theorem put_file_alone (covers : tree.Covers other)
    (notDirectory : tree.isDirectory place = false) (content : String) :
    (tree.put place (.file content)).Covers other := by
  have below : place ≠ [] := by
    rintro rfl
    cases notDirectory
  refine ⟨fun inside => ?_, fun inside there => ?_⟩
  · rw [isDirectory_put below]
    split
    · rename_i same
      rw [same, ← covers.directories, notDirectory]
      rfl
    · exact covers.directories inside
  · rw [get?_put _ _ _ _ below]
    split
    · rfl
    · exact covers.there inside there

/-! ## Writing and reading -/

theorem write (covers : tree.Covers other)
    (written : other.write workingPlace path content = .ok made) (here : String) :
    ∃ madeHere, tree.write workingPlace path here = .ok madeHere ∧ madeHere.Covers made := by
  rcases write_eq_ok_iff.mp written with ⟨place, located, notDirectory, rfl⟩
  rw [← covers.directories] at notDirectory
  exact ⟨_, write_eq_ok_iff.mpr
    ⟨place, covers.locate_eq_ok_iff.mpr located, notDirectory, rfl⟩,
    covers.put_file notDirectory here content⟩

theorem read (covers : tree.Covers other)
    (stored : other.read workingPlace path = .ok content) :
    ∃ here, tree.read workingPlace path = .ok here := by
  rcases read_eq_ok_iff.mp stored with ⟨place, located, there⟩
  have notDirectory : tree.isDirectory place = false := by
    rw [covers.directories, isDirectory, there]
    rfl
  rcases found : tree.get? place with _ | _ | here
  · have some := covers.there place (by rw [there]; rfl)
    rw [found] at some
    cases some
  · rw [isDirectory_iff.mpr found] at notDirectory
    cases notDirectory
  · exact ⟨here, read_eq_ok_iff.mpr ⟨place, covers.locate_eq_ok_iff.mpr located, found⟩⟩

/-- A file that one command leaves and the other does not. -/
theorem leaving_alone (covers : tree.Covers other) (workingPlace : Place) (path : Path) :
    (tree.leaving workingPlace path).Covers other := by
  unfold FileTree.leaving
  split
  · rename_i written
    rcases write_eq_ok_iff.mp written with ⟨place, _, notDirectory, rfl⟩
    exact covers.put_file_alone notDirectory "media"
  · exact covers

theorem leaving (covers : tree.Covers other) (workingPlace : Place) (path : Path) :
    (tree.leaving workingPlace path).Covers (other.leaving workingPlace path) := by
  cases written : other.write workingPlace path "media" with
  | ok made =>
      rcases covers.write written "media" with ⟨madeHere, writtenHere, covered⟩
      rw [leaving_of_write written, leaving_of_write writtenHere]
      exact covered
  | error fault =>
      have stays : other.leaving workingPlace path = other := by rw [FileTree.leaving, written]
      rw [stays]
      exact leaving_alone covers workingPlace path

end Covers

end Montage.FileTree
