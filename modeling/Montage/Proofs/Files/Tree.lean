import Montage.Files.Tree
import Montage.Proofs.Files.Path
import Montage.Proofs.Steps

/-! Trees in which everything lies in a directory, what a new directory holds, and what can
be written into it. -/

namespace Montage.FileTree

variable {tree : FileTree} {parts : List String} {start place target workingPlace : Place}
  {path : Path}

theorem isDirectory_iff : tree.isDirectory place = true ↔ tree.get? place = some .directory := by
  simp [isDirectory]

theorem ne_nil_of_get?_none (nothing : tree.get? place = none) : place ≠ [] := by
  rintro rfl
  cases nothing

theorem isDirectory_put (below : target ≠ []) (entry : Entry) (other : Place) :
    (tree.put target entry).isDirectory other =
      if other = target then entry == .directory else tree.isDirectory other := by
  unfold isDirectory
  rw [get?_put tree target other entry below]
  split <;> rfl

/-! ## Following names -/

theorem follow_cons (directory : tree.get? start = some .directory) (part : String)
    (rest : List String) :
    tree.follow (part :: rest) start =
      if part = "." then tree.follow rest start
      else if part = ".." then tree.follow rest start.dropLast
      else if longestName < part.utf8ByteSize then .error .nameTooLong
      else tree.follow rest (start ++ [part]) := by
  rw [follow]
  simp only [directory]

theorem get?_of_follow_cons {part : String} {rest : List String}
    (followed : tree.follow (part :: rest) start = .ok place) :
    tree.get? start = some .directory := by
  rw [follow] at followed
  split at followed
  · cases followed
  · cases followed
  · assumption

theorem follow_append (first second : List String) :
    tree.follow (first ++ second) start = tree.follow first start >>= tree.follow second := by
  induction first generalizing start with
  | nil => rfl
  | cons part rest induction =>
      rw [List.cons_append, follow, follow]
      cases tree.get? start with
      | none => rfl
      | some entry =>
          cases entry with
          | file content => rfl
          | directory =>
              dsimp only
              split
              · exact induction
              · split
                · exact induction
                · split
                  · rfl
                  · exact induction

/-! ## Directories that stay -/

def KeepsDirectories (before after : FileTree) : Prop :=
  ∀ place, before.isDirectory place = true → after.isDirectory place = true

theorem KeepsDirectories.refl (tree : FileTree) : tree.KeepsDirectories tree :=
  fun _ directory => directory

theorem KeepsDirectories.trans {first second third : FileTree}
    (early : first.KeepsDirectories second) (late : second.KeepsDirectories third) :
    first.KeepsDirectories third :=
  fun place directory => late place (early place directory)

theorem keepsDirectories_put (notDirectory : tree.isDirectory target = false) (entry : Entry) :
    tree.KeepsDirectories (tree.put target entry) := by
  intro place directory
  have below : target ≠ [] := by
    rintro rfl
    cases notDirectory
  have other : place ≠ target := by
    rintro rfl
    rw [directory] at notDirectory
    cases notDirectory
  rw [isDirectory_put below, if_neg other]
  exact directory

theorem KeepsDirectories.follow {after : FileTree} (keeps : tree.KeepsDirectories after)
    (followed : tree.follow parts start = .ok place) : after.follow parts start = .ok place := by
  induction parts generalizing start with
  | nil => exact followed
  | cons part rest induction =>
      have directory := get?_of_follow_cons followed
      have still := isDirectory_iff.mp (keeps start (isDirectory_iff.mpr directory))
      rw [follow_cons directory] at followed
      rw [follow_cons still]
      by_cases point : part = "."
      · rw [if_pos point] at followed ⊢
        exact induction followed
      · rw [if_neg point] at followed ⊢
        by_cases back : part = ".."
        · rw [if_pos back] at followed ⊢
          exact induction followed
        · rw [if_neg back] at followed ⊢
          by_cases long : longestName < part.utf8ByteSize
          · rw [if_pos long] at followed
            cases followed
          · rw [if_neg long] at followed ⊢
            exact induction followed

def origin (workingPlace : Place) (path : Path) : Place :=
  if path.root.isEmpty then workingPlace else []

/-- A path names a place when its text can be a path and its names lead there. -/
theorem locate_eq_ok_iff : tree.locate workingPlace path = .ok place ↔
    path.text.contains '\x00' = false ∧ path.text.utf8ByteSize ≤ longestPath ∧
      tree.follow path.parts (origin workingPlace path) = .ok place := by
  unfold locate origin
  cases path.text.contains '\x00' with
  | true => simp
  | false =>
      by_cases long : longestPath < path.text.utf8ByteSize
      · simp [long, Nat.not_le_of_lt long]
      · simp only [long, Nat.le_of_not_lt long, Bool.false_eq_true, if_false, true_and]
        split <;> rfl

/-- A path names the place that it named, as long as no directory goes. -/
theorem KeepsDirectories.locate {after : FileTree} (keeps : tree.KeepsDirectories after)
    (located : tree.locate workingPlace path = .ok place) :
    after.locate workingPlace path = .ok place := by
  rcases locate_eq_ok_iff.mp located with ⟨noNul, short, followed⟩
  exact locate_eq_ok_iff.mpr ⟨noNul, short, keeps.follow followed⟩

theorem locate_put (notDirectory : tree.isDirectory target = false) (entry : Entry)
    (located : tree.locate workingPlace path = .ok place) :
    (tree.put target entry).locate workingPlace path = .ok place :=
  (keepsDirectories_put notDirectory entry).locate located

/-! ## Where things lie -/

structure IsGrounded (tree : FileTree) (workingPlace : Place) : Prop where
  parents : ∀ place, place ≠ [] → (tree.get? place).isSome = true →
    tree.isDirectory place.dropLast = true
  workingPlace : tree.isDirectory workingPlace = true

theorem IsGrounded.parent_of_follow (grounded : tree.IsGrounded workingPlace)
    (startParent : start ≠ [] → tree.isDirectory start.dropLast = true)
    (followed : tree.follow parts start = .ok place) (below : place ≠ []) :
    tree.isDirectory place.dropLast = true := by
  induction parts generalizing start with
  | nil =>
      cases followed
      exact startParent below
  | cons part rest induction =>
      have directory := get?_of_follow_cons followed
      rw [follow_cons directory] at followed
      split at followed
      · exact induction startParent followed
      · split at followed
        · apply induction ?_ followed
          intro above
          have notRoot : start ≠ [] := by
            rintro rfl
            exact above rfl
          have parent := isDirectory_iff.mp (startParent notRoot)
          exact grounded.parents _ above (by rw [parent]; rfl)
        · split at followed
          · cases followed
          · apply induction ?_ followed
            intro _
            rw [List.dropLast_concat]
            exact isDirectory_iff.mpr directory

theorem IsGrounded.parent_of_locate (grounded : tree.IsGrounded workingPlace)
    (located : tree.locate workingPlace path = .ok place) (below : place ≠ []) :
    tree.isDirectory place.dropLast = true := by
  apply grounded.parent_of_follow ?_ (locate_eq_ok_iff.mp located).2.2 below
  unfold origin
  split
  · intro above
    have directory := isDirectory_iff.mp grounded.workingPlace
    exact grounded.parents _ above (by rw [directory]; rfl)
  · exact fun above => absurd rfl above

theorem IsGrounded.put_directory (grounded : tree.IsGrounded workingPlace)
    (nothing : tree.get? place = none) (parent : tree.isDirectory place.dropLast = true) :
    (tree.put place .directory).IsGrounded workingPlace := by
  have below := ne_nil_of_get?_none nothing
  have kept {other : Place} (directory : tree.isDirectory other = true) :
      (tree.put place .directory).isDirectory other = true := by
    rw [isDirectory_put below]
    split
    · rfl
    · exact directory
  refine ⟨fun other above there => kept ?_, kept grounded.workingPlace⟩
  rw [get?_put tree place other .directory below] at there
  by_cases same : other = place
  · rw [same]
    exact parent
  · rw [if_neg same] at there
    exact grounded.parents other above there

/-! ## New directories -/

variable {made : FileTree}

theorem exists_of_makeDirectory (ran : tree.makeDirectory workingPlace path = .ok made) :
    ∃ place, tree.locate workingPlace path = .ok place ∧ tree.get? place = none ∧
      made = tree.put place .directory := by
  obtain ⟨place, located, ran⟩ := exists_of_bind_ok ran
  cases nothing : tree.get? place with
  | none =>
      rw [nothing] at ran
      exact ⟨place, located, nothing, (Except.ok.inj ran).symm⟩
  | some entry =>
      rw [nothing] at ran
      cases ran

theorem IsGrounded.makeDirectory (grounded : tree.IsGrounded workingPlace)
    (ran : tree.makeDirectory workingPlace path = .ok made) : made.IsGrounded workingPlace := by
  rcases exists_of_makeDirectory ran with ⟨place, located, nothing, rfl⟩
  exact grounded.put_directory nothing
    (grounded.parent_of_locate located (ne_nil_of_get?_none nothing))

theorem makeDirectory_or_eq_of_ensureDirectory
    (ran : tree.ensureDirectory workingPlace path = .ok made) :
    tree.makeDirectory workingPlace path = .ok made ∨ made = tree := by
  unfold ensureDirectory at ran
  split at ran
  · rename_i all ranMake
    cases ran
    exact .inl ranMake
  · split at ran
    · split at ran
      · cases ran
        exact .inr rfl
      · cases ran
    · cases ran

/-- Whatever holds of a tree holds with all the directories that are made, if it does with
each new one. -/
theorem makeDirectories_induction (Holds : FileTree → Prop)
    (each : ∀ {tree path made}, Holds tree → tree.makeDirectory workingPlace path = .ok made →
      Holds made)
    (holds : Holds tree) (levels : Nat) (path : Path) :
    Holds (makeDirectories workingPlace levels path tree).2 := by
  have ensured {tree path made} (holds : Holds tree)
      (ran : tree.ensureDirectory workingPlace path = .ok made) : Holds made := by
    rcases makeDirectory_or_eq_of_ensureDirectory ran with ranMake | rfl
    · exact each holds ranMake
    · exact holds
  induction levels generalizing path with
  | zero =>
      unfold makeDirectories
      split
      · rename_i ran
        exact ensured holds ran
      · contradiction
      · exact holds
  | succ levels induction =>
      unfold makeDirectories
      split
      · rename_i ran
        exact ensured holds ran
      · rename_i sameLevels
        obtain rfl := Nat.succ.inj sameLevels
        split
        · exact holds
        · have above := induction path.parent
          split
          · rename_i stopped
            rw [stopped] at above
            exact above
          · rename_i ready
            rw [ready] at above
            split
            · rename_i ran
              exact ensured above ran
            · exact above
      · exact holds

theorem makeNewDirectory_induction (Holds : FileTree → Prop)
    (each : ∀ {tree path made}, Holds tree → tree.makeDirectory workingPlace path = .ok made →
      Holds made)
    (holds : Holds tree) (path : Path) : Holds (tree.makeNewDirectory workingPlace path).2 := by
  unfold makeNewDirectory
  split
  · rename_i ran
    exact each holds ran
  · have above := makeDirectories_induction Holds each holds path.parts.length path.parent
    split
    · rename_i stopped
      rw [stopped] at above
      exact above
    · rename_i ready
      rw [ready] at above
      split
      · rename_i ran
        exact each above ran
      · exact above
  · exact holds

theorem exists_of_makeNewDirectory
    (ran : tree.makeNewDirectory workingPlace path = (.ok (), made)) :
    ∃ above : FileTree, above.makeDirectory workingPlace path = .ok made := by
  unfold makeNewDirectory at ran
  split at ran
  · rename_i ranMake
    cases ran
    exact ⟨tree, ranMake⟩
  · split at ran
    · cases ran
    · rename_i above _
      split at ran
      · rename_i ranMake
        cases ran
        exact ⟨above, ranMake⟩
      · cases ran
  · cases ran

/-- A directory that has been made is there, and it is not the root. -/
theorem standing_of_makeDirectory (ran : tree.makeDirectory workingPlace path = .ok made) :
    ∃ place, place ≠ [] ∧ made.locate workingPlace path = .ok place ∧
      made.isDirectory place = true := by
  rcases exists_of_makeDirectory ran with ⟨place, located, nothing, rfl⟩
  have below := ne_nil_of_get?_none nothing
  have notDirectory : tree.isDirectory place = false := by simp [isDirectory, nothing]
  refine ⟨place, below, locate_put notDirectory .directory located, ?_⟩
  rw [isDirectory_put below, if_pos rfl]
  rfl

theorem KeepsDirectories.makeDirectory {before : FileTree} (keeps : before.KeepsDirectories tree)
    (ran : tree.makeDirectory workingPlace path = .ok made) : before.KeepsDirectories made := by
  rcases exists_of_makeDirectory ran with ⟨place, _, nothing, rfl⟩
  exact keeps.trans (keepsDirectories_put (by simp [isDirectory, nothing]) .directory)

theorem write_eq_ok_iff {content : String} : tree.write workingPlace path content = .ok made ↔
    ∃ place, tree.locate workingPlace path = .ok place ∧ tree.isDirectory place = false ∧
      made = tree.put place (.file content) := by
  constructor
  · intro written
    obtain ⟨place, located, written⟩ := exists_of_bind_ok written
    cases directory : tree.isDirectory place with
    | true =>
        rw [directory] at written
        cases written
    | false =>
        rw [directory] at written
        cases written
        exact ⟨place, located, directory, rfl⟩
  · rintro ⟨place, located, notDirectory, rfl⟩
    refine bind_eq_ok_iff.mpr ⟨place, located, ?_⟩
    rw [notDirectory]
    rfl

theorem read_eq_ok_iff {content : String} : tree.read workingPlace path = .ok content ↔
    ∃ place, tree.locate workingPlace path = .ok place ∧
      tree.get? place = some (.file content) := by
  constructor
  · intro stored
    obtain ⟨place, located, stored⟩ := exists_of_bind_ok stored
    refine ⟨place, located, ?_⟩
    rcases there : tree.get? place with _ | _ | found
    all_goals
      rw [there] at stored
      cases stored
    rfl
  · rintro ⟨place, located, there⟩
    refine bind_eq_ok_iff.mpr ⟨place, located, ?_⟩
    rw [there]
    rfl

theorem keepsDirectories_write {content : String}
    (written : tree.write workingPlace path content = .ok made) : tree.KeepsDirectories made := by
  rcases write_eq_ok_iff.mp written with ⟨place, _, notDirectory, rfl⟩
  exact keepsDirectories_put notDirectory _

theorem makeDirectories_of_file (located : tree.locate workingPlace path = .ok place)
    (there : tree.get? place = some (.file content)) (levels : Nat) :
    makeDirectories workingPlace levels path tree = (.error .alreadyExists, tree) := by
  have notMade : tree.makeDirectory workingPlace path = .error .alreadyExists := by
    rw [makeDirectory, located]
    simp only [bind, Except.bind, there]
    rfl
  have ensured : tree.ensureDirectory workingPlace path = .error .alreadyExists := by
    simp only [ensureDirectory, notMade, located, isDirectory, there]
    rfl
  unfold makeDirectories
  rw [ensured]

theorem makeDirectories_of_nothing (located : tree.locate workingPlace path = .ok place)
    (nothing : tree.get? place = none) (levels : Nat) :
    makeDirectories workingPlace levels path tree = (.ok (), tree.put place .directory) := by
  have made : tree.makeDirectory workingPlace path = .ok (tree.put place .directory) := by
    rw [makeDirectory, located]
    simp only [bind, Except.bind, nothing]
    rfl
  unfold makeDirectories
  rw [ensureDirectory, made]
structure IsFolder (tree : FileTree) (workingPlace : Place) (path : Path) (place : Place) :
    Prop where
  located : tree.locate workingPlace path = .ok place
  directory : tree.isDirectory place = true
  onlyFiles : ∀ name, tree.isDirectory (place ++ [name]) = false

theorem IsGrounded.isFolder_of_makeDirectory (grounded : tree.IsGrounded workingPlace)
    (ran : tree.makeDirectory workingPlace path = .ok made) :
    ∃ place, made.IsFolder workingPlace path place := by
  rcases exists_of_makeDirectory ran with ⟨place, located, nothing, rfl⟩
  have below := ne_nil_of_get?_none nothing
  have notDirectory : tree.isDirectory place = false := by simp [isDirectory, nothing]
  refine ⟨place, locate_put notDirectory .directory located, ?_, ?_⟩
  · rw [isDirectory_put below, if_pos rfl]
    rfl
  · intro name
    have other : place ++ [name] ≠ place := by simp
    rw [isDirectory_put below, if_neg other]
    apply eq_false_of_ne_true
    intro inside
    -- Something below a place at which there is nothing would lie in no directory.
    have parent := grounded.parents (place ++ [name]) (by simp)
      (by rw [isDirectory_iff.mp inside]; rfl)
    rw [List.dropLast_concat, notDirectory] at parent
    cases parent

theorem IsGrounded.isFolder_of_makeNewDirectory (grounded : tree.IsGrounded workingPlace)
    (ran : tree.makeNewDirectory workingPlace path = (.ok (), made)) :
    ∃ place, made.IsFolder workingPlace path place := by
  unfold makeNewDirectory at ran
  split at ran
  · rename_i ranMake
    cases ran
    exact grounded.isFolder_of_makeDirectory ranMake
  · have above := makeDirectories_induction (·.IsGrounded workingPlace)
      IsGrounded.makeDirectory grounded path.parts.length path.parent
    split at ran
    · cases ran
    · rename_i ready
      rw [ready] at above
      split at ran
      · rename_i ranMake
        cases ran
        exact above.isFolder_of_makeDirectory ranMake
      · cases ran
  · cases ran

/-! ## Files of a folder -/

structure IsFileName (name : String) : Prop where
  isName : Path.IsName name
  notBack : name ≠ ".."
  noNul : '\x00' ∉ name.toList

structure Fits (path : Path) : Prop where
  text : path.text.utf8ByteSize ≤ longestPath
  names : ∀ part ∈ path.parts, part.utf8ByteSize ≤ longestName

namespace IsFolder

variable {name : String}

theorem locate_child (folder : tree.IsFolder workingPlace path place) (normal : path.IsNormal)
    (below : path.parts ≠ []) (isFileName : IsFileName name) (fits : Fits (path.child name)) :
    tree.locate workingPlace (path.child name) = .ok (place ++ [name]) := by
  rcases locate_eq_ok_iff.mp folder.located with ⟨noNul, _, followed⟩
  have notPoint : name ≠ "." := by
    rintro rfl
    exact absurd isFileName.isName.1 (by decide)
  have short : ¬ longestName < name.utf8ByteSize := by
    apply Nat.not_lt_of_le
    apply fits.names
    rw [Path.child_of_isName path isFileName.isName]
    exact List.mem_append_right _ List.mem_cons_self
  refine locate_eq_ok_iff.mpr ⟨?_, fits.text, ?_⟩
  · rw [String.contains_char_eq] at noNul ⊢
    rw [normal.text_child below isFileName.isName]
    simpa [isFileName.noNul] using noNul
  · have sameOrigin : origin workingPlace (path.child name) = origin workingPlace path := by
      rw [Path.child_of_isName path isFileName.isName]
      rfl
    rw [sameOrigin, Path.child_of_isName path isFileName.isName, follow_append, followed]
    change tree.follow [name] place = _
    rw [follow_cons (isDirectory_iff.mp folder.directory), if_neg notPoint,
      if_neg isFileName.notBack, if_neg short]
    rfl

theorem write_child (folder : tree.IsFolder workingPlace path place) (normal : path.IsNormal)
    (below : path.parts ≠ []) (isFileName : IsFileName name) (fits : Fits (path.child name))
    (content : String) :
    tree.write workingPlace (path.child name) content =
      .ok (tree.put (place ++ [name]) (.file content)) := by
  rw [write, folder.locate_child normal below isFileName fits]
  simp only [bind, Except.bind, folder.onlyFiles name]
  rfl

theorem put_file (folder : tree.IsFolder workingPlace path place) (name content : String) :
    (tree.put (place ++ [name]) (.file content)).IsFolder workingPlace path place := by
  have below : place ++ [name] ≠ [] := by simp
  refine ⟨locate_put (folder.onlyFiles name) _ folder.located, ?_, ?_⟩
  · rw [isDirectory_put below, if_neg (by simp)]
    exact folder.directory
  · intro other
    rw [isDirectory_put below]
    split
    · rfl
    · exact folder.onlyFiles other

theorem read_child (folder : tree.IsFolder workingPlace path place) (normal : path.IsNormal)
    (below : path.parts ≠ []) (isFileName : IsFileName name) (fits : Fits (path.child name))
    {content : String} (there : tree.get? (place ++ [name]) = some (.file content)) :
    tree.read workingPlace (path.child name) = .ok content := by
  rw [read, folder.locate_child normal below isFileName fits]
  simp only [bind, Except.bind, there]
  rfl

end IsFolder

end Montage.FileTree
