import Montage.Files.Path

/-! Directories and files by their place, and the operations on them with the ways in
which each can fail. -/

namespace Montage

abbrev Place := List String

inductive FileFault where
  | notFound
  | alreadyExists
  | notADirectory
  | isADirectory
  | nameTooLong
  | impossibleName
  deriving DecidableEq, Repr

inductive Entry where
  | directory
  | file (content : String)
  deriving DecidableEq, Repr

structure FileTree where
  entries : List (Place × Entry) := []

namespace FileTree

def get? (tree : FileTree) (place : Place) : Option Entry :=
  if place.isEmpty then some .directory else tree.entries.lookup place

def put (tree : FileTree) (place : Place) (entry : Entry) : FileTree where
  entries := tree.entries.filter (·.1 != place) ++ [(place, entry)]

def remove (tree : FileTree) (place : Place) : FileTree where
  entries := tree.entries.filter fun (other, _) => !place.isPrefixOf other

/-! ## What a change leaves where -/

/-- Whether entries are left out by their places does not matter to a place that stays. -/
theorem lookup_filter_of_keep (keep : Place → Bool) (entries : List (Place × Entry))
    (place : Place) (kept : keep place = true) :
    (entries.filter fun entry => keep entry.1).lookup place = entries.lookup place := by
  induction entries with
  | nil => rfl
  | cons head rest induction =>
      rcases head with ⟨first, entry⟩
      by_cases equal : place = first
      · subst equal
        simp only [List.filter_cons, kept, if_true, List.lookup_cons_self]
      · have different : (place == first) = false := beq_false_of_ne equal
        rw [List.lookup_cons, different, List.filter_cons]
        cases keep first with
        | true => simp only [if_true, List.lookup_cons, different, induction]
        | false => exact induction

theorem lookup_filter_of_drop (keep : Place → Bool) (entries : List (Place × Entry))
    (place : Place) (dropped : keep place = false) :
    (entries.filter fun entry => keep entry.1).lookup place = none := by
  rw [List.lookup_eq_none_iff]
  intro entry member
  have keepEntry := (List.mem_filter.mp member).2
  rw [bne_iff_ne]
  intro equal
  rw [equal, keepEntry] at dropped
  contradiction

theorem get?_put (tree : FileTree) (place other : Place) (entry : Entry)
    (below : place ≠ []) :
    (tree.put place entry).get? other = if other = place then some entry else tree.get? other := by
  by_cases equal : other = place
  · subst equal
    have gone := lookup_filter_of_drop (· != other) tree.entries other (by simp)
    simp [get?, put, below, List.lookup_append, gone]
  · have kept := lookup_filter_of_keep (· != place) tree.entries other (by simpa using equal)
    have different : (other == place) = false := beq_false_of_ne equal
    by_cases root : other = []
    · simp [get?, root, Ne.symm below]
    · simp [get?, put, root, equal, List.lookup_append, kept, List.lookup_cons, different]

theorem get?_remove (tree : FileTree) (place other : Place) (below : other ≠ []) :
    (tree.remove place).get? other =
      if place.isPrefixOf other then none else tree.get? other := by
  cases inside : place.isPrefixOf other with
  | true =>
      have gone := lookup_filter_of_drop (fun other => !place.isPrefixOf other) tree.entries other
        (by rw [inside]; rfl)
      simp only [get?, remove, List.isEmpty_iff, below, if_false, if_true]
      exact gone
  | false =>
      have kept := lookup_filter_of_keep (fun other => !place.isPrefixOf other) tree.entries other
        (by rw [inside]; rfl)
      simp only [get?, remove, List.isEmpty_iff, below, if_false, Bool.false_eq_true]
      exact kept

/-! ## Looking -/

def isDirectory (tree : FileTree) (place : Place) : Bool :=
  tree.get? place == some .directory

def below (tree : FileTree) (place : Place) : List Place :=
  tree.entries.filterMap fun (other, _) =>
    if place.isPrefixOf other && place != other then some (other.drop place.length) else none

def longestName : Nat := 255

def longestPath : Nat := 4095

/-! ## Paths -/

def follow (tree : FileTree) : (parts : List String) → (place : Place) → Except FileFault Place
  | [], place => .ok place
  | part :: rest, place =>
      match tree.get? place with
      | none => .error .notFound
      | some (.file _) => .error .notADirectory
      | some .directory =>
          if part = "." then tree.follow rest place
          else if part = ".." then tree.follow rest place.dropLast
          else if longestName < part.utf8ByteSize then .error .nameTooLong
          else tree.follow rest (place ++ [part])

def locate (tree : FileTree) (workingPlace : Place) (path : Path) : Except FileFault Place :=
  if path.text.contains '\x00' then .error .impossibleName
  else if longestPath < path.text.utf8ByteSize then .error .nameTooLong
  else if path.root.isEmpty then tree.follow path.parts workingPlace
  else tree.follow path.parts []

/-- Whether there is something at a path. Only a name that is too long is a fault. -/
def has (tree : FileTree) (workingPlace : Place) (path : Path) : Except FileFault Bool :=
  match tree.locate workingPlace path with
  | .ok place => .ok (tree.get? place).isSome
  | .error .nameTooLong => .error .nameTooLong
  | .error _ => .ok false

def read (tree : FileTree) (workingPlace : Place) (path : Path) : Except FileFault String := do
  match tree.get? (← tree.locate workingPlace path) with
  | some (.file content) => return content
  | some .directory => throw .isADirectory
  | none => throw .notFound

def readSpelled (tree : FileTree) (workingPlace : Place) (name : String) :
    Except FileFault String :=
  if name.isEmpty then .error .notFound else tree.read workingPlace (.ofSpelling name)

/-! ## Making files and directories -/

def write (tree : FileTree) (workingPlace : Place) (path : Path) (content : String) :
    Except FileFault FileTree := do
  let place ← tree.locate workingPlace path
  if tree.isDirectory place then throw .isADirectory
  return tree.put place (.file content)

def plant (tree : FileTree) (place : Place) (content : String) : FileTree :=
  let above := (List.range place.length).filterMap fun count =>
    let place := place.take count
    if (tree.get? place).isSome then none else some (place, Entry.directory)
  FileTree.put { entries := tree.entries ++ above } place (.file content)

def makeDirectory (tree : FileTree) (workingPlace : Place) (path : Path) :
    Except FileFault FileTree := do
  let place ← tree.locate workingPlace path
  match tree.get? place with
  | some _ => throw .alreadyExists
  | none => return tree.put place .directory

def ensureDirectory (tree : FileTree) (workingPlace : Place) (path : Path) :
    Except FileFault FileTree :=
  match tree.makeDirectory workingPlace path with
  | .ok made => .ok made
  | .error fault =>
      match tree.locate workingPlace path with
      | .ok place => if tree.isDirectory place then .ok tree else .error fault
      | .error _ => .error fault

/-- Makes a directory with those above it that are missing, one that is there already
being enough. What has been made stays when a later one fails. `levels` bounds the
directories above. -/
def makeDirectories (workingPlace : Place) : (levels : Nat) → (path : Path) →
    FileTree → Except FileFault Unit × FileTree
  | levels, path, tree =>
      match tree.ensureDirectory workingPlace path, levels with
      | .ok made, _ => (.ok (), made)
      | .error .notFound, levels + 1 =>
          if path.parts.isEmpty then (.error .notFound, tree)
          else
            match makeDirectories workingPlace levels path.parent tree with
            | (.error fault, made) => (.error fault, made)
            | (.ok (), made) =>
                match made.ensureDirectory workingPlace path with
                | .ok all => (.ok (), all)
                | .error fault => (.error fault, made)
      | .error fault, _ => (.error fault, tree)

def makeNewDirectory (workingPlace : Place) (path : Path) (tree : FileTree) :
    Except FileFault Unit × FileTree :=
  match tree.makeDirectory workingPlace path with
  | .ok made => (.ok (), made)
  | .error .notFound =>
      match makeDirectories workingPlace path.parts.length path.parent tree with
      | (.error fault, made) => (.error fault, made)
      | (.ok (), made) =>
          match made.makeDirectory workingPlace path with
          | .ok all => (.ok (), all)
          | .error fault => (.error fault, made)
  | .error fault => (.error fault, tree)

end FileTree

end Montage
