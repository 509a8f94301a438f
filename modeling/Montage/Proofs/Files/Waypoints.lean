import Montage.Proofs.Files.Covering

/-! The places that a path leads through. A path names a place when it leads through
directories only; which place that is does not depend on the tree. -/

namespace Montage

namespace Path

def step (place : Place) (part : String) : Place :=
  if part = "." then place else if part = ".." then place.dropLast else place ++ [part]

def reached (parts : List String) (start : Place) : Place :=
  parts.foldl step start

def waypoints : (parts : List String) → (start : Place) → List Place
  | [], _ => []
  | part :: rest, start => start :: waypoints rest (step start part)

example : waypoints ["a", "..", "b"] ["tmp"] = [["tmp"], ["tmp", "a"], ["tmp"]] := by decide

variable {parts : List String} {start : Place} {name : String}

theorem step_of_ne (place : Place) (notPoint : name ≠ ".") (notBack : name ≠ "..") :
    step place name = place ++ [name] := by
  rw [step, if_neg notPoint, if_neg notBack]

theorem reached_append (first second : List String) (start : Place) :
    reached (first ++ second) start = reached second (reached first start) :=
  List.foldl_append

theorem waypoints_append (first second : List String) (start : Place) :
    waypoints (first ++ second) start =
      waypoints first start ++ waypoints second (reached first start) := by
  induction first generalizing start with
  | nil => rfl
  | cons part rest induction => exact congrArg (start :: ·) (induction (step start part))

theorem waypoints_concat (parts : List String) (name : String) (start : Place) :
    waypoints (parts ++ [name]) start = waypoints parts start ++ [reached parts start] :=
  waypoints_append parts [name] start

/-- Names without a point and without a step back lead further down. -/
theorem reached_of_forward (forward : ∀ part ∈ parts, part ≠ "." ∧ part ≠ "..")
    (start : Place) : reached parts start = start ++ parts := by
  induction parts generalizing start with
  | nil => exact (List.append_nil start).symm
  | cons part rest induction =>
      rcases forward part List.mem_cons_self with ⟨notPoint, notBack⟩
      have restForward := induction fun other member =>
        forward other (List.mem_cons_of_mem part member)
      change reached rest (step start part) = start ++ part :: rest
      rw [step_of_ne start notPoint notBack, restForward, List.append_assoc]
      rfl

theorem IsName.ne_point (isName : IsName name) : name ≠ "." := by
  rintro rfl
  exact absurd isName.1 (by decide)

end Path

namespace FileTree

open Montage.Path (reached waypoints)

variable {tree made : FileTree} {parts : List String}
  {start place other target workingPlace : Place} {places : List Place} {path : Path}

/-! ## Following names through directories -/

def AllDirectories (tree : FileTree) (places : List Place) : Prop :=
  ∀ place ∈ places, tree.isDirectory place = true

theorem allDirectories_cons : tree.AllDirectories (place :: places) ↔
    tree.isDirectory place = true ∧ tree.AllDirectories places :=
  List.forall_mem_cons

theorem AllDirectories.keep (all : tree.AllDirectories places)
    (keeps : tree.KeepsDirectories made) : made.AllDirectories places :=
  fun place member => keeps place (all place member)

def NamesFit (parts : List String) : Prop :=
  ∀ part ∈ parts, part.utf8ByteSize ≤ longestName

theorem follow_cons_of_directory (directory : tree.isDirectory start = true) (part : String)
    (rest : List String) : tree.follow (part :: rest) start =
      if part.utf8ByteSize ≤ longestName then tree.follow rest (Path.step start part)
      else .error .nameTooLong := by
  -- A point and a step back are short names.
  have pointFits : ".".utf8ByteSize ≤ longestName := by decide +kernel
  have backFits : "..".utf8ByteSize ≤ longestName := by decide +kernel
  rw [follow_cons (isDirectory_iff.mp directory), Path.step]
  by_cases point : part = "."
  · subst point
    rw [if_pos rfl, if_pos rfl, if_pos pointFits]
  · rw [if_neg point, if_neg point]
    by_cases back : part = ".."
    · subst back
      rw [if_pos rfl, if_pos rfl, if_pos backFits]
    · rw [if_neg back, if_neg back]
      by_cases long : longestName < part.utf8ByteSize
      · rw [if_pos long, if_neg (Nat.not_le_of_lt long)]
      · rw [if_neg long, if_pos (Nat.le_of_not_lt long)]

theorem follow_eq_ok_iff : tree.follow parts start = .ok place ↔
    tree.AllDirectories (waypoints parts start) ∧ NamesFit parts ∧
      place = reached parts start := by
  induction parts generalizing start with
  | nil =>
      constructor
      · intro followed
        exact ⟨List.forall_mem_nil _, List.forall_mem_nil _, (Except.ok.inj followed).symm⟩
      · rintro ⟨_, _, rfl⟩
        rfl
  | cons part rest induction =>
      rw [waypoints, allDirectories_cons, NamesFit, List.forall_mem_cons]
      constructor
      · intro followed
        have directory := isDirectory_iff.mpr (get?_of_follow_cons followed)
        rw [follow_cons_of_directory directory] at followed
        split at followed
        · rename_i fits
          rcases induction.mp followed with ⟨all, restFits, reached⟩
          exact ⟨⟨directory, all⟩, ⟨fits, restFits⟩, reached⟩
        · cases followed
      · rintro ⟨⟨directory, all⟩, ⟨fits, restFits⟩, reached⟩
        rw [follow_cons_of_directory directory, if_pos fits]
        exact induction.mpr ⟨all, restFits, reached⟩

/-- Where all are directories, only a name can be the fault. -/
theorem follow_of_allDirectories (all : tree.AllDirectories (waypoints parts start)) :
    tree.follow parts start = .ok (reached parts start) ∨
      tree.follow parts start = .error .nameTooLong := by
  induction parts generalizing start with
  | nil => exact .inl rfl
  | cons part rest induction =>
      rcases allDirectories_cons.mp all with ⟨directory, restAll⟩
      rw [follow_cons_of_directory directory]
      split
      · exact induction restAll
      · exact .inr rfl

/-! ## Paths through directories -/

def road (workingPlace : Place) (path : Path) : List Place :=
  waypoints path.parts (origin workingPlace path)

def destination (workingPlace : Place) (path : Path) : Place :=
  reached path.parts (origin workingPlace path)

structure CanBeNamed (path : Path) : Prop where
  noNul : path.text.contains '\x00' = false
  fits : Fits path

theorem locate_eq_ok_iff_road : tree.locate workingPlace path = .ok place ↔
    tree.AllDirectories (road workingPlace path) ∧ CanBeNamed path ∧
      place = destination workingPlace path := by
  rw [locate_eq_ok_iff, follow_eq_ok_iff]
  constructor
  · rintro ⟨noNul, short, all, names, reached⟩
    exact ⟨all, ⟨noNul, short, names⟩, reached⟩
  · rintro ⟨all, canBeNamed, reached⟩
    exact ⟨canBeNamed.noNul, canBeNamed.fits.text, all, canBeNamed.fits.names, reached⟩

theorem locate_ne_notFound (all : tree.AllDirectories (road workingPlace path)) :
    tree.locate workingPlace path ≠ .error .notFound := by
  have followed := follow_of_allDirectories all
  unfold origin at followed
  unfold locate
  split
  · exact fun same => nomatch same
  · split
    · exact fun same => nomatch same
    · split at followed
      all_goals
        rename_i root
        simp only [root, if_true, Bool.false_eq_true, if_false]
        rcases followed with followed | followed
        · rw [followed]
          exact fun same => nomatch same
        · rw [followed]
          exact fun same => nomatch same

theorem makeDirectory_ne_notFound (all : tree.AllDirectories (road workingPlace path)) :
    tree.makeDirectory workingPlace path ≠ .error .notFound := by
  have located := locate_ne_notFound all
  unfold makeDirectory
  rcases named : tree.locate workingPlace path with fault | place
  · intro same
    rw [named] at located
    exact located (congrArg Except.error (Except.error.inj same))
  · simp only [bind, Except.bind]
    cases tree.get? place <;> exact fun same => nomatch same

/-- Where all directories above are there, none of them is made. -/
theorem makeNewDirectory_of_road (all : tree.AllDirectories (road workingPlace path)) :
    tree.makeNewDirectory workingPlace path = match tree.makeDirectory workingPlace path with
      | .ok made => (.ok (), made)
      | .error fault => (.error fault, tree) := by
  have found := makeDirectory_ne_notFound all
  unfold makeNewDirectory
  rcases ran : tree.makeDirectory workingPlace path with fault | made
  · cases fault with
    | notFound => exact absurd ran found
    | _ => rfl
  · rfl

theorem road_child (path : Path) {name : String} (isName : Path.IsName name) :
    road workingPlace (path.child name) =
      road workingPlace path ++ [destination workingPlace path] := by
  rw [Path.child_of_isName path isName]
  exact Path.waypoints_concat _ _ _

theorem destination_child (path : Path) {name : String} (isName : Path.IsName name)
    (notBack : name ≠ "..") : destination workingPlace (path.child name) =
      destination workingPlace path ++ [name] := by
  have last : reached [name] (destination workingPlace path) =
      destination workingPlace path ++ [name] := by
    exact Path.step_of_ne _ isName.ne_point notBack
  rw [Path.child_of_isName path isName]
  exact (Path.reached_append _ _ _).trans last

/-! ## What lies below a place -/

/-- Above whatever is in the tree are directories. -/
theorem IsGrounded.isDirectory_of_append (grounded : tree.IsGrounded workingPlace)
    {names : List String} (nonempty : names ≠ [])
    (there : (tree.get? (place ++ names)).isSome = true) : tree.isDirectory place = true := by
  induction names using List.reverseRecOn with
  | nil => exact absurd rfl nonempty
  | append_singleton names name induction =>
      have parent := grounded.parents (place ++ (names ++ [name])) (by simp) there
      rw [← List.append_assoc, List.dropLast_concat] at parent
      by_cases whole : names = []
      · rwa [whole, List.append_nil] at parent
      · exact induction whole (by rw [isDirectory_iff.mp parent]; rfl)

theorem IsGrounded.get?_append_of_none (grounded : tree.IsGrounded workingPlace)
    (nothing : tree.get? place = none) (names : List String) :
    tree.get? (place ++ names) = none := by
  by_cases whole : names = []
  · rw [whole, List.append_nil, nothing]
  · rw [← Option.not_isSome_iff_eq_none]
    intro there
    have directory := isDirectory_iff.mp (grounded.isDirectory_of_append whole there)
    rw [nothing] at directory
    cases directory

/-- A place at which there is nothing is not on the way to a directory. -/
theorem IsGrounded.not_isPrefix_of_none (grounded : tree.IsGrounded workingPlace)
    (nothing : tree.get? place = none) (directory : tree.isDirectory other = true) :
    ¬ place <+: other := by
  rintro ⟨names, rfl⟩
  have below := isDirectory_iff.mp directory
  rw [grounded.get?_append_of_none nothing names] at below
  cases below

theorem IsGrounded.put_file (grounded : tree.IsGrounded workingPlace)
    (notDirectory : tree.isDirectory place = false)
    (parent : tree.isDirectory place.dropLast = true) (content : String) :
    (tree.put place (.file content)).IsGrounded workingPlace := by
  have below : place ≠ [] := by
    rintro rfl
    cases notDirectory
  have keeps := keepsDirectories_put notDirectory (.file content)
  refine ⟨fun other above there => keeps _ ?_, keeps _ grounded.workingPlace⟩
  rw [get?_put tree place other _ below] at there
  by_cases same : other = place
  · rw [same]
    exact parent
  · rw [if_neg same] at there
    exact grounded.parents other above there

theorem IsGrounded.write {content : String} (grounded : tree.IsGrounded workingPlace)
    (written : tree.write workingPlace path content = .ok made) :
    made.IsGrounded workingPlace := by
  rcases write_eq_ok_iff.mp written with ⟨place, located, notDirectory, rfl⟩
  refine grounded.put_file notDirectory (grounded.parent_of_locate located ?_) content
  rintro rfl
  cases notDirectory

theorem isDirectory_remove (apart : ¬ target <+: place) :
    (tree.remove target).isDirectory place = tree.isDirectory place := by
  by_cases root : place = []
  · rw [root]
    rfl
  · rw [isDirectory, get?_remove tree target place root, if_neg, isDirectory]
    rwa [List.isPrefixOf_iff_prefix]

theorem AllDirectories.remove (all : tree.AllDirectories places)
    (apart : ∀ place ∈ places, ¬ target <+: place) :
    (tree.remove target).AllDirectories places :=
  fun place member => (isDirectory_remove (apart place member)).trans (all place member)

theorem IsGrounded.remove (grounded : tree.IsGrounded workingPlace)
    (apart : ¬ target <+: workingPlace) : (tree.remove target).IsGrounded workingPlace := by
  refine ⟨fun other above there => ?_, ?_⟩
  · rw [get?_remove tree target other above] at there
    by_cases inside : target.isPrefixOf other = true
    · rw [if_pos inside] at there
      cases there
    · rw [if_neg inside] at there
      rw [List.isPrefixOf_iff_prefix] at inside
      rw [isDirectory_remove]
      · exact grounded.parents other above there
      · exact fun before => inside (before.trans (List.dropLast_prefix other))
  · rw [isDirectory_remove apart]
    exact grounded.workingPlace

/-! ## Entries that stay -/

def KeepsEntries (before after : FileTree) : Prop :=
  ∀ place entry, before.get? place = some entry → after.get? place = some entry

theorem KeepsEntries.makeDirectory {before : FileTree} (keeps : before.KeepsEntries tree)
    (ran : tree.makeDirectory workingPlace path = .ok made) : before.KeepsEntries made := by
  rcases exists_of_makeDirectory ran with ⟨target, _, nothing, rfl⟩
  intro place entry there
  rw [get?_put tree target place _ (ne_nil_of_get?_none nothing), if_neg]
  · exact keeps place entry there
  · rintro rfl
    rw [keeps place entry there] at nothing
    cases nothing

theorem KeepsEntries.get?_none (keeps : tree.KeepsEntries made)
    (nothing : made.get? place = none) : tree.get? place = none := by
  cases there : tree.get? place with
  | none => rfl
  | some entry =>
      rw [keeps place entry there] at nothing
      cases nothing

/-- A new directory is made in the tree, or in one with the missing directories above. -/
theorem IsGrounded.exists_of_makeNewDirectory (grounded : tree.IsGrounded workingPlace)
    (ran : tree.makeNewDirectory workingPlace path = (.ok (), made)) :
    ∃ above : FileTree, above.IsGrounded workingPlace ∧ tree.KeepsEntries above ∧
      (tree.AllDirectories (road workingPlace path) → above = tree) ∧
      above.makeDirectory workingPlace path = .ok made := by
  have stays : tree.KeepsEntries tree := fun _ _ there => there
  unfold makeNewDirectory at ran
  split at ran
  · rename_i ranMake
    cases ran
    exact ⟨tree, grounded, stays, fun _ => rfl, ranMake⟩
  · rename_i notFound
    have aboveHolds := makeDirectories_induction
      (fun made => made.IsGrounded workingPlace ∧ tree.KeepsEntries made)
      (fun holds ranMake => ⟨holds.1.makeDirectory ranMake, holds.2.makeDirectory ranMake⟩)
      ⟨grounded, stays⟩ path.parts.length path.parent
    split at ran
    · cases ran
    · rename_i above ready
      rw [ready] at aboveHolds
      split at ran
      · rename_i ranMake
        cases ran
        exact ⟨above, aboveHolds.1, aboveHolds.2,
          fun all => absurd notFound (makeDirectory_ne_notFound all), ranMake⟩
      · cases ran
  · cases ran

end FileTree

end Montage
