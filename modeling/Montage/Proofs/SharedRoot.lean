import Montage.Proofs.Site

/-! Workspaces of any number of owners below one root, made, written into and removed in any
order: each owner has a directory of its own, with what it wrote and nothing else. -/

namespace Montage

open FileTree (AllDirectories CanBeNamed)

/-! ## The root and its uses -/

structure Tenant where
  workspace : Workspace
  written : List (Place × String) := []

def Tenant.entry? (tenant : Tenant) : Place → Option Entry
  | [] => some .directory
  | names => (tenant.written.lookup names).map .file

structure StaysInside (name : String) : Prop where
  relative : (Path.ofText name).root = ""
  forward : ".." ∉ (Path.ofText name).parts

inductive RootUse where
  | acquire (id : Option String)
  | write (owner : Nat) (name : { name // StaysInside name }) (content : String)
  | release (owner : Nat) (fault : Option RemovalFault)

structure SharedRoot where
  host : Host
  tenants : List Tenant := []

namespace SharedRoot

def acquire (root id : Option String) (shared : SharedRoot) : SharedRoot :=
  match Workspace.acquire id root shared.host with
  | (.ok workspace, host) => { host, tenants := shared.tenants ++ [{ workspace }] }
  | (.error _, host) => { shared with host }

def write (owner : Nat) (name content : String) (shared : SharedRoot) : SharedRoot :=
  match shared.tenants[owner]? with
  | none => shared
  | some tenant =>
      if tenant.workspace.released then shared
      else
        match shared.host.tree.write shared.host.workingPlace (tenant.workspace.file name)
          content with
        | .error _ => shared
        | .ok tree =>
            let names := (Path.ofText name).parts
            { host := { shared.host with tree }
              tenants := shared.tenants.set owner
                { tenant with written := (names, content) :: tenant.written } }

def release (owner : Nat) (fault : Option RemovalFault) (shared : SharedRoot) : SharedRoot :=
  match shared.tenants[owner]? with
  | none => shared
  | some tenant =>
      let (_, workspace, host) :=
        tenant.workspace.release { shared.host with removalFault := fault }
      { host, tenants := shared.tenants.set owner { tenant with workspace } }

def apply (root : Option String) (shared : SharedRoot) : RootUse → SharedRoot
  | .acquire id => shared.acquire root id
  | .write owner name content => shared.write owner name content
  | .release owner fault => shared.release owner fault

def applyAll (root : Option String) (uses : List RootUse) (shared : SharedRoot) : SharedRoot :=
  uses.foldl (apply root) shared

end SharedRoot

/-! ## Tenants of a site -/

variable {site : Site} {tree made : FileTree} {tenant other : Tenant}

namespace Tenant

structure Belongs (site : Site) (tenant : Tenant) : Prop where
  path : tenant.workspace.path = site.pathOf tenant.workspace.exportId
  plain : Workspace.isPlainId tenant.workspace.exportId = true
  canBeNamed : CanBeNamed (site.pathOf tenant.workspace.exportId)
  aside : site.IsAside tenant.workspace.exportId

def place (site : Site) (tenant : Tenant) : Place :=
  site.placeOf tenant.workspace.exportId

def Stands (site : Site) (tree : FileTree) (tenant : Tenant) : Prop :=
  ∀ names, tree.get? (tenant.place site ++ names) = tenant.entry? names

theorem Belongs.locate_iff (belongs : tenant.Belongs site) {place : Place} :
    tree.locate site.workingPlace tenant.workspace.path = .ok place ↔
      tree.AllDirectories site.approach ∧ place = tenant.place site := by
  rw [belongs.path, Site.locate_pathOf belongs.plain]
  simp only [belongs.canBeNamed, true_and, Tenant.place]

theorem Stands.directory (stands : tenant.Stands site tree) :
    tree.get? (tenant.place site) = some .directory := by
  have whole := stands []
  rwa [List.append_nil] at whole

theorem Stands.congr (stands : tenant.Stands site tree)
    (same : ∀ names, made.get? (tenant.place site ++ names) =
      tree.get? (tenant.place site ++ names)) : tenant.Stands site made :=
  fun names => (same names).trans (stands names)

/-! ## Changes at one workspace -/

theorem Stands.put_of_ne (stands : tenant.Stands site tree) {id : String}
    (different : id ≠ tenant.workspace.exportId) (names : List String) (entry : Entry) :
    tenant.Stands site (tree.put (site.placeOf id ++ names) entry) := by
  apply stands.congr
  intro below
  have notRoot : site.placeOf id ++ names ≠ [] :=
    List.append_ne_nil_of_left_ne_nil (site.placeOf_ne_nil id) names
  rw [FileTree.get?_put _ _ _ _ notRoot, if_neg]
  exact fun same => different (Site.placeOf_append_inj same).1.symm

theorem Stands.remove_of_ne (stands : tenant.Stands site tree) {id : String}
    (different : id ≠ tenant.workspace.exportId) :
    tenant.Stands site (tree.remove (site.placeOf id)) := by
  apply stands.congr
  intro below
  have notRoot : tenant.place site ++ below ≠ [] :=
    List.append_ne_nil_of_left_ne_nil (site.placeOf_ne_nil _) below
  rw [FileTree.get?_remove _ _ _ notRoot, if_neg]
  rw [List.isPrefixOf_iff_prefix]
  exact Site.not_isPrefix_of_ne different below

/-- What its owner writes is in the workspace from then on. -/
theorem Stands.put_file (stands : tenant.Stands site tree) {names : List String}
    (nonempty : names ≠ []) (content : String) :
    Stands site (tree.put (tenant.place site ++ names) (.file content))
      { tenant with written := (names, content) :: tenant.written } := by
  intro below
  have notRoot : tenant.place site ++ names ≠ [] :=
    List.append_ne_nil_of_right_ne_nil _ nonempty
  change (tree.put (tenant.place site ++ names) (.file content)).get?
    (tenant.place site ++ below) = _
  rw [FileTree.get?_put _ _ _ _ notRoot, stands below]
  simp only [List.append_cancel_left_eq]
  cases below with
  | nil =>
      rw [if_neg (Ne.symm nonempty)]
      rfl
  | cons first rest =>
      change _ = (List.lookup (first :: rest) ((names, content) :: tenant.written)).map Entry.file
      by_cases same : first :: rest = names
      · rw [if_pos same, same, List.lookup_cons_self]
        rfl
      · have different : (first :: rest == names) = false := beq_false_of_ne same
        simp only [if_neg same, List.lookup_cons, different]
        rfl

/-- A new directory is an empty workspace. -/
theorem stands_put_directory {workingPlace : Place} (grounded : tree.IsGrounded workingPlace)
    (workspace : Workspace) (nothing : tree.get? (site.placeOf workspace.exportId) = none) :
    Stands site (tree.put (site.placeOf workspace.exportId) .directory) { workspace } := by
  intro below
  change (tree.put (site.placeOf workspace.exportId) .directory).get?
    (site.placeOf workspace.exportId ++ below) = _
  rw [FileTree.get?_put _ _ _ _ (site.placeOf_ne_nil _)]
  cases below with
  | nil => rw [List.append_nil, if_pos rfl]; rfl
  | cons first rest =>
      rw [if_neg (by simp), grounded.get?_append_of_none nothing]
      rfl

/-- Where a name inside the workspace is. -/
theorem Belongs.destination_file (belongs : tenant.Belongs site) {name : String}
    (inside : StaysInside name) :
    FileTree.destination site.workingPlace (tenant.workspace.file name) =
      tenant.place site ++ (Path.ofText name).parts := by
  have own : FileTree.destination site.workingPlace tenant.workspace.path =
      tenant.place site := by
    rw [belongs.path, Site.pathOf, FileTree.destination_child site.folder
      (Workspace.isName_of_isPlainId belongs.plain) (Site.name_ne_back _)]
    rfl
  have forward : ∀ part ∈ (Path.ofText name).parts, part ≠ "." ∧ part ≠ ".." := by
    intro part member
    refine ⟨((Path.isNormal_ofText name).names part member).ne_point, ?_⟩
    rintro rfl
    exact inside.forward member
  have joined : tenant.workspace.file name = { tenant.workspace.path with
      parts := tenant.workspace.path.parts ++ (Path.ofText name).parts } := by
    rw [Workspace.file, Path.child, Path.join, inside.relative]
    rfl
  rw [joined]
  calc
    _ = Path.reached (Path.ofText name).parts
          (FileTree.destination site.workingPlace tenant.workspace.path) :=
        Path.reached_append _ _ _
    _ = tenant.place site ++ (Path.ofText name).parts := by
        rw [own, Path.reached_of_forward forward]

end Tenant

/-! ## The invariant -/

namespace SharedRoot

structure Orderly (root : Option String) (site : Site) (shared : SharedRoot) : Prop where
  sameSite : shared.host.site root = site
  grounded : shared.host.tree.IsGrounded site.workingPlace
  approach : shared.tenants ≠ [] → shared.host.tree.AllDirectories site.approach
  belongs : ∀ tenant ∈ shared.tenants, tenant.Belongs site
  stands : ∀ tenant ∈ shared.tenants, tenant.workspace.released = false →
    tenant.Stands site shared.host.tree
  distinct : ∀ (first second : Nat) (tenant other : Tenant),
    shared.tenants[first]? = some tenant → shared.tenants[second]? = some other →
    tenant.workspace.released = false → other.workspace.released = false →
    tenant.workspace.exportId = other.workspace.exportId → first = second

variable {root : Option String} {shared : SharedRoot} {owner : Nat}

theorem Orderly.start (host : Host) (root : Option String)
    (grounded : host.tree.IsGrounded host.workingPlace) :
    Orderly root (host.site root) { host } where
  sameSite := rfl
  grounded := grounded
  approach := fun nonempty => absurd rfl nonempty
  belongs := fun _ member => absurd member List.not_mem_nil
  stands := fun _ member => absurd member List.not_mem_nil
  distinct := fun _ _ _ _ found => nomatch found

theorem Orderly.workingPlace (orderly : shared.Orderly root site) :
    shared.host.workingPlace = site.workingPlace :=
  congrArg Site.workingPlace orderly.sameSite

theorem Orderly.found (orderly : shared.Orderly root site)
    (there : shared.tenants[owner]? = some tenant) :
    tenant.Belongs site ∧ shared.host.tree.AllDirectories site.approach := by
  have member := List.mem_of_getElem? there
  exact ⟨orderly.belongs tenant member, orderly.approach (List.ne_nil_of_mem member)⟩

/-- Another owner with a workspace still to be removed has another id. -/
theorem Orderly.exportId_ne (orderly : shared.Orderly root site) {index : Nat}
    (there : shared.tenants[owner]? = some tenant)
    (found : shared.tenants[index]? = some other) (different : index ≠ owner)
    (unreleased : tenant.workspace.released = false)
    (otherUnreleased : other.workspace.released = false) :
    tenant.workspace.exportId ≠ other.workspace.exportId :=
  fun same => different
    (orderly.distinct _ _ _ _ there found unreleased otherUnreleased same).symm

/-! ## Changes at one owner -/

/-- When the workspace of one owner changes and the others stand, the root stays orderly. -/
theorem Orderly.set (orderly : shared.Orderly root site) {host : Host} {changed : Tenant}
    (there : shared.tenants[owner]? = some tenant)
    (sameSite : host.site root = site)
    (grounded : host.tree.IsGrounded site.workingPlace)
    (approach : host.tree.AllDirectories site.approach)
    (belongs : changed.Belongs site)
    (sameId : changed.workspace.exportId = tenant.workspace.exportId)
    (releasedOnce : changed.workspace.released = false → tenant.workspace.released = false)
    (stands : changed.workspace.released = false → changed.Stands site host.tree)
    (others : ∀ (index : Nat) (other : Tenant), shared.tenants[index]? = some other →
      index ≠ owner → other.workspace.released = false → other.Stands site host.tree) :
    Orderly root site { host, tenants := shared.tenants.set owner changed } := by
  have cases {index : Nat} {found : Tenant}
      (there : (shared.tenants.set owner changed)[index]? = some found) :
      index = owner ∧ found = changed ∨ index ≠ owner ∧ shared.tenants[index]? = some found := by
    rw [List.getElem?_set] at there
    by_cases same : owner = index
    · rw [if_pos same] at there
      split at there
      · exact .inl ⟨same.symm, (Option.some.inj there).symm⟩
      · cases there
    · rw [if_neg same] at there
      exact .inr ⟨Ne.symm same, there⟩
  -- An owner in the new list was one before, with the same id and not released later.
  have before {index : Nat} {found : Tenant}
      (now : (shared.tenants.set owner changed)[index]? = some found) :
      ∃ old, shared.tenants[index]? = some old ∧
        found.workspace.exportId = old.workspace.exportId ∧
        (found.workspace.released = false → old.workspace.released = false) := by
    rcases cases now with ⟨rfl, rfl⟩ | ⟨_, found⟩
    · exact ⟨tenant, there, sameId, releasedOnce⟩
    · exact ⟨_, found, rfl, id⟩
  refine ⟨sameSite, grounded, fun _ => approach, ?_, ?_, ?_⟩
  · intro found member
    rcases List.getElem?_of_mem member with ⟨index, at_index⟩
    rcases cases at_index with ⟨rfl, rfl⟩ | ⟨_, old⟩
    · exact belongs
    · exact orderly.belongs found (List.mem_of_getElem? old)
  · intro found member unreleased
    rcases List.getElem?_of_mem member with ⟨index, at_index⟩
    rcases cases at_index with ⟨rfl, rfl⟩ | ⟨different, old⟩
    · exact stands unreleased
    · exact others index found old different unreleased
  · intro first second one two firstFound secondFound oneUnreleased twoUnreleased same
    rcases before firstFound with ⟨oldOne, oneThere, oneId, oneOnce⟩
    rcases before secondFound with ⟨oldTwo, twoThere, twoId, twoOnce⟩
    exact orderly.distinct first second oldOne oldTwo oneThere twoThere
      (oneOnce oneUnreleased) (twoOnce twoUnreleased) (oneId.symm.trans (same.trans twoId))

/-! ## One use -/

theorem Orderly.write (orderly : shared.Orderly root site) (owner : Nat) {name : String}
    (inside : StaysInside name) (content : String) :
    (shared.write owner name content).Orderly root site := by
  unfold SharedRoot.write
  split
  · exact orderly
  · rename_i tenant there
    split
    · exact orderly
    · rename_i notReleased
      have unreleased := eq_false_of_ne_true notReleased
      split
      · exact orderly
      · rename_i tree written
        rw [orderly.workingPlace] at written
        rcases orderly.found there with ⟨belongs, approach⟩
        have stands := orderly.stands tenant (List.mem_of_getElem? there) unreleased
        have keeps := FileTree.keepsDirectories_write written
        have grounded := orderly.grounded.write written
        rcases FileTree.write_eq_ok_iff.mp written with ⟨place, located, notDirectory, rfl⟩
        -- The file lies at its names below the place of the workspace.
        obtain rfl : place = tenant.place site ++ (Path.ofText name).parts := by
          rw [(FileTree.locate_eq_ok_iff_road.mp located).2.2, belongs.destination_file inside]
        have nonempty : (Path.ofText name).parts ≠ [] := by
          intro none
          rw [none, List.append_nil, FileTree.isDirectory, stands.directory] at notDirectory
          cases notDirectory
        refine orderly.set there orderly.sameSite grounded (approach.keep keeps)
          ⟨belongs.path, belongs.plain, belongs.canBeNamed, belongs.aside⟩ rfl id
          (fun _ => stands.put_file nonempty content) ?_
        intro index other found different otherUnreleased
        have different := orderly.exportId_ne there found different unreleased otherUnreleased
        exact (orderly.stands other (List.mem_of_getElem? found) otherUnreleased).put_of_ne
          different _ _

def hostAfter (shared : SharedRoot) (workspace : Workspace) (fault : Option RemovalFault) : Host :=
  (workspace.release { shared.host with removalFault := fault }).2.2

theorem release_of_found (there : shared.tenants[owner]? = some tenant)
    (fault : Option RemovalFault) : shared.release owner fault =
      { host := shared.hostAfter tenant.workspace fault
        tenants := shared.tenants.set owner
          { tenant with workspace := { tenant.workspace with released := true } } } := by
  rw [SharedRoot.release, there, ← Workspace.release_workspace]
  rfl

theorem hostAfter_site (workspace : Workspace) (fault : Option RemovalFault) :
    (shared.hostAfter workspace fault).site root = shared.host.site root :=
  congrFun (Workspace.release_site workspace _) root

/-- A removal takes nothing, or the place of the workspace. -/
theorem Orderly.hostAfter_tree (orderly : shared.Orderly root site)
    (belongs : tenant.Belongs site) (fault : Option RemovalFault) :
    (shared.hostAfter tenant.workspace fault).tree = shared.host.tree ∨
      tenant.workspace.released = false ∧ (shared.hostAfter tenant.workspace fault).tree =
        shared.host.tree.remove (tenant.place site) := by
  rcases Workspace.release_tree tenant.workspace { shared.host with removalFault := fault } with
    same | ⟨unreleased, place, located, removed⟩
  · exact .inl same
  · have locatedHere : shared.host.tree.locate shared.host.workingPlace
        tenant.workspace.path = .ok place := located
    rw [orderly.workingPlace, belongs.locate_iff] at locatedHere
    rw [locatedHere.2] at removed
    exact .inr ⟨unreleased, removed⟩

theorem Orderly.release (orderly : shared.Orderly root site) (owner : Nat)
    (fault : Option RemovalFault) : (shared.release owner fault).Orderly root site := by
  rcases there : shared.tenants[owner]? with _ | tenant
  · rw [SharedRoot.release, there]
    exact orderly
  · rcases orderly.found there with ⟨belongs, approach⟩
    rw [release_of_found there]
    have sameSite := (hostAfter_site tenant.workspace fault).trans orderly.sameSite
    have stays : Tenant.Belongs site
        { tenant with workspace := { tenant.workspace with released := true } } :=
      ⟨belongs.path, belongs.plain, belongs.canBeNamed, belongs.aside⟩
    rcases orderly.hostAfter_tree belongs fault with same | ⟨unreleased, removed⟩
    · rw [← same] at approach
      refine orderly.set there sameSite (same ▸ orderly.grounded) approach stays rfl
        (fun no => nomatch no) (fun no => nomatch no) ?_
      intro index other found _ otherUnreleased
      rw [same]
      exact orderly.stands other (List.mem_of_getElem? found) otherUnreleased
    · refine orderly.set there sameSite ?_ ?_ stays rfl (fun no => nomatch no)
        (fun no => nomatch no) ?_
      · rw [removed]
        exact orderly.grounded.remove (belongs.aside _ List.mem_cons_self)
      · rw [removed]
        exact approach.remove fun landmark member =>
          belongs.aside landmark (List.mem_cons_of_mem _ member)
      · intro index other found different otherUnreleased
        have different := orderly.exportId_ne there found different unreleased otherUnreleased
        rw [removed]
        exact (orderly.stands other (List.mem_of_getElem? found) otherUnreleased).remove_of_ne
          different

/-! ## A new owner -/

variable {host : Host} {exportId : String} {workspace : Workspace} {problem : Problem}

/-- A machine with the same files at the same site has the same root. -/
theorem Orderly.congr (orderly : shared.Orderly root site) (sameSite : host.site root = site)
    (sameTree : host.tree = shared.host.tree) : Orderly root site { shared with host } where
  sameSite := sameSite
  grounded := sameTree ▸ orderly.grounded
  approach := fun nonempty => sameTree ▸ orderly.approach nonempty
  belongs := orderly.belongs
  stands := fun tenant member unreleased =>
    (orderly.stands tenant member unreleased).congr fun _ => by rw [sameTree]
  distinct := orderly.distinct

/-- Once there are owners, an attempt that fails leaves the files as they are. -/
theorem Orderly.tree_of_refused (orderly : shared.Orderly root site)
    (nonempty : shared.tenants ≠ [])
    (refused : Workspace.make exportId root shared.host = (.error problem, host)) :
    host.tree = shared.host.tree := by
  cases plain : Workspace.isPlainId exportId with
  | false =>
      rw [Workspace.make_of_not_isPlainId plain] at refused
      rw [← (Prod.mk.inj refused).2]
  | true =>
      have ready : shared.host.tree.AllDirectories
          (FileTree.road shared.host.workingPlace (site.pathOf exportId)) := by
        rw [orderly.workingPlace, Site.road_pathOf plain]
        exact orderly.approach nonempty
      have makes := Workspace.make_makes plain root shared.host
      rw [refused, orderly.sameSite, FileTree.makeNewDirectory_of_road ready] at makes
      split at makes
      · cases makes.1
      · exact makes.2

theorem Orderly.refuse (orderly : shared.Orderly root site)
    (refused : Workspace.make exportId root shared.host = (.error problem, host)) :
    Orderly root site { shared with host } := by
  have sameSite := (congrFun (Workspace.make_site exportId root shared.host) root).trans
    orderly.sameSite
  rw [refused] at sameSite
  by_cases nonempty : shared.tenants ≠ []
  · exact orderly.congr sameSite (orderly.tree_of_refused nonempty refused)
  · -- Nobody is there yet, and whatever directories were made lie in directories.
    have none := not_not.mp nonempty
    have grounded : host.tree.IsGrounded site.workingPlace := by
      cases plain : Workspace.isPlainId exportId with
      | false =>
          rw [Workspace.make_of_not_isPlainId plain] at refused
          rw [← (Prod.mk.inj refused).2]
          exact orderly.grounded
      | true =>
          have made := (Workspace.make_makes plain root shared.host).2
          rw [refused, orderly.workingPlace] at made
          rw [made]
          exact FileTree.makeNewDirectory_induction (·.IsGrounded site.workingPlace)
            FileTree.IsGrounded.makeDirectory orderly.grounded _
    refine ⟨sameSite, grounded, fun some => absurd none some, ?_, ?_, ?_⟩
    · rw [none]
      exact fun _ member => absurd member List.not_mem_nil
    · rw [none]
      exact fun _ member => absurd member List.not_mem_nil
    · rw [none]
      exact fun _ _ _ _ found => nomatch found

/-- What a new workspace is: nothing was at its place, and its directory is all that is
new once there are owners. -/
theorem Orderly.exists_of_made (orderly : shared.Orderly root site)
    (made : Workspace.make exportId root shared.host = (.ok workspace, host)) :
    workspace = { path := site.pathOf exportId, exportId } ∧
      Workspace.isPlainId exportId = true ∧
      ∃ above : FileTree, above.IsGrounded site.workingPlace ∧
        shared.host.tree.KeepsEntries above ∧
        (shared.tenants ≠ [] → above = shared.host.tree) ∧
        above.makeDirectory site.workingPlace (site.pathOf exportId) = .ok host.tree := by
  rcases Workspace.exists_of_make made with ⟨tree, plain, ran, sameWorkspace, rfl⟩
  have folder : Workspace.pathOf (root.getD shared.host.temporaryRoot) exportId =
      site.pathOf exportId := by
    rw [← orderly.sameSite]
    rfl
  rw [folder] at ran sameWorkspace
  rw [orderly.workingPlace] at ran
  rcases orderly.grounded.exists_of_makeNewDirectory ran with
    ⟨above, grounded, keeps, ready, ranMake⟩
  refine ⟨sameWorkspace, plain, above, grounded, keeps, fun nonempty => ready ?_, ranMake⟩
  rw [Site.road_pathOf plain]
  exact orderly.approach nonempty

theorem Orderly.make (orderly : shared.Orderly root site)
    (made : Workspace.make exportId root shared.host = (.ok workspace, host)) :
    Orderly root site { host, tenants := shared.tenants ++ [{ workspace }] } := by
  have sameSite := (congrFun (Workspace.make_site exportId root shared.host) root).trans
    orderly.sameSite
  rw [made] at sameSite
  rcases orderly.exists_of_made made with
    ⟨rfl, plain, above, grounded, _, onlyNew, ranMake⟩
  rcases Site.makeDirectory_pathOf grounded plain ranMake with
    ⟨put, nothing, approach, canBeNamed, aside⟩
  have keeps : above.KeepsDirectories host.tree :=
    (FileTree.KeepsDirectories.refl above).makeDirectory ranMake
  -- Whoever is there already has another id: at the new place there was nothing.
  have others {index : Nat} {other : Tenant} (found : shared.tenants[index]? = some other)
      (unreleased : other.workspace.released = false) :
      exportId ≠ other.workspace.exportId ∧ other.Stands site above := by
    have member := List.mem_of_getElem? found
    have stands := orderly.stands other member unreleased
    rw [← onlyNew (List.ne_nil_of_mem member)] at stands
    refine ⟨?_, stands⟩
    rintro rfl
    have directory : above.get? (site.placeOf other.workspace.exportId) = _ := stands.directory
    rw [nothing] at directory
    cases directory
  have cases {index : Nat} {found : Tenant}
      (there : (shared.tenants ++ [({ workspace := ⟨site.pathOf exportId, exportId, false⟩ } :
        Tenant)])[index]? = some found) :
      shared.tenants[index]? = some found ∨ index = shared.tenants.length ∧
        found = { workspace := ⟨site.pathOf exportId, exportId, false⟩ } := by
    rw [List.getElem?_append] at there
    split at there
    · exact .inl there
    · rename_i notOld
      rw [List.getElem?_singleton] at there
      split at there
      · exact .inr ⟨by omega, (Option.some.inj there).symm⟩
      · cases there
  refine ⟨sameSite, grounded.makeDirectory ranMake, fun _ => approach.keep keeps, ?_, ?_, ?_⟩
  · intro tenant member
    rcases List.mem_append.mp member with member | member
    · exact orderly.belongs tenant member
    · rw [List.mem_singleton.mp member]
      refine ⟨?_, plain, canBeNamed, aside⟩
      dsimp only
  · intro tenant member unreleased
    rcases List.getElem?_of_mem member with ⟨index, found⟩
    rw [put]
    rcases cases found with found | ⟨_, rfl⟩
    · rcases others found unreleased with ⟨different, stands⟩
      rw [← List.append_nil (site.placeOf exportId)]
      exact stands.put_of_ne different [] _
    · exact Tenant.stands_put_directory grounded ⟨site.pathOf exportId, exportId, false⟩ nothing
  · intro first second one two firstFound secondFound oneUnreleased twoUnreleased same
    rcases cases firstFound with firstOld | ⟨firstLast, rfl⟩ <;>
      rcases cases secondFound with secondOld | ⟨secondLast, rfl⟩
    · exact orderly.distinct first second one two firstOld secondOld oneUnreleased
        twoUnreleased same
    · exact absurd same.symm (others firstOld oneUnreleased).1
    · exact absurd same (others secondOld twoUnreleased).1
    · rw [firstLast, secondLast]

end SharedRoot

end Montage
