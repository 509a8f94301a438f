import Montage.Proofs.SharedRoot

/-! Workspaces on one root do not disturb each other, whatever their owners do and in which
order they do it. -/

namespace Montage

namespace SharedRoot

variable {root : Option String} {site : Site} {shared : SharedRoot} {owner : Nat}
  {tenant : Tenant}

/-! ## Any uses -/

theorem Orderly.acquire (orderly : shared.Orderly root site) (id : Option String) :
    (shared.acquire root id).Orderly root site := by
  have chosenOrderly : Orderly root site { shared with host := (shared.host.chooseId id).2 } :=
    orderly.congr
      ((congrFun (Workspace.chooseId_site shared.host id) root).trans orderly.sameSite)
      (shared.host.chooseId_sameWorld id).2
  unfold SharedRoot.acquire
  rcases acquired : Workspace.acquire id root shared.host with ⟨problem | workspace, host⟩
  · exact chosenOrderly.refuse acquired
  · exact chosenOrderly.make acquired

theorem Orderly.apply (orderly : shared.Orderly root site) (use : RootUse) :
    (shared.apply root use).Orderly root site := by
  cases use with
  | acquire id => exact orderly.acquire id
  | write owner name content => exact orderly.write owner name.2 content
  | release owner fault => exact orderly.release owner fault

theorem Orderly.applyAll (orderly : shared.Orderly root site) (uses : List RootUse) :
    (shared.applyAll root uses).Orderly root site := by
  induction uses generalizing shared with
  | nil => exact orderly
  | cons use rest induction => exact induction (orderly.apply use)

/-! ## Released once -/

def IsReleased (owner : Nat) (shared : SharedRoot) : Prop :=
  ∃ tenant, shared.tenants[owner]? = some tenant ∧ tenant.workspace.released = true

theorem isReleased_release (there : owner < shared.tenants.length) (fault : Option RemovalFault) :
    (shared.release owner fault).IsReleased owner := by
  rw [release_of_found (List.getElem?_eq_getElem there)]
  exact ⟨_, List.getElem?_set_self there, rfl⟩

theorem IsReleased.set (released : shared.IsReleased owner) (host : Host) (index : Nat)
    (changed : Tenant) (stays : index = owner → changed.workspace.released = true) :
    IsReleased owner { host, tenants := shared.tenants.set index changed } := by
  rcases released with ⟨tenant, there, gone⟩
  by_cases same : index = owner
  · subst same
    have bound := (List.getElem?_eq_some_iff.mp there).1
    exact ⟨changed, List.getElem?_set_self bound, stays rfl⟩
  · exact ⟨tenant, (List.getElem?_set_ne same).trans there, gone⟩

theorem IsReleased.apply (released : shared.IsReleased owner) (use : RootUse) :
    (shared.apply root use).IsReleased owner := by
  cases use with
  | acquire id =>
      rcases released with ⟨tenant, there, gone⟩
      change (shared.acquire root id).IsReleased owner
      unfold SharedRoot.acquire
      split
      · have bound := (List.getElem?_eq_some_iff.mp there).1
        exact ⟨tenant, (List.getElem?_append_left bound).trans there, gone⟩
      · exact ⟨tenant, there, gone⟩
  | write index name content =>
      change (shared.write index name.1 content).IsReleased owner
      unfold SharedRoot.write
      split
      · exact released
      · rename_i writer found
        split
        · exact released
        · rename_i notReleased
          split
          · exact released
          · refine released.set _ index _ fun same => ?_
            rcases released with ⟨tenant, there, gone⟩
            rw [← same, found] at there
            rw [Option.some.inj there]
            exact gone
  | release index fault =>
      change (shared.release index fault).IsReleased owner
      rcases found : shared.tenants[index]? with _ | other
      · rw [SharedRoot.release, found]
        exact released
      · rw [release_of_found found]
        exact released.set _ index _ fun _ => rfl

theorem IsReleased.applyAll (released : shared.IsReleased owner) (uses : List RootUse) :
    (shared.applyAll root uses).IsReleased owner := by
  induction uses generalizing shared with
  | nil => exact released
  | cons use rest induction => exact induction (released.apply use)

theorem IsReleased.release_tree (released : shared.IsReleased owner) (fault : Option RemovalFault) :
    (shared.release owner fault).host.tree = shared.host.tree := by
  rcases released with ⟨tenant, there, gone⟩
  rw [release_of_found there, hostAfter, Workspace.release_of_released gone]

/-! ## Isolation -/

structure MadeNew (root : Option String) (id : String) (before after : Host)
    (workspace : Workspace) : Prop where
  exportId : workspace.exportId = id
  plain : '/' ∉ id.toList ∧ '\\' ∉ id.toList ∧ '\x00' ∉ id.toList ∧
    ¬ ['.', '.'] <:+: id.toList
  absent : before.tree.has before.workingPlace ((before.site root).pathOf id) ≠ .ok true
  isNew : ∃ place, after.tree.locate after.workingPlace workspace.path = .ok place ∧
    before.tree.get? place = none

/-- Nobody's workspace is anybody else's, and no use of one has to do with another. -/
structure Isolated (root : Option String) (shared : SharedRoot) : Prop where
  named : ∀ tenant ∈ shared.tenants, tenant.workspace.path =
    let folder := Path.ofText (root.getD shared.host.temporaryRoot)
    { folder with parts := folder.parts ++ ["cliptrack-" ++ tenant.workspace.exportId] }
  distinct : ∀ (first second : Nat) (tenant other : Tenant),
    shared.tenants[first]? = some tenant → shared.tenants[second]? = some other →
    first ≠ second → tenant.workspace.released = false → other.workspace.released = false →
    tenant.workspace.path ≠ other.workspace.path
  holds : ∀ tenant ∈ shared.tenants, tenant.workspace.released = false →
    ∃ place, shared.host.tree.locate shared.host.workingPlace tenant.workspace.path = .ok place ∧
      ∀ names, shared.host.tree.get? (place ++ names) = tenant.entry? names
  acquired : ∀ id workspace after,
    Workspace.acquire id root shared.host = (.ok workspace, after) →
    MadeNew root (shared.host.chooseId id).1 shared.host after workspace
  refused : ∀ id, Workspace.isPlainId (shared.host.chooseId id).1 = false ∨
      shared.host.tree.has shared.host.workingPlace
        ((shared.host.site root).pathOf (shared.host.chooseId id).1) = .ok true →
    ∃ refusal : Refusal, Workspace.acquire id root shared.host =
      (.error refusal.toProblem, (shared.host.chooseId id).2)
  released : ∀ owner tenant, shared.tenants[owner]? = some tenant → ∀ fault place,
    (shared.release owner fault).host.tree.get? place ≠ shared.host.tree.get? place →
    tenant.workspace.released = false ∧ ∃ own,
      shared.host.tree.locate shared.host.workingPlace tenant.workspace.path = .ok own ∧
      own <+: place

theorem exists_of_has {host : Host} {path : Path}
    (has : host.tree.has host.workingPlace path = .ok true) :
    ∃ place, host.tree.locate host.workingPlace path = .ok place ∧
      (host.tree.get? place).isSome = true := by
  unfold FileTree.has at has
  split at has
  · rename_i place located
    exact ⟨place, located, Except.ok.inj has⟩
  · cases has
  · cases has

theorem Orderly.madeNew (orderly : shared.Orderly root site) {exportId : String} {host : Host}
    {workspace : Workspace}
    (made : Workspace.make exportId root shared.host = (.ok workspace, host)) :
    MadeNew root exportId shared.host host workspace := by
  have after := (orderly.make made).workingPlace
  rcases orderly.exists_of_made made with ⟨rfl, plain, above, grounded, keeps, _, ranMake⟩
  rcases Site.makeDirectory_pathOf grounded plain ranMake with
    ⟨_, nothing, approach, canBeNamed, _⟩
  have still : host.tree.AllDirectories site.approach :=
    approach.keep ((FileTree.KeepsDirectories.refl above).makeDirectory ranMake)
  refine ⟨rfl, (Workspace.isPlainId_iff exportId).mp plain, fun has => ?_,
    site.placeOf exportId, ?_, keeps.get?_none nothing⟩
  · rcases exists_of_has has with ⟨place, located, there⟩
    rw [Workspace.make_of_there plain located there] at made
    cases made
  · dsimp only
    rw [show host.workingPlace = site.workingPlace from after, Site.locate_pathOf plain]
    exact ⟨still, canBeNamed, rfl⟩

theorem Orderly.isolated (orderly : shared.Orderly root site) : shared.Isolated root where
  named := by
    intro tenant member
    have belongs := orderly.belongs tenant member
    rw [belongs.path, Site.pathOf_eq belongs.plain, ← orderly.sameSite]
    rfl
  distinct := by
    intro first second tenant other found otherFound different unreleased otherUnreleased same
    have belongs := (orderly.found found).1
    have otherBelongs := (orderly.found otherFound).1
    rw [belongs.path, otherBelongs.path, Site.pathOf_eq belongs.plain,
      Site.pathOf_eq otherBelongs.plain] at same
    have sameId : tenant.workspace.exportId = other.workspace.exportId := by
      simpa using congrArg Path.parts same
    exact different
      (orderly.distinct _ _ _ _ found otherFound unreleased otherUnreleased sameId)
  holds := by
    intro tenant member unreleased
    refine ⟨tenant.place site, ?_, orderly.stands tenant member unreleased⟩
    rw [orderly.workingPlace, (orderly.belongs tenant member).locate_iff]
    exact ⟨orderly.approach (List.ne_nil_of_mem member), rfl⟩
  acquired := by
    intro id workspace after acquired
    rcases shared.host.chooseId_sameWorld id with ⟨world, sameTree⟩
    have sameSite := congrFun (Workspace.chooseId_site shared.host id) root
    have chosen := orderly.congr (sameSite.trans orderly.sameSite) sameTree
    have made := chosen.madeNew acquired
    refine ⟨made.exportId, made.plain, ?_, ?_⟩
    · rw [← sameTree, ← world.workingPlace, ← sameSite]
      exact made.absent
    · rw [← sameTree]
      exact made.isNew
  refused := by
    intro id bad
    rcases shared.host.chooseId_sameWorld id with ⟨world, sameTree⟩
    have sameSite := congrFun (Workspace.chooseId_site shared.host id) root
    cases plain : Workspace.isPlainId (shared.host.chooseId id).1 with
    | false => exact ⟨_, Workspace.make_of_not_isPlainId plain root _⟩
    | true =>
        rw [plain] at bad
        have has := bad.resolve_left (fun same => nomatch same)
        rw [← sameTree, ← world.workingPlace, ← sameSite] at has
        rcases exists_of_has has with ⟨place, located, there⟩
        exact ⟨_, Workspace.make_of_there plain located there⟩
  released := by
    intro owner tenant there fault place changed
    rcases orderly.found there with ⟨belongs, approach⟩
    rw [release_of_found there] at changed
    rcases orderly.hostAfter_tree belongs fault with same | ⟨unreleased, removed⟩
    · exact absurd (congrArg (FileTree.get? · place) same) changed
    · refine ⟨unreleased, tenant.place site, ?_, ?_⟩
      · rw [orderly.workingPlace, belongs.locate_iff]
        exact ⟨approach, rfl⟩
      · rw [removed] at changed
        by_cases below : place = []
        · rw [below] at changed
          exact absurd rfl changed
        · rw [FileTree.get?_remove _ _ _ below] at changed
          split at changed
          · rename_i inside
            exact List.isPrefixOf_iff_prefix.mp inside
          · exact absurd rfl changed

/-- After any uses of a root, by any number of owners, the workspaces on it are isolated;
and what is done after the removal of one of them has nothing to fear from a second
removal. -/
theorem isolated_applyAll (host : Host) (root : Option String) (uses : List RootUse)
    (grounded : host.tree.IsGrounded host.workingPlace) :
    let shared := applyAll root uses { host }
    shared.Isolated root ∧
      ∀ owner < shared.tenants.length, ∀ fault later lateFault,
        let afterwards := applyAll root later (shared.release owner fault)
        (afterwards.release owner lateFault).host.tree = afterwards.host.tree := by
  intro shared
  have orderly := (Orderly.start host root grounded).applyAll uses
  refine ⟨orderly.isolated, fun owner there fault later lateFault => ?_⟩
  exact ((isReleased_release there fault).applyAll later).release_tree lateFault

theorem clip_staysInside : StaysInside "clip" :=
  ⟨by decide +kernel, by decide +kernel⟩

/-- The id of a workspace that was removed is used again, and the first owner has its
workspace removed once more. -/
theorem isolated_applyAll_sample :
    let shared := applyAll none [.acquire none] { host := .sample }
    let again := applyAll none
      [.acquire (some "export0"), .write 1 ⟨"clip", clip_staysInside⟩ "media"]
      (shared.release 0 none)
    Host.sample.tree.IsGrounded Host.sample.workingPlace ∧ shared.tenants.length = 1 ∧
      shared.Isolated none ∧ (again.release 0 none).host.tree = again.host.tree := by
  intro shared again
  have tenants : shared.tenants = [{ workspace := .sample }] := by
    have acquired := Workspace.sample_acquired
    have once : shared = SharedRoot.acquire none none { host := Host.sample } := rfl
    rw [once, SharedRoot.acquire]
    rcases made : Workspace.acquire none none Host.sample with ⟨result, host⟩
    rw [made] at acquired
    subst acquired
    rfl
  have isolated := isolated_applyAll .sample none [.acquire none] Host.sample_isGrounded
  have there : 0 < shared.tenants.length := by
    rw [tenants]
    exact Nat.one_pos
  exact ⟨Host.sample_isGrounded, congrArg List.length tenants, isolated.1,
    isolated.2 0 there none _ none⟩

end SharedRoot

end Montage
