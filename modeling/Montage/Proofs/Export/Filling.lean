import Montage.Proofs.Export.Deeds
import Montage.Proofs.Export.Extractions
import Montage.Proofs.Workspace

/-! How a workspace fills: each extraction leaves its file there, whatever was left before. -/

namespace Montage

variable {workspace : Workspace} {place : Place} {before after : Session}

theorem Workspace.Stands.of_sameWorld (stands : workspace.Stands before.host place)
    (world : before.SameWorld after) (tree : after.host.tree = before.host.tree) :
    workspace.Stands after.host place where
  normal := stands.normal
  below := stands.below
  folder := by
    rw [tree, world.workingPlace]
    exact stands.folder

theorem Workspace.Stands.put_file (stands : workspace.Stands before.host place)
    (world : before.SameWorld after) {name content : String}
    (tree : after.host.tree = before.host.tree.put (place ++ [name]) (.file content)) :
    workspace.Stands after.host place where
  normal := stands.normal
  below := stands.below
  folder := by
    rw [tree, world.workingPlace]
    exact stands.folder.put_file name content

structure Workspace.CanHold (workspace : Workspace) (name : String) : Prop where
  isFileName : FileTree.IsFileName name
  fits : FileTree.Fits (workspace.file name)

theorem Workspace.Stands.write {host : Host} (stands : workspace.Stands host place)
    {name : String} (canHold : workspace.CanHold name) (content : String) :
    host.tree.write host.workingPlace (workspace.file name) content =
      .ok (host.tree.put (place ++ [name]) (.file content)) :=
  stands.folder.write_child stands.normal stands.below canHold.isFileName canHold.fits content

theorem Workspace.Stands.read {host : Host} (stands : workspace.Stands host place)
    {name content : String} (canHold : workspace.CanHold name)
    (stored : host.tree.get? (place ++ [name]) = some (.file content)) :
    host.tree.read host.workingPlace (workspace.file name) = .ok content :=
  stands.folder.read_child stands.normal stands.below canHold.isFileName canHold.fits stored

theorem Workspace.Stands.ofText_file {host : Host} (stands : workspace.Stands host place)
    (name : String) : Path.ofText (workspace.file name).text = workspace.file name :=
  (stands.normal.child name).ofText_text

theorem effects_singleton (host : Host) (deed : Deed) (tree : FileTree) :
    effects host [deed] tree = deed.effect host tree := by
  simp [effects]

/-! ## Deeds that write into a workspace -/

section

variable {host : Host} {tree made : FileTree} {deed : Deed} {deeds : List Deed} {name : String}
  {names : List String}

theorem exists_of_effects_cons (ran : effects host (deed :: deeds) tree = .ok made) :
    ∃ next, deed.effect host tree = .ok next ∧ effects host deeds next = .ok made := by
  rw [effects, List.foldlM_cons] at ran
  cases one : deed.effect host tree with
  | error fault =>
      rw [one] at ran
      cases ran
  | ok next =>
      rw [one] at ran
      exact ⟨next, rfl, ran⟩

theorem Deed.exists_write_of_effect {path : Path} (writes : deed.written? = some path)
    (ran : deed.effect host tree = .ok made) :
    ∃ content, tree.write host.workingPlace path content = .ok made := by
  cases deed with
  | copy source target =>
      cases writes
      cases there : tree.read host.workingPlace source with
      | error fault =>
          rw [effect, there] at ran
          cases ran
      | ok content =>
          rw [effect, there] at ran
          exact ⟨content, ran⟩
  | makeDirectory | compose => cases writes
  | extract | list | join =>
      cases writes
      exact ⟨_, ran⟩

/-- Such a deed leaves one file there. -/
theorem Workspace.Stands.effect (stands : workspace.Stands { host with tree } place)
    (canHold : workspace.CanHold name) (writes : deed.written? = some (workspace.file name))
    (ran : deed.effect host tree = .ok made) :
    (∃ content, made = tree.put (place ++ [name]) (.file content)) ∧
      workspace.Stands { host with tree := made } place := by
  rcases Deed.exists_write_of_effect writes ran with ⟨content, wrote⟩
  have put : made = tree.put (place ++ [name]) (.file content) :=
    Except.ok.inj (wrote.symm.trans (stands.write canHold content))
  refine ⟨⟨content, put⟩, stands.normal, stands.below, ?_⟩
  rw [put]
  exact stands.folder.put_file name content

/-- What stays true when any of some files is written, whatever into it, stays true of deeds
that write nothing else. -/
theorem Workspace.Stands.effects_induction (Holds : FileTree → Prop)
    (keeps : ∀ (tree : FileTree), ∀ name ∈ names, ∀ content : String, Holds tree →
      Holds (tree.put (place ++ [name]) (.file content)))
    (canHold : ∀ name ∈ names, workspace.CanHold name)
    (writes : ∀ deed ∈ deeds, ∃ name ∈ names, deed.written? = some (workspace.file name))
    (stands : workspace.Stands { host with tree } place) (holds : Holds tree)
    (ran : effects host deeds tree = .ok made) :
    Holds made ∧ workspace.Stands { host with tree := made } place := by
  induction deeds generalizing tree with
  | nil =>
      cases ran
      exact ⟨holds, stands⟩
  | cons deed rest induction =>
      rcases exists_of_effects_cons ran with ⟨next, one, others⟩
      rcases writes deed List.mem_cons_self with ⟨name, member, written⟩
      rcases stands.effect (canHold name member) written one with ⟨⟨content, rfl⟩, nextStands⟩
      exact induction (fun deed member => writes deed (List.mem_cons_of_mem _ member)) nextStands
        (keeps tree name member content holds) others

theorem Workspace.Stands.of_effects (stands : workspace.Stands { host with tree } place)
    (canHold : ∀ name ∈ names, workspace.CanHold name)
    (writes : ∀ deed ∈ deeds, ∃ name ∈ names, deed.written? = some (workspace.file name))
    (ran : effects host deeds tree = .ok made) :
    workspace.Stands { host with tree := made } place :=
  (stands.effects_induction (fun _ => True) (fun _ _ _ _ _ => trivial) canHold writes trivial
    ran).2

/-- Other places stay as they are. -/
theorem Workspace.Stands.get?_of_effects (stands : workspace.Stands { host with tree } place)
    (canHold : ∀ name ∈ names, workspace.CanHold name)
    (writes : ∀ deed ∈ deeds, ∃ name ∈ names, deed.written? = some (workspace.file name))
    (ran : effects host deeds tree = .ok made) (spared : name ∉ names) :
    made.get? (place ++ [name]) = tree.get? (place ++ [name]) := by
  refine (stands.effects_induction
    (fun now => now.get? (place ++ [name]) = tree.get? (place ++ [name]))
    ?_ canHold writes rfl ran).1
  intro now other member content same
  rw [FileTree.get?_put _ _ _ _ (by simp), if_neg, same]
  intro here
  have sameName : name = other := by simpa using here
  exact spared (sameName ▸ member)

/-- What is written there is a file in the end. -/
theorem Workspace.Stands.exists_file_of_effects
    (stands : workspace.Stands { host with tree } place)
    (canHold : ∀ name ∈ names, workspace.CanHold name)
    (writes : ∀ deed ∈ deeds, ∃ name ∈ names, deed.written? = some (workspace.file name))
    (ran : effects host deeds tree = .ok made) (canHoldName : workspace.CanHold name)
    (member : deed ∈ deeds) (written : deed.written? = some (workspace.file name)) :
    ∃ content, made.get? (place ++ [name]) = some (.file content) := by
  let IsFile (now : FileTree) : Prop := ∃ content, now.get? (place ++ [name]) = some (.file content)
  have keeps (now : FileTree) (other : String) (content : String) (isFile : IsFile now) :
      IsFile (now.put (place ++ [other]) (.file content)) := by
    unfold IsFile
    rw [FileTree.get?_put _ _ _ _ (by simp)]
    split
    · exact ⟨content, rfl⟩
    · exact isFile
  induction deeds generalizing tree with
  | nil => cases member
  | cons first rest induction =>
      have writesRest := fun deed member => writes deed (List.mem_cons_of_mem _ member)
      rcases exists_of_effects_cons ran with ⟨next, one, others⟩
      rcases List.mem_cons.mp member with rfl | member
      · rcases stands.effect canHoldName written one with ⟨⟨content, rfl⟩, nextStands⟩
        refine (nextStands.effects_induction IsFile (fun now other _ => keeps now other) canHold
          writesRest ⟨content, ?_⟩ others).1
        rw [FileTree.get?_put _ _ _ _ (by simp), if_pos rfl]
      · rcases writes first List.mem_cons_self with ⟨other, otherMember, writesOther⟩
        exact induction (stands.effect (canHold other otherMember) writesOther one).2 writesRest
          others member

end

theorem runTool_into (delivers : before.Delivers) (stands : workspace.Stands before.host place)
    {name : String} (canHold : workspace.CanHold name) {arguments : List String}
    (last : arguments.getLast? = some (workspace.file name).text) (stage : Option String) :
    ∃ stdout after, runTool arguments stage before = (.ok stdout, after) ∧
      before.SameWorld after ∧
      after.host.calls = before.host.calls ++ [before.runner.binary :: arguments] ∧
      lastPath arguments = workspace.file name ∧
      after.host.tree = before.host.tree.put (place ++ [name]) (.file "media") := by
  have given : arguments ≠ [] := by
    rintro rfl
    cases last
  have lastIs : lastPath arguments = workspace.file name := by
    rw [lastPath, List.getLastD_eq_getLast?, last, Option.getD_some]
    exact stands.ofText_file name
  rcases runTool_of_delivers delivers given stage with ⟨stdout, after, ran, world, calls, left⟩
  refine ⟨stdout, after, ran, world, calls, lastIs, ?_⟩
  rw [left, lastIs]
  exact FileTree.leaving_of_write (stands.write canHold "media")

structure Filled (workspace : Workspace) (place : Place) (start : Session) (deeds : List Deed)
    (names : List String) (session : Session) : Prop where
  did : start.Did deeds session
  stands : workspace.Stands session.host place
  stored : ∀ name ∈ names, session.host.tree.get? (place ++ [name]) = some (.file "media")

variable {start : Session} {deeds : List Deed} {names : List String}

theorem Filled.refl (stands : workspace.Stands start.host place) :
    Filled workspace place start [] [] start where
  did := .refl start
  stands := stands
  stored := nofun

theorem Filled.then_same (filled : Filled workspace place start deeds names before)
    (same : before.Did [] after) : Filled workspace place start deeds names after where
  did := filled.did.then_same same
  stands := filled.stands.of_sameWorld same.world same.sameTree
  stored := by
    rw [same.sameTree]
    exact filled.stored

theorem Filled.then_put (filled : Filled workspace place start deeds names before) {deed : Deed}
    {name : String} (did : before.Did [deed] after)
    (tree : after.host.tree = before.host.tree.put (place ++ [name]) (.file "media")) :
    Filled workspace place start (deeds ++ [deed]) (names ++ [name]) after where
  did := filled.did.trans did
  stands := filled.stands.put_file did.world tree
  stored := by
    intro other member
    rw [tree, FileTree.get?_put _ _ _ _ (by simp)]
    split
    · rfl
    · rename_i different
      rcases List.mem_append.mp member with member | member
      · exact filled.stored other member
      · exact absurd (by rw [List.mem_singleton.mp member]) different

/-! ## Extractions -/

variable {τ : Type} [Quantity τ] {item : Type}

def Deed.ofExtraction (extraction : Extraction τ) : Deed :=
  .extract extraction.arguments

theorem Clip.getLast?_extractionIn (clip : Clip τ) (stream : Stream) (timeline : Timeline τ)
    (workspace : Workspace) (ordinal : Nat) (settings : Settings) (window : Window τ) :
    (clip.extractionIn stream timeline workspace ordinal settings window).arguments.getLast? =
      some (workspace.file (assetName stream clip.track ordinal)).text := by
  rw [extractionIn, trimArguments, Workspace.assetPath_eq, List.getLast?_append]
  rfl

/-! ## Names that fit -/

theorem length_le_utf8ByteSize (text : String) : text.toList.length ≤ text.utf8ByteSize := by
  generalize charsIs : text.toList = chars
  rw [← String.ofList_toList (s := text), charsIs]
  clear charsIs
  induction chars with
  | nil => exact Nat.zero_le _
  | cons char rest induction =>
      have positive := char.utf8Size_pos
      rw [String.ofList_cons, String.utf8ByteSize_append, String.utf8ByteSize_singleton,
        List.length_cons]
      omega

theorem Track.isWritable_of_literal_short {track : Track}
    (short : track.literal.toList.length ≤ mostIntegerDigits) :
    track.toValue.isWritable = true := by
  cases track with
  | numbered number =>
      rw [literal_numbered, integerText, String.toList_ofList, List.length_append] at short
      exact decide_eq_true (Nat.le_of_add_left_le short)
  | truth value => rfl

omit [Quantity τ] in
/-- A track whose number has too many digits makes a name that is too long anyway. -/
theorem Clip.isNameable_of_canHold {clip : Clip τ} {stream : Stream} {ordinal : Nat}
    (canHold : workspace.CanHold (assetName stream clip.track ordinal)) : clip.IsNameable := by
  have short := canHold.fits.names (assetName stream clip.track ordinal) (by
    rw [Workspace.file, Path.child_of_isName _ canHold.isFileName.isName]
    exact List.mem_append_right _ List.mem_cons_self)
  have length := length_le_utf8ByteSize (assetName stream clip.track ordinal)
  have most : FileTree.longestName ≤ mostIntegerDigits := by decide
  simp only [assetName_toList, List.length_append, List.length_cons] at length
  exact Track.isWritable_of_literal_short (by omega)

variable [LawfulQuantity τ] {clipOf : item → Clip τ} {items : List item} {stream : Stream}
  {timeline : Timeline τ}

theorem extract_fills (delivers : start.Delivers)
    (canHold : ∀ name ∈ assetNames clipOf stream items timeline, workspace.CanHold name)
    (settings : Settings) (deeds : List Deed) (names : List String) :
    GivesInTurn
      (fun counted => extract (clipOf counted.1) stream timeline workspace settings counted.2)
      (extractionOf clipOf stream timeline workspace settings)
      (fun done => Filled workspace place start
        (deeds ++ (done.filterMap
          (extractionOf clipOf stream timeline workspace settings)).map .ofExtraction)
        (names ++ done.filterMap (playedName clipOf stream timeline)))
      (withOrdinals clipOf items) := by
  intro done counted before member filled
  simp only [List.filterMap_append, List.filterMap_cons, List.filterMap_nil]
  cases plays : (clipOf counted.1).window? timeline with
  | none =>
      have noExtraction :
          extractionOf clipOf stream timeline workspace settings counted = none := by
        rw [extractionOf, plays]
        rfl
      have noName : playedName clipOf stream timeline counted = none := by
        rw [playedName, plays]
        rfl
      simp only [noExtraction, noName, List.append_nil]
      rw [extract_of_skipped plays]
      exact ⟨_, rfl, filled.then_same (before.did_writeLog _ _ _)⟩
  | some window =>
      let extraction :=
        (clipOf counted.1).extractionIn stream timeline workspace counted.2 settings window
      have isExtraction :
          extractionOf clipOf stream timeline workspace settings counted = some extraction := by
        rw [extractionOf, plays]
        rfl
      have isName : playedName clipOf stream timeline counted =
          some (countedName clipOf stream counted) := by
        rw [playedName, plays]
        rfl
      have nameFits := canHold _ (List.mem_filterMap.mpr ⟨counted, member, isName⟩)
      rcases runTool_into (delivers.of_sameWorld filled.did.world) filled.stands nameFits
        ((clipOf counted.1).getLast?_extractionIn stream timeline workspace counted.2 settings
          window) (some stream.stage.name) with ⟨stdout, after, ran, world, calls, lastIs, tree⟩
      have did : before.Did [.ofExtraction extraction] after := by
        refine ⟨world, calls, ?_⟩
        rw [effects_singleton, Deed.ofExtraction, Deed.effect, lastIs, tree]
        exact filled.stands.write nameFits "media"
      simp only [isExtraction, isName, List.map_append, List.map_cons, List.map_nil]
      rw [extract_of_plays plays (Clip.isNameable_of_canHold nameFits), ← List.append_assoc,
        ← List.append_assoc]
      exact ⟨after, run_bind_of_ok ran _, filled.then_put did tree⟩

theorem extractAll_fills (delivers : start.Delivers)
    (filled : Filled workspace place start deeds names before)
    (canHold : ∀ name ∈ assetNames clipOf .video items timeline, workspace.CanHold name)
    (settings : Settings) :
    ∃ after, extractAll clipOf items timeline workspace settings before =
        (.ok (survivors clipOf items timeline workspace), after) ∧
      Filled workspace place start
        (deeds ++ (extractions clipOf .video items timeline workspace settings).map .ofExtraction)
        (names ++ assetNames clipOf .video items timeline) after :=
  extractAll_of_gives _ (extract_fills delivers canHold settings deeds names)
    (by simpa using filled)

theorem extractSound_fills (delivers : start.Delivers) {checked : CheckedTimeline τ}
    (filled : Filled workspace place start deeds names before)
    (canHold : ∀ name ∈ assetNames id .audio checked.mainClips checked.timeline,
      workspace.CanHold name) (settings : Settings) :
    ∃ after, extractSound checked workspace settings before =
        (.ok ((assetNames id .audio checked.mainClips checked.timeline).map workspace.file),
          after) ∧
      Filled workspace place start
        (deeds ++ (extractions id .audio checked.mainClips checked.timeline workspace
          settings).map .ofExtraction)
        (names ++ assetNames id .audio checked.mainClips checked.timeline) after := by
  have begins : Filled workspace place start
      (deeds ++ (List.filterMap (extractionOf id .audio checked.timeline workspace settings)
        []).map .ofExtraction)
      (names ++ List.filterMap (playedName id .audio checked.timeline) []) before := by
    simpa using filled
  rcases run_mapM_of_ok (extract_fills delivers canHold settings deeds names) begins with
    ⟨after, ran, afterFilled⟩
  have given : ((withOrdinals id checked.mainClips).map
      (extractionOf id .audio checked.timeline workspace settings)).filterMap id =
        extractions id .audio checked.mainClips checked.timeline workspace settings := by
    rw [List.filterMap_map]
    rfl
  refine ⟨after, ?_, afterFilled⟩
  rw [← map_output_extractions .audio checked.timeline workspace settings, ← given]
  exact run_bind_of_ok ran _

end Montage
