import Montage.Proofs.Export.Filling

/-! The sound of an export: a single part is copied, several are listed and joined, and each
part that is taken is one that was left in the workspace. -/

namespace Montage

/-! ## Lengths of names -/

theorem Track.length_literal_pos {track : Track} (nonneg : 0 ≤ track.number) :
    0 < track.literal.toList.length := by
  cases track with
  | numbered number =>
      change 0 ≤ number at nonneg
      rw [literal_numbered, integerText_toList_of_nonneg nonneg]
      exact Nat.length_toDigits_pos
  | truth value =>
      rw [literal_truth]
      cases value <;> decide

theorem utf8ByteSize_soundName_le {name : String} (member : name ∈ soundNames) (stream : Stream)
    {track : Track} (nonneg : 0 ≤ track.number) (ordinal : Nat) :
    name.utf8ByteSize ≤ (assetName stream track ordinal).utf8ByteSize := by
  have short : name.utf8ByteSize ≤ 16 :=
    (by decide : ∀ name ∈ soundNames, name.utf8ByteSize ≤ 16) name member
  have streamName : stream.name.toList.length = 5 := by cases stream <;> decide
  have format : stream.format.toList.length = 3 := by cases stream <;> decide
  have literal := Track.length_literal_pos nonneg
  have digits := length_paddedDigits 3 ordinal
  apply Nat.le_trans short
  apply Nat.le_trans _ (length_le_utf8ByteSize _)
  simp only [assetName_toList, List.length_append, List.length_cons, streamName, format]
  omega

theorem Workspace.Stands.fits_of_le {workspace : Workspace} {host : Host} {place : Place}
    (stands : workspace.Stands host place) {name other : String} (isName : Path.IsName name)
    (otherIsName : Path.IsName other) (fits : FileTree.Fits (workspace.file name))
    (shorter : other.utf8ByteSize ≤ name.utf8ByteSize) :
    FileTree.Fits (workspace.file other) := by
  have text := fits.text
  have names := fits.names
  unfold file at text names ⊢
  rw [stands.normal.text_child stands.below isName, String.utf8ByteSize_append] at text
  rw [Path.child_of_isName _ isName] at names
  constructor
  · rw [stands.normal.text_child stands.below otherIsName, String.utf8ByteSize_append]
    omega
  · rw [Path.child_of_isName _ otherIsName]
    intro part member
    rcases List.mem_append.mp member with member | member
    · exact names part (List.mem_append_left _ member)
    · rw [List.mem_singleton.mp member]
      exact Nat.le_trans shorter (names name (List.mem_append_right _ List.mem_cons_self))

/-! ## Files as steps -/

variable {before : Session}

theorem run_writeFile {path : Path} {content : String} {tree : FileTree}
    (written : before.host.tree.write before.host.workingPlace path content = .ok tree) :
    ∃ after, Act.writeFile path content before = (.ok (), after) ∧ before.SameWorld after ∧
      after.host.calls = before.host.calls ∧ after.host.tree = tree := by
  refine ⟨before.updateHost fun host => { host with tree }, ?_, ⟨rfl, rfl, rfl, rfl⟩, rfl, rfl⟩
  unfold Act.writeFile
  rw [run_getThe]
  simp only [written]
  rfl

theorem run_copyFile {source target : Path} {content : String} {tree : FileTree}
    (there : before.host.tree.read before.host.workingPlace source = .ok content)
    (written : before.host.tree.write before.host.workingPlace target content = .ok tree) :
    ∃ after, Act.copyFile source target before = (.ok (), after) ∧ before.SameWorld after ∧
      after.host.calls = before.host.calls ∧ after.host.tree = tree := by
  rcases run_writeFile written with ⟨after, ran, same⟩
  refine ⟨after, ?_, same⟩
  unfold Act.copyFile
  rw [run_getThe]
  simp only [there]
  exact ran

/-! ## Joining -/

def soundDeeds (parts : List Path) (workspace : Workspace) : List Deed :=
  match parts with
  | [] => []
  | [part] => [.copy part (workspace.file "audio.m4a")]
  | parts => [
      .list parts (workspace.file "audio-concat.txt"),
      .join (joinArguments (workspace.file "audio-concat.txt") (workspace.file "audio.m4a"))]

def noSound : Failure where
  kind := .missingAudio
  message := "no audio track available"
  stage := some Stage.audioAssembling.name

theorem joinSound_nil (workspace : Workspace) :
    joinSound [] workspace before = (.error (.failure noSound), before) := rfl

variable {workspace : Workspace} {place : Place} {start : Session} {deeds : List Deed}
  {names : List String}

theorem joinSound_single (filled : Filled workspace place start deeds names before)
    {name : String} (stored : name ∈ names) (canHold : workspace.CanHold name)
    (canHoldSound : workspace.CanHold "audio.m4a") :
    ∃ after, joinSound [workspace.file name] workspace before =
        (.ok (workspace.file "audio.m4a"), after) ∧
      before.Did (soundDeeds [workspace.file name] workspace) after := by
  have there := filled.stands.read canHold (filled.stored name stored)
  have written := filled.stands.write canHoldSound "media"
  rcases run_copyFile there written with ⟨copied, ran, world, calls, tree⟩
  have did : before.Did (soundDeeds [workspace.file name] workspace) copied := by
    refine ⟨world, calls.trans (List.append_nil _).symm, ?_⟩
    rw [soundDeeds, effects_singleton, Deed.effect, there, tree]
    exact written
  exact ⟨_, run_bind_of_ok ran _, did.then_same (copied.did_writeLog _ _ _)⟩

theorem getLast?_joinArguments (listing output : Path) :
    (joinArguments listing output).getLast? = some output.text := rfl

theorem joinSound_several (delivers : before.Delivers)
    (stands : workspace.Stands before.host place) (first second : Path) (rest : List Path)
    (canHoldList : workspace.CanHold "audio-concat.txt")
    (canHoldSound : workspace.CanHold "audio.m4a") :
    ∃ after, joinSound (first :: second :: rest) workspace before =
        (.ok (workspace.file "audio.m4a"), after) ∧
      before.Did (soundDeeds (first :: second :: rest) workspace) after := by
  have written := stands.write canHoldList (before.host.listText (first :: second :: rest))
  rcases run_writeFile written with ⟨listed, ranList, world, calls, tree⟩
  have listDid : before.Did
      [.list (first :: second :: rest) (workspace.file "audio-concat.txt")] listed := by
    refine ⟨world, calls.trans (List.append_nil _).symm, ?_⟩
    rw [effects_singleton, Deed.effect, tree]
    exact written
  have logDid := listed.did_writeLog .debug "audio"
    s!"Concatenating {(first :: second :: rest).length} audio segments"
  have did := listDid.then_same logDid
  have stillStands := stands.put_file did.world tree
  rcases runTool_into (delivers.of_sameWorld did.world) stillStands canHoldSound
    (getLast?_joinArguments (workspace.file "audio-concat.txt") (workspace.file "audio.m4a"))
    (some Stage.audioAssembling.name) with
    ⟨stdout, after, ran, joinWorld, joinCalls, lastIs, joinTree⟩
  refine ⟨after, ?_, did.trans ⟨joinWorld, joinCalls, ?_⟩⟩
  · unfold joinSound
    dsimp only
    rw [run_getThe, run_bind_of_ok ranList, Act.run_writeLog, run_bind_of_ok ran]
    rfl
  · rw [effects_singleton, Deed.effect, lastIs, joinTree]
    exact stillStands.write canHoldSound "media"

theorem joinSound_of_ne_nil (delivers : before.Delivers)
    (filled : Filled workspace place start deeds names before) {sounds : List String}
    (someSound : sounds ≠ []) (stored : ∀ name ∈ sounds, name ∈ names)
    (canHold : ∀ name ∈ sounds, workspace.CanHold name)
    (canHoldSound : ∀ name ∈ soundNames, workspace.CanHold name) :
    ∃ after, joinSound (sounds.map workspace.file) workspace before =
        (.ok (workspace.file "audio.m4a"), after) ∧
      before.Did (soundDeeds (sounds.map workspace.file) workspace) after := by
  have canHoldList := canHoldSound "audio-concat.txt" (by decide)
  have canHoldJoined := canHoldSound "audio.m4a" (by decide)
  match sounds with
  | [] => exact absurd rfl someSound
  | [name] =>
      exact joinSound_single filled (stored name List.mem_cons_self)
        (canHold name List.mem_cons_self) canHoldJoined
  | first :: second :: rest =>
      exact joinSound_several delivers filled.stands (workspace.file first)
        (workspace.file second) (rest.map workspace.file) canHoldList canHoldJoined

end Montage
