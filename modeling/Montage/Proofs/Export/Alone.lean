import Montage.Proofs.Export.CallPlan
import Montage.Proofs.Export.Lockstep

/-! An export of one clip alone, whether or not its picture is left. -/

namespace Montage

variable {τ : Type} [Quantity τ] {observer : Observer} {settings : Settings}

/-! ## Its steps -/

variable {clip : Clip τ} {window : Window τ} {workspace : Workspace} {place : Place}
  {before after : Session} {checked : CheckedTimeline τ}

theorem extractAll_single {item : Type} (clipOf : item → Clip τ) (given : item)
    (timeline : Timeline τ) (workspace : Workspace) (settings : Settings) :
    extractAll clipOf [given] timeline workspace settings = (do
      let extraction ← extract (clipOf given) .video timeline workspace settings (0 : Nat)
      return (extraction.map (assetOf given)).toList) := by
  have listed (extraction : Option (Extraction τ)) :
      [extraction.map (assetOf given)].filterMap id = (extraction.map (assetOf given)).toList := by
    cases extraction <;> rfl
  have one : extractionJobs clipOf [given] timeline workspace settings = [do
      let extraction ← extract (clipOf given) .video timeline workspace settings (0 : Nat)
      return extraction.map (assetOf given)] := rfl
  rw [extractAll, one, runJobs, List.length_singleton,
    if_pos (show min settings.workers ((1 : Nat) : Int) ≤ 1 by omega)]
  simp only [runInTurn, List.mapM_cons, List.mapM_nil, bind_assoc, pure_bind, listed]

theorem extractAll_nil {item : Type} (clipOf : item → Clip τ) (timeline : Timeline τ)
    (workspace : Workspace) (settings : Settings) :
    extractAll clipOf [] timeline workspace settings = pure [] := by
  have none : extractionJobs clipOf [] timeline workspace settings = [] := rfl
  rw [extractAll, none, runJobs, List.length_nil,
    if_pos (show min settings.workers ((0 : Nat) : Int) ≤ 1 by omega)]
  simp only [runInTurn, List.mapM_nil, pure_bind, List.filterMap_nil]

theorem assembleSound_single (alone : checked.mainClips = [clip]) (workspace : Workspace)
    (settings : Settings) :
    assembleSound checked workspace settings = (do
      let extraction ← extract clip .audio checked.timeline workspace settings (0 : Nat)
      joinSound (extraction.toList.map Extraction.output) workspace) := by
  have listed (extraction : Option (Extraction τ)) :
      [extraction].filterMap id = extraction.toList := by
    cases extraction <;> rfl
  have one : [clip].zip (trackOrdinals ([clip].map Clip.track)) = [(clip, 0)] := rfl
  simp only [assembleSound, extractSound, alone, one, List.mapM_cons, List.mapM_nil, bind_assoc,
    pure_bind, listed]

/-- The plan of one clip alone. -/
theorem arrangePlan_eq_alone (observer : Observer) (settings : Settings)
    (alone : checked.mainClips = [clip]) (noLayers : checked.layers = []) (workspace : Workspace) :
    arrangePlan observer settings checked workspace = (do
      enterStage observer .preprocessing
      let picture ← extract clip .video checked.timeline workspace settings (0 : Nat)
      enterStage observer .audioAssembling
      let audio ← assembleSound checked workspace settings
      planRest observer settings checked (picture.map (assetOf clip)).toList [] audio) := by
  simp only [arrangePlan, withAssets, extractMain, extractLayers, alone, noLayers,
    extractAll_single, extractAll_nil, bind_assoc, pure_bind, id_eq]

variable [LawfulQuantity τ]

/-- An extraction that ends well, whether or not it leaves its file. -/
theorem extract_of_exit (plays : clip.window? checked.timeline = some window) (stream : Stream)
    (stands : workspace.Stands before.host place) {ordinal : Nat}
    (canHold : workspace.CanHold (assetName stream clip.track ordinal))
    (notCancelled : before.runner.cancelled = false) {exit : Exit} (ended : exit.returnCode = 0)
    (exits : ∀ command, before.host.script before.host.calls.length command =
      .starts (.exits exit)) (settings : Settings) :
    let extraction := clip.extractionIn stream checked.timeline workspace ordinal settings window
    let file := place ++ [assetName stream clip.track ordinal]
    ∃ after, extract clip stream checked.timeline workspace settings ordinal before =
        (.ok (some extraction), after) ∧ before.SameWorld after ∧
      workspace.Stands after.host place ∧
      after.host.calls = before.host.calls ++ [before.runner.binary :: extraction.arguments] ∧
      after.host.tree =
        if exit.leavesFile then before.host.tree.put file (.file "media")
        else before.host.tree := by
  intro extraction file
  rcases runTool_of_course extraction.arguments (some stream.stage.name) notCancelled (exits _)
    with ⟨after, ran, comes⟩
  have answers : (Course.exits exit).answer before.runner.timeout (some stream.stage.name) =
      .ok exit.stdout := by
    simp [Course.answer, exitResult, ended]
  rw [answers] at ran
  have world : before.SameWorld after :=
    ⟨comes.script, comes.workingPlace, comes.binary, comes.cancelled.trans notCancelled.symm⟩
  have last : (before.runner.binary :: extraction.arguments).getLastD "" =
      (workspace.file (assetName stream clip.track ordinal)).text := by
    have given : extraction.arguments.getLast? =
        some (workspace.file (assetName stream clip.track ordinal)).text :=
      clip.getLast?_extractionIn stream checked.timeline workspace ordinal settings window
    rw [List.getLastD_cons, List.getLastD_eq_getLast?, given, Option.getD_some]
  have tree : after.host.tree =
      if exit.leavesFile then before.host.tree.put file (.file "media")
      else before.host.tree := by
    rw [comes.tree, last, stands.ofText_file,
      FileTree.leaving_of_write (stands.write canHold "media")]
    rfl
  refine ⟨after, ?_, world, ?_, comes.calls, tree⟩
  · rw [extract_of_plays plays (Clip.isNameable_of_canHold canHold)]
    exact run_bind_of_ok ran _
  · cases leaves : exit.leavesFile with
    | false => exact stands.of_sameWorld world (tree.trans (by rw [leaves]; rfl))
    | true => exact stands.put_file world (tree.trans (by rw [leaves]; rfl))

/-- The sound of one clip alone. Nothing else in the workspace changes. -/
theorem assembleSound_alone (alone : checked.mainClips = [clip])
    (plays : clip.window? checked.timeline = some window)
    (stands : workspace.Stands before.host place)
    (canHold : workspace.CanHold (assetName .audio clip.track 0))
    (canHoldSound : workspace.CanHold "audio.m4a")
    (notCancelled : before.runner.cancelled = false) {exit : Exit} (ended : exit.returnCode = 0)
    (leaves : exit.leavesFile = true)
    (exits : ∀ command, before.host.script before.host.calls.length command =
      .starts (.exits exit)) (settings : Settings) :
    ∃ after, assembleSound checked workspace settings before =
        (.ok (workspace.file "audio.m4a"), after) ∧ before.SameWorld after ∧
      workspace.Stands after.host place ∧
      after.host.calls.length = before.host.calls.length + 1 ∧
      ∀ name, name ≠ assetName .audio clip.track 0 → name ≠ "audio.m4a" →
        after.host.tree.get? (place ++ [name]) = before.host.tree.get? (place ++ [name]) := by
  rcases extract_of_exit plays .audio stands canHold notCancelled ended exits settings with
    ⟨extracted, ranExtract, extracting, extractedStands, extractedCalls, extractedTree⟩
  rw [if_pos leaves] at extractedTree
  have stored : extracted.host.tree.get? (place ++ [assetName .audio clip.track 0]) =
      some (.file "media") := by
    rw [extractedTree, FileTree.get?_put _ _ _ _ (by simp), if_pos rfl]
  rcases run_copyFile (extractedStands.read canHold stored)
    (extractedStands.write canHoldSound "media") with
    ⟨copied, ranCopy, copying, copiedCalls, copiedTree⟩
  let joined := copied.updateHost (·.writeLog .debug "audio"
    ("Single audio segment copied to " ++ (workspace.file "audio.m4a").text))
  refine ⟨joined, ?_, (extracting.trans copying).trans ⟨rfl, rfl, rfl, rfl⟩, ?_, ?_, ?_⟩
  · have part : (clip.extractionIn .audio checked.timeline workspace (0 : Nat) settings
        window).output = workspace.file (assetName .audio clip.track 0) := by
      simp only [Clip.extractionIn, Workspace.assetPath_eq]
    rw [assembleSound_single alone, run_bind_of_ok ranExtract, Option.toList_some,
      List.map_singleton, part]
    exact run_bind_of_ok ranCopy _
  · exact (extractedStands.put_file copying copiedTree).of_sameWorld ⟨rfl, rfl, rfl, rfl⟩ rfl
  · rw [show joined.host.calls = extracted.host.calls from copiedCalls, extractedCalls,
      List.length_append, List.length_singleton]
  · intro name notPart notSound
    rw [show joined.host.tree = _ from copiedTree, FileTree.get?_put _ _ _ _ (by simp),
      if_neg (by simpa using notSound), extractedTree, FileTree.get?_put _ _ _ _ (by simp),
      if_neg (by simpa using notPart)]

/-- One clip alone, whose picture and sound are extracted well. Its plan does not depend on
whether the picture was left. -/
theorem arrangePlan_alone (watches : observer.OnlyWatches) (alone : checked.mainClips = [clip])
    (noLayers : checked.layers = []) (plays : clip.window? checked.timeline = some window)
    (nonneg : 0 ≤ clip.track.number)
    {canvas : Int × Int} (canvasRead : twoIntegers settings.canvas = .ok canvas)
    (canvasFew : HaveFewDigits canvas) (rate : settings.fps.isWritable = true)
    (stands : workspace.Stands before.host place)
    (canHold : ∀ stream, workspace.CanHold (assetName stream clip.track 0))
    (canHoldSound : workspace.CanHold "audio.m4a")
    (notCancelled : before.runner.cancelled = false) {picture sound : Exit}
    (pictureEnds : picture.returnCode = 0) (soundEnds : sound.returnCode = 0)
    (soundLeaves : sound.leavesFile = true)
    (first : ∀ command, before.host.script before.host.calls.length command =
      .starts (.exits picture))
    (second : ∀ command, before.host.script (before.host.calls.length + 1) command =
      .starts (.exits sound)) :
    let video := place ++ [assetName .video clip.track 0]
    ∃ planned after, arrangePlan observer settings checked workspace before =
        (.ok planned, after) ∧ before.SameWorld after ∧ workspace.Stands after.host place ∧
      after.host.calls.length = before.host.calls.length + 2 ∧
      after.host.tree.get? video =
        if picture.leavesFile then some (.file "media") else before.host.tree.get? video := by
  intro video
  rcases enterStage_did watches .preprocessing before with ⟨entered, ranEnter, entering⟩
  have enteredCalls : entered.host.calls = before.host.calls := by
    rw [entering.calls]
    exact List.append_nil _
  rcases extract_of_exit plays .video (stands.of_sameWorld entering.world entering.sameTree)
    (canHold .video) (entering.world.cancelled.trans notCancelled) pictureEnds
    (by rw [entering.world.script, enteredCalls]; exact first) settings with
    ⟨pictured, ranPicture, picturing, picturedStands, picturedCalls, picturedTree⟩
  rcases enterStage_did watches .audioAssembling pictured with
    ⟨assembling, ranAssembling, assemblingDid⟩
  have world := (entering.world.trans picturing).trans assemblingDid.world
  have assemblingCalls : assembling.host.calls.length = before.host.calls.length + 1 := by
    rw [assemblingDid.calls, picturedCalls, enteredCalls]
    simp [argumentsOf]
  rcases assembleSound_alone alone plays
    (picturedStands.of_sameWorld assemblingDid.world assemblingDid.sameTree) (canHold .audio)
    canHoldSound (world.cancelled.trans notCancelled) soundEnds soundLeaves
    (by rw [world.script, assemblingCalls]; exact second) settings with
    ⟨sounded, ranSound, sounding, soundedStands, soundedCalls, kept⟩
  let extraction := clip.extractionIn .video checked.timeline workspace (0 : Nat) settings window
  have readable : ∀ asset ∈ ([] : List (Asset (Layer τ) τ)), asset.item.overlay.IsReadable :=
    List.forall_mem_nil _
  rcases exists_plan checked canvasRead [assetOf clip extraction] readable
    ⟨canvasFew, fun _ => rate, List.forall_mem_nil _⟩ (workspace.file "audio.m4a").text with
    ⟨plan, planned, -, draws⟩
  obtain ⟨text, rendered⟩ : ∃ text, renderGraph plan.nodes = .ok text :=
    ⟨_, renderGraph_of_writable draws.finished.writable⟩
  rcases planRest_did watches planned rendered sounded with ⟨after, ranRest, resting⟩
  refine ⟨(plan, text), after, ?_, (world.trans sounding).trans resting.world,
    soundedStands.of_sameWorld resting.world resting.sameTree, ?_, ?_⟩
  · rw [arrangePlan_eq_alone observer settings alone noLayers, run_bind_of_ok ranEnter,
      run_bind_of_ok ranPicture, run_bind_of_ok ranAssembling, run_bind_of_ok ranSound]
    exact ranRest
  · rw [resting.calls, List.length_append, soundedCalls, assemblingCalls]
    rfl
  · rw [resting.sameTree, kept, assemblingDid.sameTree, picturedTree, entering.sameTree]
    · split
      · exact (FileTree.get?_put _ _ _ _ (by simp)).trans (if_pos rfl)
      · rfl
    · intro same
      cases (assetName_injective nonneg nonneg same).1
    · intro same
      exact assetName_not_mem_soundNames .video clip.track 0 (by rw [same]; decide)

/-! ## The last steps -/

theorem lastSteps_of_file {output : String} {place : Place} {content : String} {before : Session}
    (located : before.host.tree.locate before.host.workingPlace (Path.ofText output).parent =
      .ok place)
    (there : before.host.tree.get? place = some (.file content))
    (written : Except Misfit (List String)) :
    lastSteps output written before = (.error (.file .alreadyExists), before) := by
  have making := FileTree.makeDirectories_of_file located there
    (Path.ofText output).parent.parts.length
  exact run_bind_of_error ((makeOutputDirectory_run output before).trans (by rw [making]; rfl)) _

theorem lastSteps_of_nothing {output : String} {place : Place} {before : Session}
    (located : before.host.tree.locate before.host.workingPlace (Path.ofText output).parent =
      .ok place)
    (nothing : before.host.tree.get? place = none) (arguments : List String) :
    lastSteps output (.ok arguments) before =
      compose arguments (before.withTree (before.host.tree.put place .directory)) := by
  have making := FileTree.makeDirectories_of_nothing located nothing
    (Path.ofText output).parent.parts.length
  exact run_bind_of_ok ((makeOutputDirectory_run output before).trans (by rw [making]; rfl)) _

theorem compose_of_failing {before : Session} {arguments : List String} {exit : Exit}
    (notCancelled : before.runner.cancelled = false) (fails : exit.returnCode ≠ 0)
    (exits : ∀ command, before.host.script before.host.calls.length command =
      .starts (.exits exit)) :
    ∃ failure after, compose arguments before = (.error (.failure failure), after) ∧
      after.host.calls = before.host.calls ++ [before.runner.binary :: arguments] := by
  rcases runTool_of_course arguments (some Stage.composing.name) notCancelled (exits _) with
    ⟨after, ran, comes⟩
  obtain ⟨failure, answers⟩ : ∃ failure, (Course.exits exit).answer before.runner.timeout
      (some Stage.composing.name) = .error (.failure failure) := by
    simp [Course.answer, exitResult, fails]
  rw [answers] at ran
  exact ⟨failure, after, run_bind_of_error ran _, comes.calls⟩

/-! ## A sample -/

def Timeline.alone : Timeline Float :=
  .ofClips [.ofTrim "first.mp4" 0.0 2.0]

theorem Timeline.alone_passes : alone.check = .ok alone.sorted :=
  check_eq_of_isSome (by decide +kernel)

theorem Timeline.alone_mainClips : alone.sorted.mainClips = [.ofTrim "first.mp4" 0.0 2.0] :=
  mainClips_singleton rfl

theorem Timeline.alone_layers : alone.sorted.layers = [] := by
  have none : alone.clips.filter (!·.track.isMain) = [] := rfl
  rw [sorted, overlayClips, none, List.mergeSort_nil, List.map_nil]

theorem Timeline.alone_plays :
    ∃ window, (Clip.ofTrim "first.mp4" 0.0 2.0).window? alone = some window :=
  Option.isSome_iff_exists.mp (by decide +kernel)

theorem Workspace.sample_fits {name : String}
    (member : name ∈ ["audio.m4a", assetName .video (.numbered 0) 0,
      assetName .audio (.numbered 0) 0]) : FileTree.Fits (sample.file name) := by
  have short : ∀ name ∈ ["audio.m4a", assetName .video (.numbered 0) 0,
      assetName .audio (.numbered 0) 0],
      let path := sample.file name
      path.text.utf8ByteSize ≤ FileTree.longestPath ∧
        ∀ part ∈ path.parts, part.utf8ByteSize ≤ FileTree.longestName := by
    decide +kernel
  exact ⟨(short name member).1, (short name member).2⟩

theorem Workspace.sample_canHold_sound : sample.CanHold "audio.m4a" where
  isFileName := isFileName_of_mem_soundNames (by decide)
  fits := sample_fits List.mem_cons_self

theorem Workspace.sample_canHold_first (stream : Stream) :
    sample.CanHold (assetName stream (.numbered 0) 0) where
  isFileName :=
    isFileName_assetName stream (show 0 ≤ (Track.numbered 0).number from Int.le_refl 0) 0
  fits := sample_fits (by cases stream <;> simp)

theorem Workspace.sample_acquired_again (script : Nat → Command → Outcome) :
    ∃ after, acquire (some "export0") none { Host.sample with script } = (.ok sample, after) ∧
      after.tree = Host.sample.tree.put ["tmp", "cliptrack-export0"] .directory := by
  have chosen : Host.chooseId { Host.sample with script } (some "export0") =
      ("export0", { Host.sample with script }) := by
    rw [Host.chooseId, if_neg (by decide +kernel)]
  rw [acquire, chosen]
  exact sample_make { Host.sample with script } rfl rfl rfl

/-- There is nothing in the sample yet. -/
theorem Workspace.sample_empty (place : Place) {name : String}
    (other : name ∉ ["tmp", "cliptrack-export0"]) :
    (Host.sample.tree.put ["tmp", "cliptrack-export0"] .directory).get? (place ++ [name]) =
      none := by
  have notHere (above : Place) {taken : String} (member : taken ∈ ["tmp", "cliptrack-export0"]) :
      place ++ [name] ≠ above ++ [taken] := by
    intro same
    have last : name = taken := by simpa using congrArg List.getLast? same
    exact other (last ▸ member)
  have temporary : (place ++ [name] == ["tmp"]) = false :=
    beq_false_of_ne (notHere [] (by decide))
  have whole : place ++ [name] ≠ ["tmp", "cliptrack-export0"] := notHere ["tmp"] (by decide)
  rw [FileTree.get?_put _ _ _ _ (by decide), if_neg whole]
  simp [Host.sample, FileTree.get?, List.lookup_cons, temporary]

theorem Workspace.sample_empty_asset (place : Place) (stream : Stream) (track : Track)
    (ordinal : Nat) : (Host.sample.tree.put ["tmp", "cliptrack-export0"] .directory).get?
      (place ++ [assetName stream track ordinal]) = none := by
  have point : '.' ∈ (assetName stream track ordinal).toList := by
    rw [assetName_toList]
    simp
  refine sample_empty place fun member => ?_
  rcases List.mem_pair.mp member with same | same
  · rw [same] at point
    exact absurd point (by decide)
  · rw [same] at point
    exact absurd point (by decide)

/-- The directory of the output would be the picture of the clip. -/
def outputInPicture : String :=
  "/tmp/cliptrack-export0/video-t0-000.mp4/out.mp4"

theorem parent_outputInPicture : (Path.ofText outputInPicture).parent =
    Workspace.sample.file (assetName .video (.numbered 0) 0) := by
  decide +kernel

/-- One clip in the sample workspace, up to the directory of the output. Something is there
exactly when the picture was left. -/
theorem exportWork_alone (script : Nat → Command → Outcome) {picture : Exit}
    (first : ∀ command, script 0 command = .starts (.exits picture))
    (ended : picture.returnCode = 0)
    (second : ∀ command, script 1 command = .starts (.exits { leavesFile := true })) :
    ∃ arguments after place,
      exportWork {} {} Timeline.alone outputInPicture (some "export0")
          (Session.sample.withScript script) = lastSteps outputInPicture (.ok arguments) after ∧
      (Session.sample.withScript script).SameWorld after ∧ after.host.calls.length = 2 ∧
      after.host.tree.locate after.host.workingPlace (Path.ofText outputInPicture).parent =
        .ok place ∧
      after.host.tree.get? place = if picture.leavesFile then some (.file "media") else none := by
  have watches := Observer.default_onlyWatches
  have canvasRead : twoIntegers ({} : Settings).canvas = .ok (1920, 1080) :=
    twoIntegers_pairOf 1920 1080
  have canvasFew : HaveFewDigits (1920, 1080) := by decide +kernel
  have rate : ({} : Settings).fps.isWritable = true := by decide +kernel
  rcases Workspace.sample_acquired_again script with ⟨made, acquired, madeTree⟩
  have inSample : (Workspace.acquire (some "export0") ({} : Settings).workspaceRoot
      (Session.sample.withScript script).host).1 = .ok Workspace.sample :=
    congrArg Prod.fst acquired
  rcases exportWork_prepared (Session.sample.withScript script) watches Timeline.alone_passes
    Host.sample_isGrounded inSample outputInPicture with ⟨prepared, place, worked, stands, same⟩
  have acquiring := Workspace.acquire_sameWorld (some "export0") none
    (Session.sample.withScript script).host
  have world : (Session.sample.withScript script).SameWorld prepared :=
    ⟨same.world.script.trans acquiring.script,
      same.world.workingPlace.trans acquiring.workingPlace, same.world.binary,
      same.world.cancelled⟩
  have calls : prepared.host.calls = [] :=
    same.calls.trans ((List.append_nil _).trans acquiring.calls)
  have fresh : prepared.host.tree =
      Host.sample.tree.put ["tmp", "cliptrack-export0"] .directory :=
    same.sameTree.trans ((congrArg (·.2.tree) acquired).trans madeTree)
  rcases Timeline.alone_plays with ⟨window, plays⟩
  rcases arrangePlan_alone watches Timeline.alone_mainClips Timeline.alone_layers plays
    (Int.le_refl 0) canvasRead canvasFew rate stands Workspace.sample_canHold_first
    Workspace.sample_canHold_sound world.cancelled ended rfl rfl
    (by rw [world.script, calls]; exact first) (by rw [world.script, calls]; exact second) with
    ⟨⟨plan, text⟩, after, ran, arranging, afterStands, afterCalls, left⟩
  rw [fresh, Workspace.sample_empty_asset] at left
  refine ⟨plan.inputArguments ++ behindInputs plan text outputInPicture {}, after, _, ?_,
    world.trans arranging, ?_, ?_, left⟩
  · rw [worked, produce_eq, run_bind_of_ok ran]
    dsimp only
    rw [compositionArguments_of_rate rate]
  · rw [afterCalls, calls]
    rfl
  · have canHold := Workspace.sample_canHold_first .video
    rw [parent_outputInPicture]
    exact afterStands.folder.locate_child afterStands.normal afterStands.below canHold.isFileName
      canHold.fits

end Montage
