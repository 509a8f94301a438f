import Montage.Proofs.Export.Closing
import Montage.Proofs.Export.Instruction
import Montage.Proofs.Export.SoundList

/-! The calls of an export in their order, and the way of its files from one to the next, as the
arguments of the calls and the text of the list tell of them. -/

namespace Montage

/-! ## What is read -/

/-- The files that a deed reads of those that were made before, by their absolute paths. A list
reads what its text names. Sources come from elsewhere. -/
def Deed.reads (host : Host) : Deed → List String
  | .copy source _ => host.resolvedTexts [source]
  | .list parts _ => (readSoundList (host.listText parts)).getD []
  | .join arguments | .compose arguments => host.resolvedTexts (filesOf arguments)
  | .extract _ | .makeDirectory _ => []

/-- Every deed reads only files that are there already or that one before it has written. -/
def ReadsWritten (host : Host) : (written : List Path) → List Deed → Prop
  | _, [] => True
  | written, deed :: rest => deed.reads host ⊆ host.resolvedTexts written ∧
      ReadsWritten host (written ++ deed.written?.toList) rest

variable {host : Host} {workspace : Workspace} {place : Place}

theorem Host.resolvedTexts_subset {paths others : List Path} (among : paths ⊆ others) :
    host.resolvedTexts paths ⊆ host.resolvedTexts others :=
  List.map_subset _ among

theorem readsWritten_append {first second : List Deed} :
    ∀ {written : List Path}, ReadsWritten host written first →
      ReadsWritten host (written ++ writtenBy first) second →
        ReadsWritten host written (first ++ second) := by
  induction first with
  | nil =>
      intro written _ later
      simpa [writtenBy] using later
  | cons deed rest induction =>
      intro written early later
      refine ⟨early.1, induction early.2 ?_⟩
      have same : writtenBy (deed :: rest) = deed.written?.toList ++ writtenBy rest := by
        unfold writtenBy
        rw [List.filterMap_cons]
        cases deed.written? <;> rfl
      rwa [same, ← List.append_assoc] at later

theorem readsWritten_extractions {τ : Type} (given : List (Extraction τ)) :
    ∀ written : List Path, ReadsWritten host written (given.map .ofExtraction) := by
  induction given with
  | nil => exact fun _ => trivial
  | cons extraction rest induction =>
      exact fun written => ⟨List.nil_subset _, induction _⟩

theorem filesOf_joinArguments (stands : workspace.Stands host place) (name : String)
    (output : Path) : filesOf (joinArguments (workspace.file name) output) =
      [workspace.file name] := by
  rw [filesOf_of_read (read_joinArguments ..), List.map_singleton, stands.ofText_file]

theorem readsWritten_soundDeeds {other : Host} (stands : workspace.Stands other place)
    {parts written : List Path} (given : parts ⊆ written) :
    ReadsWritten host written (soundDeeds parts workspace) := by
  match parts with
  | [] => exact trivial
  | [part] => exact ⟨Host.resolvedTexts_subset given, trivial⟩
  | first :: second :: rest =>
      refine ⟨?_, ?_, trivial⟩
      · rw [Deed.reads]
        cases names : readSoundList (host.listText (first :: second :: rest)) with
        | none => exact List.nil_subset _
        | some named =>
            rw [eq_resolvedTexts_of_readSoundList (List.cons_ne_nil _ _) names]
            exact Host.resolvedTexts_subset given
      · rw [Deed.reads, filesOf_joinArguments stands]
        exact Host.resolvedTexts_subset (List.subset_append_of_subset_right _
          (List.Subset.refl _))

/-! ## Tasks -/

variable {τ : Type} [Quantity τ] {item : Type}

def cuttingTasks (clipOf : item → Clip τ) (stream : Stream) (items : List item)
    (timeline : Timeline τ) (workspace : Workspace) : List Task :=
  (withOrdinals clipOf items).filterMap fun counted =>
    ((clipOf counted.1).window? timeline).map fun _ =>
      ⟨.cut stream, [(clipOf counted.1).source],
        (workspace.file (countedName clipOf stream counted)).text⟩

def soundtrackTasks (checked : CheckedTimeline τ) (workspace : Workspace) : List Task :=
  cuttingTasks id .video checked.mainClips checked.timeline workspace ++
    cuttingTasks Layer.clip .video checked.layers checked.timeline workspace ++
    cuttingTasks id .audio checked.mainClips checked.timeline workspace ++
    if 2 ≤ (soundParts checked workspace).length then
      [⟨.join, [(workspace.file "audio-concat.txt").text], (workspace.file "audio.m4a").text⟩]
    else []

def videoTask (checked : CheckedTimeline τ) (workspace : Workspace) (output : String) : Task where
  purpose := .compose
  files := (survivors id checked.mainClips checked.timeline workspace).map Asset.path ++
    (survivors Layer.clip checked.layers checked.timeline workspace).map Asset.path ++
    [(workspace.file "audio.m4a").text]
  output

variable {checked : CheckedTimeline τ} {timeline : Timeline τ} {settings : Settings}

omit [Quantity τ] in
theorem argumentsOf_map_ofExtraction (given : List (Extraction τ)) :
    argumentsOf (given.map .ofExtraction) = given.map Extraction.arguments := by
  rw [argumentsOf, List.filterMap_map, ← List.filterMap_eq_map]
  rfl

theorem map_read_extractions (clipOf : item → Clip τ) (stream : Stream) (items : List item)
    (timeline : Timeline τ) (workspace : Workspace) (settings : Settings) :
    (argumentsOf ((extractions clipOf stream items timeline workspace settings).map
      .ofExtraction)).map Task.read =
        (cuttingTasks clipOf stream items timeline workspace).map some := by
  rw [argumentsOf_map_ofExtraction, extractions, cuttingTasks, List.map_map, List.map_filterMap,
    List.map_filterMap]
  apply List.filterMap_congr
  intro counted _
  simp only [extractionOf, Option.map_map]
  congr 1
  funext window
  simp only [Function.comp_apply, Clip.extractionIn, read_trimArguments, Workspace.assetPath_eq,
    countedName]

omit [Quantity τ] in
theorem map_read_soundDeeds (parts : List Path) (workspace : Workspace) :
    (argumentsOf (soundDeeds parts workspace)).map Task.read =
      (if 2 ≤ parts.length then
        [(⟨.join, [(workspace.file "audio-concat.txt").text],
          (workspace.file "audio.m4a").text⟩ : Task)] else []).map some := by
  match parts with
  | [] | [_] => rfl
  | first :: second :: rest =>
      have several : 2 ≤ (first :: second :: rest).length := Nat.le_add_left 2 rest.length
      rw [if_pos several]
      exact congrArg (fun task => [task]) (read_joinArguments _ _)

theorem map_read_soundtrackDeeds (checked : CheckedTimeline τ) (workspace : Workspace)
    (settings : Settings) :
    (argumentsOf (soundtrackDeeds checked workspace settings)).map Task.read =
      (soundtrackTasks checked workspace).map some := by
  simp only [soundtrackDeeds, exportExtractions, soundtrackTasks, List.map_append,
    argumentsOf_append, map_read_extractions, map_read_soundDeeds]

theorem cuttingTasks_eq_nil (clipOf : item → Clip τ) (stream : Stream) {items : List item}
    (silent : survivors clipOf items timeline workspace = []) :
    cuttingTasks clipOf stream items timeline workspace = [] := by
  simpa [survivors, cuttingTasks, List.filterMap_eq_nil_iff] using silent

/-! ## The sound -/

variable {exportId : Option String} {before start gathered : Session} {deeds : List Deed}
  {observer : Observer} {canvas : Int × Int}

/-- All that is done up to the sound: which calls are issued, and which files are written and
read. Each is written once, inside the workspace, and before it is read. -/
structure GathersSound (checked : CheckedTimeline τ) (workspace : Workspace) (start : Session)
    (deeds : List Deed) (gathered : Session) : Prop where
  did : start.Did deeds gathered
  told : (argumentsOf deeds).map Task.read = (soundtrackTasks checked workspace).map some
  distinct : ((writtenBy deeds).map start.host.resolve).Nodup
  inside : ∀ path ∈ writtenBy deeds, path.parent = workspace.path
  fed : ReadsWritten start.host [] deeds
  listed : ∀ parts output, .list parts output ∈ deeds →
    (∀ part ∈ parts, '\n' ∉ (start.host.resolve part).text.toList) →
      readSoundList (start.host.listText parts) =
        some (start.host.resolvedTexts (soundParts checked workspace))
  copied : ∀ source target, .copy source target ∈ deeds →
    soundParts checked workspace = [source] ∧ target = workspace.file "audio.m4a"

theorem list_mem_soundtrackDeeds {parts : List Path} {output : Path}
    (member : .list parts output ∈ soundtrackDeeds checked workspace settings) :
    parts = soundParts checked workspace ∧ parts ≠ [] := by
  rcases List.mem_append.mp member with member | member
  · rcases List.mem_map.mp member with ⟨_, _, extracts⟩
    cases extracts
  · unfold soundDeeds at member
    split at member
    · cases member
    · cases List.mem_singleton.mp member
    · rename_i severalParts _ _
      rcases List.mem_pair.mp member with same | same
      · cases same
        exact ⟨rfl, by assumption⟩
      · cases same

theorem copy_mem_soundtrackDeeds {source target : Path}
    (member : .copy source target ∈ soundtrackDeeds checked workspace settings) :
    soundParts checked workspace = [source] ∧ target = workspace.file "audio.m4a" := by
  rcases List.mem_append.mp member with member | member
  · rcases List.mem_map.mp member with ⟨_, _, extracts⟩
    cases extracts
  · unfold soundDeeds at member
    split at member
    · cases member
    · rename_i part parts
      cases List.mem_singleton.mp member
      exact ⟨parts, rfl⟩
    · rcases List.mem_pair.mp member with same | same <;> cases same

theorem gathersSound_of_did (stands : workspace.Stands host place)
    (passed : timeline.check = .ok checked)
    (did : start.Did (soundtrackDeeds checked workspace settings) gathered) :
    GathersSound checked workspace start (soundtrackDeeds checked workspace settings) gathered where
  did := did
  told := map_read_soundtrackDeeds checked workspace settings
  distinct := nodup_writtenBy_soundtrackDeeds stands passed settings start.host.workingPlace
  inside path := parent_of_mem_writtenBy stands passed settings
  fed := by
    refine readsWritten_append (readsWritten_extractions _ [])
      (readsWritten_soundDeeds stands ?_)
    rw [List.nil_append, writtenBy_exportExtractions stands]
    exact List.map_subset _ (List.subset_append_right _ _)
  listed parts output member noLineFeed := by
    obtain ⟨rfl, nonempty⟩ := list_mem_soundtrackDeeds member
    exact (readSoundList_listText_iff start.host nonempty).mpr noLineFeed
  copied source target := copy_mem_soundtrackDeeds

/-! ## The video -/

theorem map_ofText_survivors (stands : workspace.Stands host place) (clipOf : item → Clip τ)
    (items : List item) (timeline : Timeline τ) :
    ((survivors clipOf items timeline workspace).map Asset.path).map Path.ofText =
      (assetNames clipOf .video items timeline).map workspace.file := by
  rw [map_path_survivors, List.map_map]
  exact List.map_congr_left fun name _ => stands.ofText_file name

/-- Of all that the video is composed of something was written before. -/
theorem videoTask_files_subset (stands : workspace.Stands host place)
    (someParts : soundParts checked workspace ≠ []) (settings : Settings) (output : String) :
    (videoTask checked workspace output).files.map Path.ofText ⊆
      writtenBy (soundtrackDeeds checked workspace settings) := by
  rw [soundtrackDeeds, writtenBy_append, writtenBy_exportExtractions stands, extractedNames,
    videoTask, List.map_append, List.map_append, map_ofText_survivors stands,
    map_ofText_survivors stands, List.map_singleton, stands.ofText_file, ← List.map_append]
  refine List.append_subset.mpr ⟨?_, ?_⟩
  · exact List.subset_append_of_subset_left _ (List.map_subset _ (List.subset_append_left _ _))
  · rintro path (_ | ⟨_, ⟨⟩⟩)
    exact List.mem_append_right _ ((writtenBy_soundDeeds stands _).2 someParts)

theorem read_compositionArguments_eq_videoTask {plan : Plan τ} {text output : String}
    {arguments : List String} {duration : τ}
    (inputs : plan.inputs = sceneInputs canvas settings.fps duration
        (survivors id checked.mainClips checked.timeline workspace)
        (survivors Layer.clip checked.layers checked.timeline workspace) ++
      [⟨(workspace.file "audio.m4a").text, []⟩])
    (written : compositionArguments plan text output settings = .ok arguments) :
    Task.read arguments = some (videoTask checked workspace output) := by
  have plain : ∀ input ∈ plan.inputs, input.IsPlain := by
    rw [inputs]
    intro input member
    rcases List.mem_append.mp member with member | member
    · exact isPlain_of_mem_sceneInputs member
    · rw [List.mem_singleton.mp member]
      rfl
  rw [task_of_written plain written, inputs, List.filter_append, List.map_append,
    filter_sceneInputs]
  rfl

/-! ## The whole export -/

structure ComposesVideo (checked : CheckedTimeline τ) (settings : Settings) (canvas : Int × Int)
    (workspace : Workspace) (output : String) (host : Host) : Prop where
  numbers : HasWritableNumbers canvas settings.fps
    (survivors id checked.mainClips checked.timeline workspace)
    (survivors Layer.clip checked.layers checked.timeline workspace)
  rate : settings.fps.isWritable = true
  directory : makesDirectory host output host.tree

/-- What an export issues behind the sound, and what it gives. Where some main clip plays, the
video is composed, unless its directory cannot be made or a number has too many digits to be
written. Where none plays, the export ends before that. -/
structure FollowsPlan (checked : CheckedTimeline τ) (settings : Settings) (canvas : Int × Int)
    (workspace : Workspace) (output : String) (deeds : List Deed) (gathered : Session)
    (exported : Except Problem ExportResult × Session) : Prop where
  silent : survivors id checked.mainClips checked.timeline workspace = [] →
    soundtrackTasks checked workspace =
      cuttingTasks Layer.clip .video checked.layers checked.timeline workspace ∧
    exported.2.host.calls = gathered.host.calls ∧
    ∃ result, exported.1 = .ok result ∧ result.outputPath = none ∧ result.failure = some noSound
  composed : survivors id checked.mainClips checked.timeline workspace ≠ [] →
    ComposesVideo checked settings canvas workspace output gathered.host →
    ∃ arguments,
      exported.2.host.calls = gathered.host.calls ++ [gathered.runner.binary :: arguments] ∧
      Task.read arguments = some (videoTask checked workspace output) ∧
      (Deed.compose arguments).reads gathered.host ⊆
        gathered.host.resolvedTexts (writtenBy deeds) ∧
      ∃ result, exported.1 = .ok result ∧ result.outputPath = some output ∧ result.failure = none
  stopped : survivors id checked.mainClips checked.timeline workspace ≠ [] →
    ¬ ComposesVideo checked settings canvas workspace output gathered.host →
    exported.2.host.calls = gathered.host.calls ∧ ∃ problem, exported.1 = .error problem

variable [LawfulQuantity τ]

theorem exportTimeline_silent (watches : observer.OnlyWatches)
    (passed : timeline.check = .ok checked) (delivers : before.host.AlwaysDelivers)
    (grounded : before.host.tree.IsGrounded before.host.workingPlace)
    (acquired : (Workspace.acquire exportId settings.workspaceRoot before.host).1 = .ok workspace)
    (fits : ∀ extraction ∈ exportExtractions checked workspace settings,
      FileTree.Fits extraction.output)
    (silent : survivors id checked.mainClips checked.timeline workspace = []) (output : String) :
    let start : Session :=
      { before.reset with
        host := (Workspace.acquire exportId settings.workspaceRoot before.host).2 }
    let exported := exportTimeline observer settings timeline output exportId before
    ∃ gathered, start.Did (soundtrackDeeds checked workspace settings) gathered ∧
      exported.2.host.calls = gathered.host.calls ∧
      ∃ result, exported.1 = .ok result ∧ result.outputPath = none ∧
        result.failure = some noSound := by
  intro start exported
  have world := Workspace.acquire_sameWorld exportId settings.workspaceRoot before.host
  have startDelivers : start.Delivers := ⟨rfl, delivers.congr world.script⟩
  rcases exportWork_prepared before.reset watches passed grounded acquired output with
    ⟨prepared, place, worked, stands, same⟩
  rcases produce_silent watches (startDelivers.of_sameWorld same.world) stands
    (canHold_of_fits passed fits) (soundParts_eq_nil_iff.mpr silent) settings output with
    ⟨gathered, ran, did⟩
  rcases exportTimeline_concludes watches.breaksOff settings timeline output exportId before with
    ⟨calls, entered, concludes⟩
  rw [worked, ran] at calls concludes
  rcases concludes with ⟨result, gives, noOutput, failed⟩
  exact ⟨gathered, same.trans did, calls, result, gives, noOutput,
    failed.trans (by rw [settled_noSound])⟩

theorem exportTimeline_sounding (watches : observer.OnlyWatches)
    (passed : timeline.check = .ok checked) (readable : timeline.HasReadableOverlays)
    (canvasRead : twoIntegers settings.canvas = .ok canvas)
    (delivers : before.host.AlwaysDelivers)
    (grounded : before.host.tree.IsGrounded before.host.workingPlace)
    (acquired : (Workspace.acquire exportId settings.workspaceRoot before.host).1 = .ok workspace)
    (fits : ∀ extraction ∈ exportExtractions checked workspace settings,
      FileTree.Fits extraction.output)
    (sounding : survivors id checked.mainClips checked.timeline workspace ≠ []) (output : String) :
    let start : Session :=
      { before.reset with
        host := (Workspace.acquire exportId settings.workspaceRoot before.host).2 }
    ∃ gathered, start.Did (soundtrackDeeds checked workspace settings) gathered ∧
      FollowsPlan checked settings canvas workspace output
        (soundtrackDeeds checked workspace settings) gathered
        (exportTimeline observer settings timeline output exportId before) := by
  intro start
  rcases exportTimeline_gathers watches passed sounding delivers grounded acquired fits output with
    ⟨gathered, deeds, finished, did, closing, calls, entered, concludes⟩
  have binary : gathered.runner.binary = before.runner.binary := did.world.binary
  obtain ⟨place, stands⟩ := Workspace.stands_of_acquire grounded (Prod.ext acquired rfl)
  have plans := exists_plan_survivors passed readable canvasRead workspace
    (workspace.file "audio.m4a").text
  refine ⟨gathered, did, fun none => absurd none sounding, fun _ composes => ?_,
    fun _ stays => ?_⟩
  · obtain ⟨plan, _, planned, -, draws⟩ := plans.1 composes.numbers
    rw [planned] at closing
    cases closing with
    | unmade _ _ fails => exact absurd composes.directory fails
    | unwritten _ _ overlong => exact absurd (composes.rate.symm.trans overlong) (by decide)
    | @composed _ text _ _ _ =>
        have read := read_compositionArguments_eq_videoTask draws.inputs_eq
          (compositionArguments_of_rate composes.rate plan text output)
        refine ⟨_, ?_, read, ?_, concludes⟩
        · rw [binary]
          exact calls
        · rw [Deed.reads, filesOf_of_read read]
          exact Host.resolvedTexts_subset (videoTask_files_subset stands
            (soundParts_ne_nil sounding) settings output)
  · generalize planIs : (planMontage checked settings
      (survivors id checked.mainClips checked.timeline workspace)
      (survivors Layer.clip checked.layers checked.timeline workspace)
      (workspace.file "audio.m4a").text).1 = planned at closing
    cases closing with
    | unplanned misfit => exact ⟨calls.trans (List.append_nil _), _, concludes⟩
    | unmade _ fault fails => exact ⟨calls.trans (List.append_nil _), _, concludes⟩
    | unwritten _ made overlong => exact ⟨calls.trans (List.append_nil _), _, concludes⟩
    | composed _ made rate =>
        obtain ⟨other, otherRead, numbers, -⟩ := draws_of_planned planIs
        cases canvasRead.symm.trans otherRead
        exact absurd ⟨numbers, rate, made⟩ stays

end Montage
