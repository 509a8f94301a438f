import Montage.Proofs.Export.Closing
import Montage.Proofs.Graph.Paths
import Montage.Proofs.Timeline.Omission

/-! Exports of timelines from which clips are left out that play nothing. The calls are the same,
one for one; only the places of the clips on their tracks, which stand in the names of the
extracted files, may be others. -/

namespace Montage

/-! ## What may differ -/

def Workspace.SameAsset (workspace : Workspace) (path other : Path) : Prop :=
  ∃ (stream : Stream) (track : Track) (ordinal otherOrdinal : Nat),
    path = workspace.assetPath stream.name track ordinal stream.format ∧
      other = workspace.assetPath stream.name track otherOrdinal stream.format

def Workspace.SamePath (workspace : Workspace) (path other : String) : Prop :=
  other = path ∨ ∃ file otherFile, workspace.SameAsset file otherFile ∧ path = file.text ∧
    other = otherFile.text

/-- Two deeds of one kind, with the same arguments but for the ordinals in the names of the
extracted files: where an extraction writes to, and what is copied, listed or composed. -/
inductive Deed.Alike (workspace : Workspace) : Deed → Deed → Prop
  | extract (words : List String) {output other : Path} (same : workspace.SameAsset output other) :
      Alike workspace (.extract (words ++ [output.text])) (.extract (words ++ [other.text]))
  | copy {source other : Path} (same : workspace.SameAsset source other) (target : Path) :
      Alike workspace (.copy source target) (.copy other target)
  | list {parts others : List Path} (same : List.Forall₂ workspace.SameAsset parts others)
      (output : Path) : Alike workspace (.list parts output) (.list others output)
  | join (arguments : List String) : Alike workspace (.join arguments) (.join arguments)
  | makeDirectory (path : Path) : Alike workspace (.makeDirectory path) (.makeDirectory path)
  | compose {inputs others : List Input}
      (same : List.Forall₂ (Input.SameBut workspace.SamePath) inputs others)
      (words : List String) :
      Alike workspace (.compose (inputs.flatMap Input.arguments ++ words))
        (.compose (others.flatMap Input.arguments ++ words))

theorem Workspace.SamePath.refl {workspace : Workspace} (path : String) :
    workspace.SamePath path path :=
  .inl rfl

/-! ## Items that play -/

variable {τ : Type} [Quantity τ]

theorem map_fst_filter_withOrdinals {item : Type} (clipOf : item → Clip τ)
    (timeline : Timeline τ) (items : List item) :
    ((withOrdinals clipOf items).filter fun counted =>
        (clipOf counted.1).plays timeline).map Prod.fst =
      items.filter fun given => (clipOf given).plays timeline := by
  conv_rhs => rw [← map_fst_withOrdinals clipOf items, List.filter_map]
  rfl

/-- What is made of the items that play, in two lists that hold the same of them in the same
order. It may depend on their places on the tracks. -/
theorem forall₂_playing {item α β : Type} {clipOf : item → Clip τ} {timeline other : Timeline τ}
    (span : timeline.SameSpan other) {items others : List item}
    (same : items.filter (fun given => (clipOf given).plays timeline) =
      others.filter fun given => (clipOf given).plays timeline)
    {Related : α → β → Prop} {gives : item × Nat → Window τ → α}
    {givesToo : item × Nat → Window τ → β}
    (related : ∀ given ordinal otherOrdinal window,
      Related (gives (given, ordinal) window) (givesToo (given, otherOrdinal) window)) :
    List.Forall₂ Related
      ((withOrdinals clipOf items).filterMap fun counted =>
        ((clipOf counted.1).window? timeline).map (gives counted))
      ((withOrdinals clipOf others).filterMap fun counted =>
        ((clipOf counted.1).window? other).map (givesToo counted)) := by
  have sameItems : List.Forall₂ (fun counted otherCounted => counted.1 = otherCounted.1)
      ((withOrdinals clipOf items).filter fun counted => (clipOf counted.1).plays timeline)
      ((withOrdinals clipOf others).filter fun counted => (clipOf counted.1).plays timeline) := by
    rw [← map_fst_filter_withOrdinals clipOf timeline items,
      ← map_fst_filter_withOrdinals clipOf timeline others, ← List.forall₂_eq_eq_eq] at same
    exact List.forall₂_map_right_iff.mp (List.forall₂_map_left_iff.mp same)
  have playing {γ : Type} := filterMap_filter_plays (α := γ)
    (fun counted : item × Nat => clipOf counted.1) timeline
  simp only [← span.window?]
  rw [← playing gives, ← playing givesToo]
  refine List.rel_filterMap ?_ sameItems
  rintro ⟨given, ordinal⟩ ⟨_, otherOrdinal⟩ rfl
  dsimp only
  cases (clipOf given).window? timeline with
  | none => exact .none
  | some window => exact .some (related given ordinal otherOrdinal window)

section

variable {item : Type} (clipOf : item → Clip τ) {timeline other : Timeline τ}
  {items others : List item} (workspace : Workspace)

omit [Quantity τ] in
theorem assetIn_alike (given : item) (ordinal otherOrdinal : Nat) (window : Window τ) :
    (assetIn clipOf workspace (given, ordinal) window).SameBut workspace.SamePath
      (assetIn clipOf workspace (given, otherOrdinal) window) where
  item := rfl
  window := rfl
  path := by
    have same : workspace.SameAsset
        (workspace.assetPath Stream.video.name (clipOf given).track ordinal Stream.video.format)
        (workspace.assetPath Stream.video.name (clipOf given).track otherOrdinal
          Stream.video.format) :=
      ⟨.video, (clipOf given).track, ordinal, otherOrdinal, rfl, rfl⟩
    simp only [assetIn]
    exact .inr ⟨_, _, same, rfl, rfl⟩

theorem survivors_alike (span : timeline.SameSpan other)
    (same : items.filter (fun given => (clipOf given).plays timeline) =
      others.filter fun given => (clipOf given).plays timeline) :
    List.Forall₂ (Asset.SameBut workspace.SamePath) (survivors clipOf items timeline workspace)
      (survivors clipOf others other workspace) :=
  forall₂_playing span same (assetIn_alike clipOf workspace)

theorem extractions_alike (span : timeline.SameSpan other)
    (same : items.filter (fun given => (clipOf given).plays timeline) =
      others.filter fun given => (clipOf given).plays timeline) (stream : Stream)
    (settings : Settings) :
    List.Forall₂ (Deed.Alike workspace)
      ((extractions clipOf stream items timeline workspace settings).map .ofExtraction)
      ((extractions clipOf stream others other workspace settings).map .ofExtraction) := by
  apply List.forall₂_map_left_iff.mpr
  apply List.forall₂_map_right_iff.mpr
  refine forall₂_playing span same fun given ordinal otherOrdinal window => ?_
  have words (ordinal : Nat) : ((clipOf given).extractionIn stream timeline workspace ordinal
      settings window).arguments =
      (["-ss", Quantity.thousandths ((clipOf given).sourcePart timeline).start,
        "-i", (clipOf given).source,
        "-t", Quantity.thousandths ((clipOf given).sourcePart timeline).duration] ++
        stream.arguments settings ++ ["-y"]) ++
      [(workspace.assetPath stream.name (clipOf given).track ordinal stream.format).text] := by
    simp [Clip.extractionIn, trimArguments]
  have sameOther : (clipOf given).extractionIn stream other workspace otherOrdinal settings window =
      (clipOf given).extractionIn stream timeline workspace otherOrdinal settings window := by
    rw [Clip.extractionIn, Clip.extractionIn, span.sourcePart]
  rw [Deed.ofExtraction, Deed.ofExtraction, sameOther, words, words]
  exact .extract _ ⟨stream, (clipOf given).track, ordinal, otherOrdinal, rfl, rfl⟩

omit [Quantity τ] in
theorem soundDeeds_alike {parts otherParts : List Path}
    (same : List.Forall₂ workspace.SameAsset parts otherParts) :
    List.Forall₂ (Deed.Alike workspace) (soundDeeds parts workspace)
      (soundDeeds otherParts workspace) := by
  match parts, otherParts, same with
  | [], [], _ => exact .nil
  | [part], [otherPart], .cons one .nil => exact .cons (.copy one _) .nil
  | _ :: _ :: _, _ :: _ :: _, several => exact .cons (.list several _) (.cons (.join _) .nil)

end

namespace CheckedTimeline.PlaysSame

variable {checked other : CheckedTimeline τ} (same : checked.PlaysSame other)
  (workspace : Workspace)

include same

theorem soundParts : List.Forall₂ workspace.SameAsset (Montage.soundParts checked workspace)
    (Montage.soundParts other workspace) := by
  apply List.forall₂_map_left_iff.mpr
  apply List.forall₂_map_right_iff.mpr
  exact forall₂_playing same.span same.mainClips fun given ordinal otherOrdinal _ =>
    ⟨.audio, given.track, ordinal, otherOrdinal, rfl, rfl⟩

theorem survivors_ne_nil
    (sounding : survivors id checked.mainClips checked.timeline workspace ≠ []) :
    survivors id other.mainClips other.timeline workspace ≠ [] := by
  have alike := survivors_alike id workspace same.span same.mainClips
  intro none
  rw [none] at alike
  exact sounding (List.forall₂_nil_right_iff.mp alike)

theorem soundtrackDeeds (settings : Settings) : List.Forall₂ (Deed.Alike workspace)
    (Montage.soundtrackDeeds checked workspace settings)
    (Montage.soundtrackDeeds other workspace settings) := by
  have main (stream : Stream) :=
    extractions_alike id workspace same.span same.mainClips stream settings
  have layers :=
    extractions_alike Layer.clip workspace same.span same.layers .video settings
  unfold Montage.soundtrackDeeds exportExtractions
  rw [List.map_append, List.map_append]
  rw [List.map_append, List.map_append]
  exact List.rel_append (List.rel_append (List.rel_append (main .video) layers) (main .audio))
    (soundDeeds_alike workspace (same.soundParts workspace))

/-- The plans are the same but for the paths of what was extracted. -/
theorem planned (settings : Settings) (audioPath : String) :
    PlannedAlike workspace.SamePath
      (planMontage checked settings (survivors id checked.mainClips checked.timeline workspace)
        (survivors Layer.clip checked.layers checked.timeline workspace) audioPath)
      (planMontage other settings (survivors id other.mainClips other.timeline workspace)
        (survivors Layer.clip other.layers other.timeline workspace) audioPath) :=
  planMontage_alike .refl same.outputDuration settings
    (survivors_alike id workspace same.span same.mainClips)
    (survivors_alike Layer.clip workspace same.span same.layers) audioPath

end CheckedTimeline.PlaysSame

theorem survivors_ne_nil_of_plays {timeline : Timeline τ} {checked : CheckedTimeline τ}
    (passed : timeline.check = .ok checked)
    (plays : ∃ clip ∈ checked.mainClips, (clip.window? timeline).isSome = true)
    (workspace : Workspace) :
    survivors id checked.mainClips checked.timeline workspace ≠ [] := by
  rw [ne_eq, survivors_eq_nil_iff_forall]
  obtain ⟨clip, member, clipPlays⟩ := plays
  cases Timeline.checked_eq passed
  intro none
  rw [show clip.window? timeline = _ from none clip member] at clipPlays
  cases clipPlays

theorem Plan.SameBut.behindInputs {paths : String → String → Prop} {plan other : Plan τ}
    (same : plan.SameBut paths other) :
    Montage.behindInputs other = Montage.behindInputs plan := by
  funext text output settings
  simp only [Montage.behindInputs, same.videoLabel, same.audioIndex, same.duration]

theorem Closing.alike {workspace : Workspace} {output : String} {settings : Settings}
    {makes otherMakes : Prop} (sameMakes : makes ↔ otherMakes)
    {planned otherPlanned : Except Misfit (Plan τ) × List String}
    (same : PlannedAlike workspace.SamePath planned otherPlanned) {deeds otherDeeds : List Deed}
    {finished otherFinished : Except Problem Unit}
    (closing : Closing output settings makes planned.1 deeds finished)
    (otherClosing : Closing output settings otherMakes otherPlanned.1 otherDeeds otherFinished) :
    List.Forall₂ (Deed.Alike workspace) deeds otherDeeds := by
  cases same with
  | stopped misfit _ =>
      cases closing
      cases otherClosing
      exact .nil
  | @planned plan other same _ =>
      cases closing with
      | unmade _ _ fails =>
          cases otherClosing with
          | unmade | unwritten => exact .nil
          | composed _ made _ => exact absurd (sameMakes.mpr made) fails
      | unwritten _ _ overlong =>
          cases otherClosing with
          | unmade | unwritten => exact .nil
          | composed _ _ written => exact absurd (written.symm.trans overlong) (by decide)
      | @composed _ text rendered made written =>
          cases otherClosing with
          | unmade _ _ fails => exact absurd (sameMakes.mp made) fails
          | unwritten _ _ overlong => exact absurd (written.symm.trans overlong) (by decide)
          | composed otherRendered _ _ =>
              -- The nodes are the same, and so are all words behind the inputs.
              rw [same.nodes, rendered] at otherRendered
              cases otherRendered
              rw [videoDeeds, videoDeeds, same.behindInputs]
              exact .cons (.makeDirectory _) (.cons (.compose same.inputs _) .nil)

/-! ## The whole export -/

omit [Quantity τ] in
theorem Deed.Alike.isSome_arguments? {workspace : Workspace} {deed other : Deed}
    (alike : deed.Alike workspace other) : other.arguments?.isSome = deed.arguments?.isSome := by
  cases alike <;> rfl

omit [Quantity τ] in
/-- Alike deeds are as many calls. -/
theorem length_argumentsOf_alike {workspace : Workspace} {deeds others : List Deed}
    (alike : List.Forall₂ (Deed.Alike workspace) deeds others) :
    (argumentsOf others).length = (argumentsOf deeds).length := by
  simp only [argumentsOf, List.length_filterMap_eq_countP]
  induction alike with
  | nil => rfl
  | cons one _ induction =>
      rw [List.countP_cons, List.countP_cons, induction, one.isSome_arguments?]

variable [LawfulQuantity τ] {observer : Observer} {settings : Settings}
  {timeline other : Timeline τ} {checked : CheckedTimeline τ} {output : String}
  {exportId : Option String} {before : Session} {workspace : Workspace}

/-- Clips that play nothing can be left out of a timeline with an end of its own in which some
main clip plays. It passes all the same, and its export issues the same calls, one for one: only
the ordinals in the names of the extracted files may be others. It is assumed that the directory
of the output can be made in both exports or in neither, as it cannot where one of those files
stands. -/
theorem exportTimeline_leaves_out [Measured τ] (leavesOut : timeline.LeavesOut other) {stop : τ}
    (ends : timeline.trimEnd = some stop) (passed : timeline.check = .ok checked)
    (plays : ∃ clip ∈ checked.mainClips, (clip.window? timeline).isSome = true) :
    other.check = .ok other.sorted ∧
      ∀ (observer : Observer) (settings : Settings) (output : String) (exportId : Option String)
        (before : Session) (workspace : Workspace), observer.OnlyWatches →
        before.host.AlwaysDelivers → before.host.tree.IsGrounded before.host.workingPlace →
        (Workspace.acquire exportId settings.workspaceRoot before.host).1 = .ok workspace →
        (∀ extraction ∈ exportExtractions checked workspace settings ++
          exportExtractions other.sorted workspace settings, FileTree.Fits extraction.output) →
        let host := (Workspace.acquire exportId settings.workspaceRoot before.host).2
        let sound := soundtrackDeeds checked workspace settings
        let otherSound := soundtrackDeeds other.sorted workspace settings
        (∀ tree otherTree, effects host sound host.tree = .ok tree →
          effects host otherSound host.tree = .ok otherTree →
          (makesDirectory host output tree ↔ makesDirectory host output otherTree)) →
        let calls := (exportTimeline observer settings timeline output exportId before).2.host.calls
        let otherCalls :=
          (exportTimeline observer settings other output exportId before).2.host.calls
        otherCalls.length = calls.length ∧ ∃ deeds otherDeeds,
          calls = before.host.calls ++
            (argumentsOf (sound ++ deeds)).map (before.runner.binary :: ·) ∧
          otherCalls = before.host.calls ++
            (argumentsOf (otherSound ++ otherDeeds)).map (before.runner.binary :: ·) ∧
          List.Forall₂ (Deed.Alike workspace) (sound ++ deeds) (otherSound ++ otherDeeds) := by
  have otherPassed := leavesOut.check ends passed plays
  refine ⟨otherPassed, ?_⟩
  intro observer settings output exportId before workspace watches delivers grounded acquired fits
    host sound otherSound sameMakes calls otherCalls
  have same := leavesOut.playsSame ends passed
  have sounding := survivors_ne_nil_of_plays passed plays workspace
  have otherSounding := same.survivors_ne_nil workspace sounding
  rcases exportTimeline_closes watches passed sounding delivers grounded acquired
    (fun extraction member => fits extraction (List.mem_append_left _ member)) output with
    ⟨tree, deeds, _, reached, closing, issues⟩
  rcases exportTimeline_closes watches otherPassed otherSounding delivers grounded acquired
    (fun extraction member => fits extraction (List.mem_append_right _ member)) output with
    ⟨otherTree, otherDeeds, _, otherReached, otherClosing, otherIssues⟩
  have alike : List.Forall₂ (Deed.Alike workspace) (sound ++ deeds) (otherSound ++ otherDeeds) :=
    List.rel_append (same.soundtrackDeeds workspace settings)
      (Closing.alike (sameMakes tree otherTree reached otherReached)
        (same.planned workspace settings _) closing otherClosing)
  refine ⟨?_, deeds, otherDeeds, issues, otherIssues, alike⟩
  rw [show calls = _ from issues, show otherCalls = _ from otherIssues, List.length_append,
    List.length_append, List.length_map, List.length_map, length_argumentsOf_alike alike]

/-! ## A sample -/

def Clip.introduction : Clip Float :=
  .ofTrim "intro.mp4" 0.0 1.0

def Clip.shown : Clip Float :=
  { Clip.ofTrim "first.mp4" 0.0 2.0 with startTime := 1.0 }

def Timeline.introduced : Timeline Float where
  clips := [.introduction, .shown]
  trimStart := 1.0
  trimEnd := some 3.0

def Timeline.shownAlone : Timeline Float :=
  { introduced with clips := [.shown] }

namespace Timeline

theorem introduction_silent : Clip.introduction.window? introduced = none := by
  have silent : (Clip.introduction.window? introduced).isNone = true := by decide
  exact Option.isNone_iff_eq_none.mp silent

theorem shown_plays : ∃ window, Clip.shown.window? introduced = some window :=
  Option.isSome_iff_exists.mp (by decide)

theorem introduced_leavesOut : introduced.LeavesOut shownAlone where
  clips := (List.Sublist.refl _).cons _
  keepsPlaying := by
    have silent : ¬ Clip.introduction.plays introduced = true := by
      rw [Clip.plays, introduction_silent]
      decide
    exact (List.filter_cons_of_neg silent).symm
  trimStart := rfl
  trimEnd := rfl

theorem introduced_passes : introduced.check = .ok introduced.sorted :=
  check_eq_of_isSome (by decide)

theorem introduced_mainClips : introduced.sorted.mainClips = [.introduction, .shown] := by
  have inOrder : Quantity.atMost Clip.introduction.startTime Clip.shown.startTime = true := by
    decide
  exact List.mergeSort_of_pairwise (List.pairwise_pair.mpr inOrder)

theorem shownAlone_mainClips : shownAlone.sorted.mainClips = [.shown] :=
  mainClips_singleton rfl

theorem introduced_plays :
    ∃ clip ∈ introduced.sorted.mainClips, (clip.window? introduced).isSome = true := by
  rw [introduced_mainClips]
  exact ⟨.shown, by simp, Option.isSome_iff_exists.mpr shown_plays⟩

theorem introduced_short : ∀ clip ∈ introduced.clips, ∀ ordinal < introduced.clips.length,
    ∀ stream ∈ [Stream.video, .audio],
      let path := Workspace.sample.file (assetName stream clip.track ordinal)
      path.text.utf8ByteSize ≤ FileTree.longestPath ∧
        ∀ part ∈ path.parts, part.utf8ByteSize ≤ FileTree.longestName := by
  decide

theorem introduced_fits : ∀ extraction ∈ exportExtractions introduced.sorted Workspace.sample {},
    FileTree.Fits extraction.output :=
  fits_of_short Workspace.sample introduced_short {}

theorem shownAlone_fits : ∀ extraction ∈ exportExtractions shownAlone.sorted Workspace.sample {},
    FileTree.Fits extraction.output :=
  fits_of_short Workspace.sample (fun clip member ordinal small =>
    introduced_short clip (introduced_leavesOut.clips.subset member) ordinal
      (small.trans_le introduced_leavesOut.clips.length_le)) {}

end Timeline

theorem exportTimeline_leaves_out_introduction :
    let settings : Settings := {}
    let before := Session.sample
    let calls := (exportTimeline {} settings Timeline.introduced "out.mp4" none before).2.host.calls
    let otherCalls :=
      (exportTimeline {} settings Timeline.shownAlone "out.mp4" none before).2.host.calls
    Timeline.introduced.LeavesOut Timeline.shownAlone ∧
      Timeline.introduced.check = .ok Timeline.introduced.sorted ∧
      Timeline.shownAlone.check = .ok Timeline.shownAlone.sorted ∧
      otherCalls.length = calls.length ∧
      let sound := soundtrackDeeds Timeline.introduced.sorted Workspace.sample settings
      let otherSound := soundtrackDeeds Timeline.shownAlone.sorted Workspace.sample settings
      ∃ deeds otherDeeds,
        calls = before.host.calls ++
          (argumentsOf (sound ++ deeds)).map (before.runner.binary :: ·) ∧
        otherCalls = before.host.calls ++
          (argumentsOf (otherSound ++ otherDeeds)).map (before.runner.binary :: ·) ∧
        List.Forall₂ (Deed.Alike Workspace.sample) (sound ++ deeds)
          (otherSound ++ otherDeeds) := by
  intro settings before calls otherCalls
  rcases exportTimeline_leaves_out Timeline.introduced_leavesOut rfl Timeline.introduced_passes
    Timeline.introduced_plays with ⟨otherPassed, exports⟩
  have made := makesDirectory_sample none settings.workspaceRoot
  rcases exports {} settings "out.mp4" none before Workspace.sample
    Observer.default_onlyWatches Host.sample_alwaysDelivers Host.sample_isGrounded
    Workspace.sample_acquired
    (List.forall_mem_append.mpr ⟨Timeline.introduced_fits, Timeline.shownAlone_fits⟩)
    (fun tree otherTree _ _ => iff_of_true (made tree) (made otherTree)) with ⟨sameLength, alike⟩
  exact ⟨Timeline.introduced_leavesOut, Timeline.introduced_passes, otherPassed, sameLength, alike⟩

/-! ## A picture where the directory of the output belongs -/

namespace Timeline

theorem introduced_assetNames (stream : Stream) :
    assetNames id stream introduced.sorted.mainClips introduced =
      [assetName stream (.numbered 0) 1] := by
  rcases shown_plays with ⟨window, plays⟩
  have counted : withOrdinals id [Clip.introduction, Clip.shown] =
      [(.introduction, 0), (.shown, 1)] := rfl
  rw [introduced_mainClips, assetNames, counted]
  simp only [List.filterMap_cons, List.filterMap_nil, playedName, id, introduction_silent, plays,
    Option.map_none, Option.map_some, countedName]
  rfl

theorem introduced_readable : introduced.HasReadableOverlays := by
  intro clip member overlay given
  rcases List.mem_pair.mp member with rfl | rfl <;> cases given

theorem shownAlone_readable : shownAlone.HasReadableOverlays :=
  fun clip member => introduced_readable clip (introduced_leavesOut.clips.subset member)

theorem introduced_layers : introduced.sorted.layers = [] := by
  have none : introduced.clips.filter (!·.track.isMain) = [] := rfl
  rw [sorted, overlayClips, none, List.mergeSort_nil, List.map_nil]

theorem shownAlone_layers : shownAlone.sorted.layers = [] := by
  have none : shownAlone.clips.filter (!·.track.isMain) = [] := rfl
  rw [sorted, overlayClips, none, List.mergeSort_nil, List.map_nil]

theorem hasWritableNumbers_of_no_layers {checked : CheckedTimeline Float}
    (none : checked.layers = []) (workspace : Workspace) :
    HasWritableNumbers (1920, 1080) ({} : Settings).fps
      (survivors id checked.mainClips checked.timeline workspace)
      (survivors Layer.clip checked.layers checked.timeline workspace) := by
  rw [none]
  exact Montage.hasWritableNumbers_of_no_layers _

/-- The first number goes to the introduction, of which nothing is extracted. -/
theorem introduced_spares_first :
    assetName .video (.numbered 0) 0 ∉ workspaceNames introduced.sorted := by
  have nonneg : 0 ≤ (Track.numbered 0).number := Int.le_refl 0
  have notSecond (stream : Stream) :
      assetName .video (.numbered 0) 0 ≠ assetName stream (.numbered 0) 1 := fun same =>
    absurd (assetName_injective nonneg nonneg same).2.2 (by decide)
  have names : extractedNames introduced.sorted =
      [assetName .video (.numbered 0) 1, assetName .audio (.numbered 0) 1] := by
    rw [extractedNames, introduced_layers,
      show introduced.sorted.timeline = introduced from rfl, introduced_assetNames,
      introduced_assetNames]
    rfl
  rw [workspaceNames, names, List.mem_append]
  rintro (extracted | sound)
  · rcases List.mem_pair.mp extracted with same | same
    · exact notSecond .video same
    · exact notSecond .audio same
  · exact assetName_not_mem_soundNames _ _ _ sound

theorem shownAlone_extracts_first {host : Host} {place : Place}
    (stands : Workspace.sample.Stands host place) :
    ∃ deed ∈ soundtrackDeeds shownAlone.sorted Workspace.sample {},
      deed.written? = some (Workspace.sample.file (assetName .video (.numbered 0) 0)) := by
  rcases shown_plays with ⟨window, plays⟩
  rw [(introduced_leavesOut.sameSpan rfl).window?] at plays
  let extraction := Clip.shown.extractionIn .video shownAlone Workspace.sample (0 : Nat) {} window
  have member : extraction ∈
      extractions id .video shownAlone.sorted.mainClips shownAlone Workspace.sample {} := by
    rw [shownAlone_mainClips]
    exact List.mem_filterMap.mpr ⟨(.shown, 0), List.mem_cons_self, by
      simp only [extractionOf, id, plays, Option.map_some]
      rfl⟩
  refine ⟨.ofExtraction extraction, ?_, written_of_mem_extractions stands member⟩
  exact List.mem_append_left _ (List.mem_map_of_mem (List.mem_append_left _
    (List.mem_append_left _ member)))

theorem introduced_sounds :
    survivors id introduced.sorted.mainClips introduced Workspace.sample ≠ [] :=
  survivors_ne_nil_of_plays introduced_passes introduced_plays Workspace.sample

theorem shownAlone_passes : shownAlone.check = .ok shownAlone.sorted :=
  introduced_leavesOut.check rfl introduced_passes introduced_plays

theorem shownAlone_sounds :
    survivors id shownAlone.sorted.mainClips shownAlone Workspace.sample ≠ [] :=
  (introduced_leavesOut.playsSame rfl introduced_passes).survivors_ne_nil Workspace.sample
    introduced_sounds

section

variable {host : Host} {place : Place} {tree : FileTree}
  (stands : Workspace.sample.Stands host place)

include stands

theorem introduced_makesDirectory
    (nothing : host.tree.get? (place ++ [assetName .video (.numbered 0) 0]) = none)
    (reached : effects host (soundtrackDeeds introduced.sorted Workspace.sample {}) host.tree =
      .ok tree) : makesDirectory host outputInPicture tree := by
  have canHold := canHold_workspaceNames stands introduced_passes
    (canHold_of_fits introduced_passes introduced_fits) (soundParts_ne_nil introduced_sounds)
  have writes := written_of_mem_soundtrackDeeds stands introduced.sorted {}
  refine makesDirectory_of_nothing (stands.of_effects canHold writes reached)
    (Workspace.sample_canHold_first .video) parent_outputInPicture ?_
  rw [stands.get?_of_effects canHold writes reached introduced_spares_first, nothing]

theorem shownAlone_makesNoDirectory
    (reached : effects host (soundtrackDeeds shownAlone.sorted Workspace.sample {}) host.tree =
      .ok tree) : ¬ makesDirectory host outputInPicture tree := by
  have canHold := canHold_workspaceNames stands shownAlone_passes
    (canHold_of_fits shownAlone_passes shownAlone_fits) (soundParts_ne_nil shownAlone_sounds)
  have writes := written_of_mem_soundtrackDeeds stands shownAlone.sorted {}
  have canHoldFirst := Workspace.sample_canHold_first .video
  rcases shownAlone_extracts_first stands with ⟨deed, member, written⟩
  rcases stands.exists_file_of_effects canHold writes reached canHoldFirst member written with
    ⟨content, there⟩
  exact not_makesDirectory_of_file (stands.of_effects canHold writes reached) canHoldFirst
    parent_outputInPicture there

end

end Timeline

/-- Without the introduction the first number goes to the clip behind it, whose picture then stands
where the directory of the output belongs. The last call is not issued. -/
theorem exportTimeline_tells_introduction :
    let settings : Settings := {}
    let before := Session.sample
    let calls (timeline : Timeline Float) :=
      (exportTimeline {} settings timeline outputInPicture (some "export0") before).2.host.calls
    Timeline.introduced.LeavesOut Timeline.shownAlone ∧ Timeline.introduced.trimEnd = some 3.0 ∧
      Timeline.introduced.check = .ok Timeline.introduced.sorted ∧
      (∃ clip ∈ Timeline.introduced.sorted.mainClips,
        (clip.window? Timeline.introduced).isSome = true) ∧
      settings.workers ≤ 1 ∧ before.host.AlwaysDelivers ∧
      (calls Timeline.shownAlone).length + 1 = (calls Timeline.introduced).length := by
  intro settings before calls
  have leavesOut := Timeline.introduced_leavesOut
  have passed := Timeline.introduced_passes
  have delivers : before.host.AlwaysDelivers := Host.sample_alwaysDelivers
  refine ⟨leavesOut, rfl, passed, Timeline.introduced_plays, by decide, delivers, ?_⟩
  have watches := Observer.default_onlyWatches
  have canvasRead : twoIntegers settings.canvas = .ok (1920, 1080) := twoIntegers_pairOf 1920 1080
  rcases Workspace.sample_acquired_again Host.sample.script with ⟨host, acquired, madeTree⟩
  have inSample : (Workspace.acquire (some "export0") settings.workspaceRoot
      before.host).1 = .ok Workspace.sample := congrArg Prod.fst acquired
  have hostIs : (Workspace.acquire (some "export0") settings.workspaceRoot before.host).2 = host :=
    congrArg Prod.snd acquired
  rcases Workspace.stands_of_acquire Host.sample_isGrounded acquired with ⟨place, stands⟩
  have rate : settings.fps.isWritable = true := by decide +kernel
  rcases length_calls_exportTimeline watches passed Timeline.introduced_readable canvasRead
    (Timeline.hasWritableNumbers_of_no_layers Timeline.introduced_layers _) rate
    Timeline.introduced_sounds delivers Host.sample_isGrounded inSample Timeline.introduced_fits
    outputInPicture with ⟨tree, reached, issues, -⟩
  rcases length_calls_exportTimeline watches Timeline.shownAlone_passes
    Timeline.shownAlone_readable canvasRead
    (Timeline.hasWritableNumbers_of_no_layers Timeline.shownAlone_layers _) rate
    Timeline.shownAlone_sounds delivers Host.sample_isGrounded inSample
    Timeline.shownAlone_fits outputInPicture with
    ⟨aloneTree, aloneReached, -, aloneIssues⟩
  rw [hostIs] at reached issues aloneReached aloneIssues
  have nothing : host.tree.get? (place ++ [assetName .video (.numbered 0) 0]) = none := by
    rw [madeTree]
    exact Workspace.sample_empty_asset place _ _ _
  -- The sound takes as many calls in both, and one of them goes on to the video.
  have sameSound := length_argumentsOf_alike
    ((leavesOut.playsSame rfl passed).soundtrackDeeds Workspace.sample settings)
  rw [aloneIssues (Timeline.shownAlone_makesNoDirectory stands aloneReached),
    issues (Timeline.introduced_makesDirectory stands nothing reached), sameSound]

end Montage
