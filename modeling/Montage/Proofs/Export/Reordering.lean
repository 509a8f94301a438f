import Montage.Export.Exporter
import Montage.Proofs.Steps
import Montage.Proofs.Timeline.Reordering

/-! What an export takes of a timeline: its sorted clips and its span. The order in which the
clips were given is not part of it. -/

namespace Montage

variable {τ : Type} [Quantity τ]

/-! ## Timelines of the same span -/

structure Timeline.SameSpan (timeline other : Timeline τ) : Prop where
  trimStart : timeline.trimStart = other.trimStart
  resolvedEnd : timeline.resolvedEnd = other.resolvedEnd

namespace Timeline.SameSpan

variable {timeline other : Timeline τ} (span : timeline.SameSpan other)

include span

theorem outputStart (clip : Clip τ) : clip.outputStart timeline = clip.outputStart other := by
  rw [Clip.outputStart, Clip.outputStart, span.trimStart]

theorem window? (clip : Clip τ) : clip.window? timeline = clip.window? other := by
  rw [Clip.window?, Clip.window?, span.outputStart, Timeline.duration, Timeline.duration,
    span.resolvedEnd, span.trimStart]

theorem sourcePart (clip : Clip τ) : clip.sourcePart timeline = clip.sourcePart other := by
  rw [Clip.sourcePart, Clip.sourcePart, span.window?, span.outputStart]

theorem extraction? (clip : Clip τ) (stream : Stream) :
    clip.extraction? stream timeline = clip.extraction? stream other := by
  funext workspace ordinal settings
  rw [Clip.extraction?, Clip.extraction?, span.window?, span.sourcePart]

theorem extract (clip : Clip τ) (stream : Stream) :
    Montage.extract clip stream timeline = Montage.extract clip stream other := by
  funext workspace settings ordinal
  rw [Montage.extract, Montage.extract, span.extraction?]

theorem extractAll {item : Type} (clipOf : item → Clip τ) (items : List item) :
    Montage.extractAll clipOf items timeline = Montage.extractAll clipOf items other := by
  funext workspace settings
  simp only [Montage.extractAll, extractionJobs, span.extract]

end Timeline.SameSpan

/-! ## Checked timelines with the same clips -/

structure CheckedTimeline.Agrees (checked other : CheckedTimeline τ) : Prop where
  span : checked.timeline.SameSpan other.timeline
  mainClips : checked.mainClips = other.mainClips
  layers : checked.layers = other.layers

namespace CheckedTimeline.Agrees

variable {checked other : CheckedTimeline τ} (agrees : checked.Agrees other)

include agrees

theorem extractMain : Montage.extractMain checked = Montage.extractMain other := by
  funext workspace settings
  rw [Montage.extractMain, Montage.extractMain, agrees.span.extractAll, agrees.mainClips]

theorem extractLayers : Montage.extractLayers checked = Montage.extractLayers other := by
  funext workspace settings
  rw [Montage.extractLayers, Montage.extractLayers, agrees.span.extractAll, agrees.layers]

theorem assembleSound : Montage.assembleSound checked = Montage.assembleSound other := by
  funext workspace settings
  simp only [Montage.assembleSound, extractSound, agrees.span.extract, agrees.mainClips]

theorem outputDuration : checked.outputDuration = other.outputDuration := by
  simp only [CheckedTimeline.outputDuration, agrees.span.window?, agrees.mainClips]

theorem planComposition : Montage.planComposition checked = Montage.planComposition other := by
  funext settings mainAssets layerAssets audio
  simp only [Montage.planComposition, planMontage, agrees.outputDuration]

theorem produce (observer : Observer) (settings : Settings) :
    Montage.produce observer settings checked = Montage.produce observer settings other := by
  funext workspace output
  simp only [Montage.produce, arrange, agrees.extractMain, agrees.extractLayers,
    agrees.assembleSound, agrees.planComposition]

end CheckedTimeline.Agrees

/-! ## Exports -/

variable {timeline other : Timeline τ} {checked otherChecked : CheckedTimeline τ}

/-- Once a timeline has passed, nothing of it is needed to prepare its export. -/
theorem attempt_prepare (passed : timeline.check = .ok checked) (observer : Observer)
    (settings : Settings) (exportId : Option String) (before : Session) :
    let opening : Act Workspace := do
      enterStage observer .validating
      Act.onHost (Workspace.acquire exportId settings.workspaceRoot)
    (prepare observer settings timeline exportId).attempt before =
      (.ok ((opening before).1.map (checked, ·)), (opening before).2) := by
  intro opening
  have preparing : prepare observer settings timeline exportId =
      (do let workspace ← opening; return (checked, workspace)) := by
    simp only [prepare, opening, passed, Act.ofExcept, pure_bind, bind_assoc]
  rw [preparing, Act.attempt, run_bind]
  rcases opening before with ⟨problem | workspace, after⟩
  · rfl
  · rfl

/-- Timelines that have passed are exported alike when the same is produced from them. -/
theorem exportTimeline_of_produce (passed : timeline.check = .ok checked)
    (otherPassed : other.check = .ok otherChecked) {observer : Observer} {settings : Settings}
    (same : produce observer settings checked = produce observer settings otherChecked) :
    exportTimeline observer settings timeline = exportTimeline observer settings other := by
  funext output exportId before
  have reset : Act.change (fun session => ((), session.reset)) before = (.ok (), before.reset) :=
    rfl
  unfold exportTimeline
  rw [run_bind_of_ok reset, run_bind_of_ok reset,
    run_bind_of_ok (attempt_prepare passed observer settings exportId before.reset),
    run_bind_of_ok (attempt_prepare otherPassed observer settings exportId before.reset)]
  generalize Prod.fst (_ : Except Problem Workspace × Session) = opened
  cases opened with
  | error problem => rfl
  | ok workspace =>
      simp only [Except.map, Except.toOption, same]
      rfl

theorem exportTimeline_congr (passed : timeline.check = .ok checked)
    (otherPassed : other.check = .ok otherChecked) (agrees : checked.Agrees otherChecked)
    (observer : Observer) (settings : Settings) :
    exportTimeline observer settings timeline = exportTimeline observer settings other :=
  exportTimeline_of_produce passed otherPassed (agrees.produce observer settings)

theorem agrees_of_reorders {timeline other : Timeline ℚ} (reorders : timeline.Reorders other) :
    timeline.sorted.Agrees other.sorted where
  span := ⟨reorders.trimStart, reorders.resolvedEnd⟩
  mainClips := reorders.sorted.1
  layers := reorders.sorted.2

/-- A timeline and the same with its clips in another order, in which those that start together
on a track keep theirs: both pass or neither does, and their exports are the same, with several
workers on the schedule of `runPool`. -/
theorem exportTimeline_reordered {timeline other : Timeline ℚ}
    (reorders : timeline.Reorders other) :
    ((∃ checked, timeline.check = .ok checked) ↔ ∃ checked, other.check = .ok checked) ∧
      ∀ checked, timeline.check = .ok checked → ∃ otherChecked, other.check = .ok otherChecked ∧
        checked.Agrees otherChecked ∧
        ∀ observer settings, exportTimeline observer settings timeline =
          exportTimeline observer settings other := by
  refine ⟨⟨?_, ?_⟩, ?_⟩
  · rintro ⟨checked, passed⟩
    exact ⟨_, reorders.check_of_check passed⟩
  · rintro ⟨checked, passed⟩
    exact ⟨_, reorders.symm.check_of_check passed⟩
  · intro checked passed
    have otherPassed := reorders.check_of_check passed
    have agrees : checked.Agrees other.sorted := by
      rw [Timeline.checked_eq passed]
      exact agrees_of_reorders reorders
    exact ⟨_, otherPassed, agrees, exportTimeline_congr passed otherPassed agrees⟩

def Timeline.tied : Timeline ℚ :=
  .ofClips [
    { Clip.ofTrim "title.mp4" 0.0 1.5 with track := .numbered 1 },
    { Clip.ofTrim "shadow.mp4" 0.0 1.5 with track := .numbered 1 },
    .ofTrim "first.mp4" 0.0 4.0]

def Timeline.tiedAgain : Timeline ℚ :=
  .ofClips [
    { Clip.ofTrim "title.mp4" 0.0 1.5 with track := .numbered 1 },
    .ofTrim "first.mp4" 0.0 4.0,
    { Clip.ofTrim "shadow.mp4" 0.0 1.5 with track := .numbered 1 }]

theorem Timeline.tied_reorders : tied.Reorders tiedAgain where
  permutes := (List.Perm.swap _ _ []).cons _
  keepsTies number startTime := by
    -- Either the titles are left out or the clip is.
    by_cases main : number = 0
    · subst main
      rfl
    · have notMain : ¬ 0 = number := Ne.symm main
      simp [tied, tiedAgain, ofClips, Clip.ofTrim, Track.number, List.filter_cons, notMain]
  trimStart := rfl
  trimEnd := rfl

theorem exportTimeline_reordered_tied :
    Timeline.tied.Reorders Timeline.tiedAgain ∧
      Timeline.tied.check = .ok Timeline.tied.sorted ∧
      ∃ otherChecked, Timeline.tiedAgain.check = .ok otherChecked ∧
        Timeline.tied.sorted.Agrees otherChecked ∧
        ∀ observer settings, exportTimeline observer settings Timeline.tied =
          exportTimeline observer settings Timeline.tiedAgain := by
  have passed : Timeline.tied.check = .ok Timeline.tied.sorted :=
    Timeline.check_eq_of_isSome (by decide +kernel)
  exact ⟨Timeline.tied_reorders, passed,
    (exportTimeline_reordered Timeline.tied_reorders).2 _ passed⟩

end Montage
