import Montage.Export.Assets
import Montage.Proofs.Export.Pool
import Montage.Proofs.Timeline.Window
import Montage.Proofs.Tool.Call

/-! The pictures and sounds that are extracted: those of the clips that play, in their
order. -/

namespace Montage

theorem length_ordinalsFrom (seen tracks : List Int) :
    (ordinalsFrom seen tracks).length = tracks.length := by
  induction tracks generalizing seen with
  | nil => rfl
  | cons track rest induction => exact congrArg (· + 1) (induction _)

variable {τ : Type} [Quantity τ] {item : Type}

def withOrdinals (clipOf : item → Clip τ) (items : List item) : List (item × Nat) :=
  items.zip (trackOrdinals (items.map fun item => (clipOf item).track))

omit [Quantity τ] in
theorem map_fst_withOrdinals (clipOf : item → Clip τ) (items : List item) :
    (withOrdinals clipOf items).map Prod.fst = items := by
  apply List.map_fst_zip
  simp [trackOrdinals, length_ordinalsFrom]

omit [Quantity τ] in
theorem mem_of_mem_withOrdinals {clipOf : item → Clip τ} {items : List item} {counted : item × Nat}
    (member : counted ∈ withOrdinals clipOf items) : counted.1 ∈ items :=
  (List.of_mem_zip member).1

def assetIn (clipOf : item → Clip τ) (workspace : Workspace) (counted : item × Nat)
    (window : Window τ) : Asset item τ where
  item := counted.1
  window
  path := (workspace.assetPath Stream.video.name (clipOf counted.1).track counted.2
    Stream.video.format).text

/-- The items that play, each with its window and the file that its picture is in. -/
def survivors (clipOf : item → Clip τ) (items : List item) (timeline : Timeline τ)
    (workspace : Workspace) : List (Asset item τ) :=
  (withOrdinals clipOf items).filterMap fun counted =>
    ((clipOf counted.1).window? timeline).map (assetIn clipOf workspace counted)

def extractionOf (clipOf : item → Clip τ) (stream : Stream) (timeline : Timeline τ)
    (workspace : Workspace) (settings : Settings) (counted : item × Nat) :
    Option (Extraction τ) :=
  ((clipOf counted.1).window? timeline).map
    ((clipOf counted.1).extractionIn stream timeline workspace counted.2 settings)

def Clip.IsNameable (clip : Clip τ) : Prop :=
  clip.track.toValue.isWritable = true

omit [Quantity τ] in
theorem Clip.isNameable_of_isMain {clip : Clip τ} (main : clip.track.isMain = true) :
    clip.IsNameable := by
  unfold IsNameable
  cases given : clip.track with
  | numbered number =>
      rw [given] at main
      obtain rfl : number = 0 := beq_iff_eq.mp main
      decide +kernel
  | truth value => rfl

variable {clip : Clip τ} {timeline : Timeline τ} {window : Window τ}

theorem extract_eq [LawfulQuantity τ] (plays : clip.window? timeline = some window)
    (stream : Stream) (workspace : Workspace) (settings : Settings) (ordinal : Int) :
    extract clip stream timeline workspace settings ordinal = (do
      let extraction := clip.extractionIn stream timeline workspace ordinal settings window
      let _ ← Act.ofExcept .misfit clip.track.toValue.write
      let _ ← runTool extraction.arguments (some stream.stage.name)
      return some extraction) := by
  simp only [extract, clip.extraction?_eq, plays, Option.map_some]

theorem extract_of_plays [LawfulQuantity τ] (plays : clip.window? timeline = some window)
    (nameable : clip.IsNameable) (stream : Stream) (workspace : Workspace) (settings : Settings)
    (ordinal : Int) :
    extract clip stream timeline workspace settings ordinal = (do
      let extraction := clip.extractionIn stream timeline workspace ordinal settings window
      let _ ← runTool extraction.arguments (some stream.stage.name)
      return some extraction) := by
  rw [extract_eq plays, Value.write_eq_ok nameable]
  rfl

theorem extract_of_not_nameable [LawfulQuantity τ] (plays : clip.window? timeline = some window)
    (unwritable : ¬ clip.IsNameable) (stream : Stream) (workspace : Workspace)
    (settings : Settings) (ordinal : Int) (before : Session) :
    extract clip stream timeline workspace settings ordinal before =
      (.error (.misfit .tooManyDigits), before) := by
  rw [extract_eq plays, Value.write_eq_error (eq_false_of_ne_true unwritable)]
  rfl

theorem extract_of_skipped [LawfulQuantity τ] (skipped : clip.window? timeline = none)
    (stream : Stream) (workspace : Workspace) (settings : Settings) (ordinal : Int) :
    extract clip stream timeline workspace settings ordinal = (do
      Act.writeLog .debug "preprocess"
        ("Skipping " ++ stream.name ++ " of " ++ clip.source ++ ": outside the output window")
      return none) := by
  simp only [extract, clip.extraction?_eq, skipped, Option.map_none]

def assetOf (given : item) (extraction : Extraction τ) : Asset item τ where
  item := given
  window := extraction.window
  path := extraction.output.text

theorem filterMap_extractionOf (settings : Settings) (clipOf : item → Clip τ)
    (items : List item) (timeline : Timeline τ) (workspace : Workspace) :
    ((withOrdinals clipOf items).map fun counted =>
      (extractionOf clipOf .video timeline workspace settings counted).map
        (assetOf counted.1)).filterMap id = survivors clipOf items timeline workspace := by
  rw [List.filterMap_map]
  apply List.filterMap_congr
  intro counted _
  have same : assetOf counted.1 ∘ (clipOf counted.1).extractionIn .video timeline workspace
      counted.2 settings = assetIn clipOf workspace counted := by
    funext window
    simp only [Function.comp_apply, assetOf, Clip.extractionIn, assetIn]
  simp only [Function.comp_apply, id_eq, extractionOf, Option.map_map, same]

theorem extractAll_of_gives {clipOf : item → Clip τ} {items : List item}
    {timeline : Timeline τ} {workspace : Workspace} {settings : Settings}
    (Holds : List (item × Nat) → Session → Prop)
    (gives : GivesInTurn
      (fun counted => extract (clipOf counted.1) .video timeline workspace settings counted.2)
      (extractionOf clipOf .video timeline workspace settings) Holds (withOrdinals clipOf items))
    {before : Session} (holds : Holds [] before) :
    ∃ after, extractAll clipOf items timeline workspace settings before =
        (.ok (survivors clipOf items timeline workspace), after) ∧
      Holds (withOrdinals clipOf items) after := by
  have jobs : GivesInTurn
      (fun counted => do
        let extraction ← extract (clipOf counted.1) .video timeline workspace settings counted.2
        return extraction.map (assetOf counted.1))
      (fun counted =>
        (extractionOf clipOf .video timeline workspace settings counted).map (assetOf counted.1))
      Holds (withOrdinals clipOf items) := by
    intro done counted before member holds
    rcases gives done counted before member holds with ⟨after, ran, afterHolds⟩
    exact ⟨after, run_bind_of_ok ran _, afterHolds⟩
  rcases runJobs_of_ok settings.workers jobs holds with ⟨after, ran, afterHolds⟩
  refine ⟨after, ?_, afterHolds⟩
  rw [← filterMap_extractionOf settings]
  exact run_bind_of_ok ran fun results => pure (results.filterMap id)

def AllNameable (clipOf : item → Clip τ) (items : List item) (timeline : Timeline τ) : Prop :=
  ∀ item ∈ items, ((clipOf item).window? timeline).isSome = true → (clipOf item).IsNameable

variable [LawfulQuantity τ]

theorem extract_of_succeeds {before : Session} (succeeds : before.Succeeds) (clipOf : item → Clip τ)
    (stream : Stream) (timeline : Timeline τ) (workspace : Workspace) (settings : Settings)
    {counted : item × Nat} (nameable : ((clipOf counted.1).window? timeline).isSome = true →
      (clipOf counted.1).IsNameable) :
    ∃ after, extract (clipOf counted.1) stream timeline workspace settings counted.2 before =
        (.ok (extractionOf clipOf stream timeline workspace settings counted), after) ∧
      after.Succeeds := by
  unfold extractionOf
  cases plays : (clipOf counted.1).window? timeline with
  | none =>
      rw [extract_of_skipped plays]
      exact ⟨_, rfl, succeeds.of_sameWorld ⟨rfl, rfl, rfl, rfl⟩⟩
  | some window =>
      rw [extract_of_plays plays (nameable (Option.isSome_of_eq_some plays))]
      let extraction :=
        (clipOf counted.1).extractionIn stream timeline workspace counted.2 settings window
      rcases runTool_of_succeeds succeeds extraction.arguments (some stream.stage.name) with
        ⟨stdout, after, ran, afterSucceeds⟩
      exact ⟨after, run_bind_of_ok ran _, afterSucceeds⟩

theorem eq_extractionOf_of_extract {clipOf : item → Clip τ} {stream : Stream}
    {timeline : Timeline τ} {workspace : Workspace} {settings : Settings} {counted : item × Nat}
    {before after : Session} {extraction : Option (Extraction τ)}
    (ran : extract (clipOf counted.1) stream timeline workspace settings counted.2 before =
      (.ok extraction, after)) :
    extraction = extractionOf clipOf stream timeline workspace settings counted := by
  unfold extractionOf
  cases plays : (clipOf counted.1).window? timeline with
  | none =>
      rw [extract_of_skipped plays] at ran
      cases ran
      rfl
  | some window =>
      rw [extract_eq plays] at ran
      rcases exists_of_run_bind_ok ran with ⟨_, _, _, called⟩
      rcases exists_of_run_bind_ok called with ⟨_, _, _, ended⟩
      cases ended
      rfl

theorem extractAll_of_succeeds {before : Session} (succeeds : before.Succeeds)
    {clipOf : item → Clip τ} {items : List item} {timeline : Timeline τ}
    (nameable : AllNameable clipOf items timeline) (workspace : Workspace)
    (settings : Settings) :
    ∃ after, extractAll clipOf items timeline workspace settings before =
        (.ok (survivors clipOf items timeline workspace), after) ∧ after.Succeeds :=
  extractAll_of_gives (fun _ session => session.Succeeds)
    (fun _ _ _ member succeeds =>
      extract_of_succeeds succeeds clipOf .video timeline workspace settings
        (nameable _ (mem_of_mem_withOrdinals member))) succeeds

/-- However many workers there are and whatever else happens, the pictures that are given are
those of the items that play. -/
theorem eq_survivors_of_extractAll {clipOf : item → Clip τ} {items : List item}
    {timeline : Timeline τ} {workspace : Workspace} {settings : Settings} {before after : Session}
    {assets : List (Asset item τ)}
    (ran : extractAll clipOf items timeline workspace settings before = (.ok assets, after)) :
    assets = survivors clipOf items timeline workspace := by
  have gives : GivesIfOk
      (fun counted : item × Nat => do
        let extraction ← extract (clipOf counted.1) .video timeline workspace settings counted.2
        return extraction.map (assetOf counted.1))
      (fun counted =>
        (extractionOf clipOf .video timeline workspace settings counted).map (assetOf counted.1))
      (withOrdinals clipOf items) := by
    intro counted _ before after result jobRan
    rcases exists_of_run_bind_ok jobRan with ⟨extraction, middle, extracted, ended⟩
    cases ended
    rw [eq_extractionOf_of_extract extracted]
  rcases exists_of_run_bind_ok ran with ⟨results, middle, resultsRan, ended⟩
  cases ended
  rw [← filterMap_extractionOf settings, eq_map_of_runJobs gives resultsRan]

end Montage
