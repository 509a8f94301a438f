import Montage.Export.Exporter
import Montage.Proofs.Steps

/-! Laws of steps. What holds of every kind of step that an export takes, and of steps after
each other when it holds of each, holds of the whole work of an export and of its end. -/

namespace Montage

def Act.writeList (list : Path) (parts : List Path) : Act Unit := do
  let host := (← getThe Session).host
  Act.writeFile list (host.listText parts)

structure SequenceLaw (Holds : ∀ {α : Type}, Act α → Prop) : Prop where
  pure : ∀ {α : Type} (value : α), Holds (Pure.pure value : Act α)
  throw : ∀ {α : Type} (problem : Problem), Holds (MonadExcept.throw problem : Act α)
  bind : ∀ {α β : Type} {step : Act α} {next : α → Act β}, Holds step →
    (∀ value, Holds (next value)) → Holds (step >>= next)

namespace SequenceLaw

variable {Holds : ∀ {α : Type}, Act α → Prop} {α β : Type}

theorem ofExcept (law : SequenceLaw Holds) {ε : Type} (toProblem : ε → Problem)
    (result : Except ε α) : Holds (Act.ofExcept toProblem result) := by
  cases result with
  | ok value => exact law.pure value
  | error error => exact law.throw (toProblem error)

theorem mapM (law : SequenceLaw Holds) {job : β → Act α} {items : List β}
    (each : ∀ item ∈ items, Holds (job item)) : Holds (items.mapM job) := by
  induction items with
  | nil =>
      rw [List.mapM_nil]
      exact law.pure []
  | cons item rest induction =>
      have restHolds := induction fun other member => each other (List.mem_cons_of_mem item member)
      rw [List.mapM_cons]
      exact law.bind (each item List.mem_cons_self) fun value =>
        law.bind restHolds fun values => law.pure _

theorem forM (law : SequenceLaw Holds) {job : β → Act PUnit} {items : List β}
    (each : ∀ item, Holds (job item)) : Holds (items.forM job) := by
  induction items with
  | nil => exact law.pure _
  | cons item rest induction => exact law.bind (each item) fun _ => induction

/-- One worker does the jobs one after the other. -/
theorem runJobs_alone (law : SequenceLaw Holds) {workers : Int} (alone : workers ≤ 1)
    {jobs : List (Act (Option α))} (each : ∀ job ∈ jobs, Holds job) :
    Holds (runJobs workers jobs) := by
  unfold runJobs
  rw [if_pos (show min workers jobs.length ≤ 1 by omega)]
  exact law.mapM each

theorem foldlM (law : SequenceLaw Holds) {job : α → β → Act α} {items : List β}
    (each : ∀ state, ∀ item ∈ items, Holds (job state item)) (start : α) :
    Holds (items.foldlM job start) := by
  induction items generalizing start with
  | nil => exact law.pure start
  | cons item rest induction =>
      rw [List.foldlM_cons]
      exact law.bind (each start item List.mem_cons_self) fun state =>
        induction (fun state other member =>
          each state other (List.mem_cons_of_mem item member)) state

/-- However many workers do the jobs, it is enough that a job can be taken. -/
theorem runJobs (law : SequenceLaw Holds) (workers : Int)
    (takes : ∀ {α : Type} (state : PoolState α) {job : Act (Option α)}, Holds job →
      Holds (state.takeJob job))
    {jobs : List (Act (Option α))} (each : ∀ job ∈ jobs, Holds job) :
    Holds (Montage.runJobs workers jobs) := by
  unfold Montage.runJobs
  split
  · exact law.mapM each
  · refine law.bind (law.foldlM (fun state job member => takes state (each job member)) _) ?_
    intro done
    cases done.failure with
    | none => exact law.pure _
    | some problem => exact law.throw problem

/-- The end of an export. -/
theorem conclude (law : SequenceLaw Holds) {observer : Observer}
    (settles : ∀ output exportId produced, Holds (settle output exportId produced))
    (cleaningUp : Holds (enterStage observer .cleaningUp))
    (done : Holds (enterStage observer .done))
    (releases : ∀ workspace : Workspace, Holds (Act.onHost fun host =>
      (.ok (workspace.release host).1.toList, (workspace.release host).2.2)))
    (output : String) (exportId : Option String) (workspace : Option Workspace)
    (produced : Except Problem Unit) :
    Holds (Montage.conclude observer output exportId workspace produced) := by
  have cleans : Holds (cleanUp observer workspace) := by
    refine law.bind cleaningUp fun _ => ?_
    cases workspace with
    | none => exact law.bind (law.pure _) fun _ => law.bind done fun _ => law.pure _
    | some workspace =>
        exact law.bind (releases workspace) fun _ => law.bind done fun _ => law.pure _
  refine law.bind (settles output _ produced) fun result => law.bind cleans fun warnings => ?_
  cases result with
  | ok result => exact law.pure _
  | error problem => exact law.throw problem

end SequenceLaw

/-- A law of the steps that an export takes while it works, with the given observer and as
many workers. -/
structure StepLaw (observer : Observer) (workers : Int) (Holds : ∀ {α : Type}, Act α → Prop) :
    Prop extends SequenceLaw Holds where
  runJobs : ∀ {α : Type} {jobs : List (Act (Option α))}, (∀ job ∈ jobs, Holds job) →
    Holds (Montage.runJobs workers jobs)
  writeLog : ∀ (part message : String), part ≠ "tool" → Holds (Act.writeLog .debug part message)
  copyFile : ∀ (source target : Path), Holds (Act.copyFile source target)
  writeList : ∀ (list : Path) (parts : List Path), Holds (Act.writeList list parts)
  enterStage : ∀ stage, Holds (Montage.enterStage observer stage)
  runTool : ∀ (arguments : List String) (stage : Stage) {α : Type} {next : Act α}, Holds next →
    Holds do
      let _ ← Montage.runTool arguments (some stage.name)
      next

namespace StepLaw

variable {τ : Type} [Quantity τ] {observer : Observer} {workers : Int}
  {Holds : ∀ {α : Type}, Act α → Prop}

/-! ## The parts of the work -/

theorem extract (law : StepLaw observer workers Holds) (clip : Clip τ) (stream : Stream)
    (timeline : Timeline τ) (workspace : Workspace) (settings : Settings) (ordinal : Int) :
    Holds (Montage.extract clip stream timeline workspace settings ordinal) := by
  unfold Montage.extract
  split
  · exact law.bind (law.writeLog _ _ (by decide)) fun _ => law.pure _
  · exact law.bind (law.ofExcept _ _) fun _ => law.runTool _ _ (law.pure _)

theorem extractAll {settings : Settings} (law : StepLaw observer settings.workers Holds)
    {item : Type} (clipOf : item → Clip τ) (items : List item) (timeline : Timeline τ)
    (workspace : Workspace) :
    Holds (Montage.extractAll clipOf items timeline workspace settings) := by
  refine law.bind (law.runJobs ?_) fun _ => law.pure _
  intro job member
  rcases List.mem_map.mp member with ⟨⟨item, ordinal⟩, _, rfl⟩
  exact law.bind (law.extract (clipOf item) .video timeline workspace settings ordinal) fun _ =>
    law.pure _

theorem joinSound (law : StepLaw observer workers Holds) (parts : List Path)
    (workspace : Workspace) : Holds (Montage.joinSound parts workspace) := by
  have logs (message : String) : Holds (Act.writeLog .debug "audio" message) :=
    law.writeLog "audio" message (by decide)
  rcases parts with _ | ⟨part, _ | ⟨second, rest⟩⟩
  · exact law.throw _
  · exact law.bind (law.copyFile _ _) fun _ => law.bind (logs _) fun _ => law.pure _
  · let parts := part :: second :: rest
    let list := workspace.file "audio-concat.txt"
    have listed : Montage.joinSound parts workspace = (do
        Act.writeList list parts
        Act.writeLog .debug "audio" s!"Concatenating {parts.length} audio segments"
        let _ ← Montage.runTool (joinArguments list (workspace.file "audio.m4a"))
          (some Stage.audioAssembling.name)
        return workspace.file "audio.m4a") := rfl
    rw [listed]
    exact law.bind (law.writeList _ _) fun _ => law.bind (logs _) fun _ =>
      law.runTool _ _ (law.pure _)

theorem assembleSound (law : StepLaw observer workers Holds) (checked : CheckedTimeline τ)
    (workspace : Workspace) (settings : Settings) :
    Holds (Montage.assembleSound checked workspace settings) := by
  refine law.bind (law.bind (law.mapM ?_) fun _ => law.pure _) fun parts =>
    law.joinSound parts workspace
  rintro ⟨clip, ordinal⟩ _
  exact law.extract clip .audio checked.timeline workspace settings ordinal

theorem planComposition (law : StepLaw observer workers Holds) (checked : CheckedTimeline τ)
    (settings : Settings) (mainAssets : List (Asset (Clip τ) τ))
    (layerAssets : List (Asset (Layer τ) τ)) (audio : Path) :
    Holds (Montage.planComposition checked settings mainAssets layerAssets audio) := by
  unfold Montage.planComposition
  refine law.bind (law.forM fun _ => law.writeLog _ _ (by decide)) fun _ => ?_
  exact law.bind (law.ofExcept _ _) fun plan => law.bind (law.ofExcept _ _) fun text => law.pure _

theorem arrange {settings : Settings} (law : StepLaw observer settings.workers Holds)
    (checked : CheckedTimeline τ) (workspace : Workspace) {output : String}
    (makes : Holds (makeOutputDirectory output)) :
    Holds (Montage.arrange observer settings checked workspace output) := by
  refine law.bind (law.enterStage .preprocessing) fun _ => ?_
  refine law.bind (law.extractAll id _ _ workspace) fun mainAssets => ?_
  refine law.bind (law.extractAll Layer.clip _ _ workspace) fun layerAssets => ?_
  refine law.bind (law.enterStage .audioAssembling) fun _ => ?_
  refine law.bind (law.assembleSound checked workspace settings) fun audio => ?_
  refine law.bind (law.enterStage .graphBuilding) fun _ => ?_
  refine law.bind (law.planComposition checked settings mainAssets layerAssets audio)
    fun planned => ?_
  refine law.bind (law.writeLog _ _ (by decide)) fun _ => ?_
  refine law.bind (law.enterStage .composing) fun _ => ?_
  exact law.bind makes fun _ => law.ofExcept _ _

theorem compose (law : StepLaw observer workers Holds) (arguments : List String) :
    Holds (Montage.compose arguments) :=
  law.runTool arguments .composing (law.pure _)

theorem produce {settings : Settings} (law : StepLaw observer settings.workers Holds)
    (checked : CheckedTimeline τ) (workspace : Workspace) {output : String}
    (makes : Holds (makeOutputDirectory output)) :
    Holds (Montage.produce observer settings checked workspace output) :=
  law.bind (law.arrange checked workspace makes) law.compose

end StepLaw

end Montage
