import Montage.Proofs.Graph.Wiring

/-! The plan of a montage. It is always made when its numbers can be read and written; its graph
is well wired, and the video shows the scene. -/

namespace Montage

variable {τ : Type} [Quantity τ]

structure Plan.Draws (plan : Plan τ) (inputs : List Input) (audioPath : String)
    (picture : Picture) : Prop where
  inputs_eq : plan.inputs = inputs ++ [⟨audioPath, []⟩]
  audioIndex_eq : plan.audioIndex = inputs.length
  videoLabel_eq : plan.videoLabel = Montage.videoLabel
  finished : Finished inputs plan.nodes picture

namespace Builder

theorem drawAll_eq {settings : Settings} {canvas : Int × Int}
    (read : twoIntegers settings.canvas = .ok canvas) (duration : τ)
    (mainAssets : List (Asset (Clip τ) τ)) {layerAssets : List (Asset (Layer τ) τ)}
    (readable : ∀ asset ∈ layerAssets, asset.item.overlay.IsReadable)
    (writable : HasWritableNumbers canvas settings.fps mainAssets layerAssets)
    (audioPath : String) :
    let inputs := sceneInputs canvas settings.fps duration mainAssets layerAssets
    ∃ after, drawAll settings duration mainAssets layerAssets audioPath {} =
        (.ok inputs.length, after) ∧
      after.inputs = inputs ++ [⟨audioPath, []⟩] ∧
      Finished inputs after.nodes
        (scene canvas settings.fps duration mainAssets layerAssets) := by
  intro inputs
  rcases Turns.drawBase read writable.canvas duration writable.rate {} [] Offers.empty with
    ⟨base, based, baseRan, baseOffers, baseInputs⟩
  have layers := Turns.foldlM layerAssets fun label picture asset member =>
    Turns.drawLayer read writable.canvas label picture asset (readable asset member)
      (writable.layers asset member)
  rcases layers base _ based [] baseOffers with ⟨top, drawn, ran, offers, drawnInputs⟩
  rcases offers.finish with ⟨ended, finished, endedInputs, complete⟩
  have sameInputs : ended.inputs = inputs := by
    rw [endedInputs, drawnInputs, baseInputs, ← List.map_eq_flatMap]
    rfl
  rw [sameInputs] at complete
  refine ⟨{ ended with inputs := ended.inputs ++ [⟨audioPath, []⟩] }, ?_, ?_, complete⟩
  · unfold drawAll
    rw [run_bind_of_ok baseRan, run_bind_of_ok ran, run_bind_of_ok finished, ← sameInputs]
    rfl
  · rw [← sameInputs]

end Builder

theorem plan_of_drawAll {checked : CheckedTimeline τ} {settings : Settings}
    {mainAssets : List (Asset (Clip τ) τ)} {layerAssets : List (Asset (Layer τ) τ)}
    {audioPath : String} {audioIndex : Nat} {after : Builder}
    (ran : Builder.drawAll settings checked.outputDuration mainAssets layerAssets audioPath {} =
      (.ok audioIndex, after)) :
    (planMontage checked settings mainAssets layerAssets audioPath).1 =
      .ok ⟨after.inputs, after.nodes, videoLabel, audioIndex, checked.outputDuration⟩ := by
  have unfolded : (Builder.drawAll settings checked.outputDuration mainAssets layerAssets
      audioPath).run.run {} = _ := ran
  simp only [planMontage, unfolded, Except.map]

theorem exists_drawAll_of_planned {checked : CheckedTimeline τ} {settings : Settings}
    {mainAssets : List (Asset (Clip τ) τ)} {layerAssets : List (Asset (Layer τ) τ)}
    {audioPath : String} {plan : Plan τ}
    (planned : (planMontage checked settings mainAssets layerAssets audioPath).1 = .ok plan) :
    ∃ audioIndex after, Builder.drawAll settings checked.outputDuration mainAssets layerAssets
      audioPath {} = (.ok audioIndex, after) := by
  unfold planMontage at planned
  dsimp only at planned
  rcases ran : (Builder.drawAll settings checked.outputDuration mainAssets layerAssets
    audioPath).run.run {} with ⟨misfit | audioIndex, after⟩
  · rw [ran] at planned
    cases planned
  · exact ⟨audioIndex, after, ran⟩

theorem duration_of_planMontage {checked : CheckedTimeline τ} {settings : Settings}
    {mainAssets : List (Asset (Clip τ) τ)} {layerAssets : List (Asset (Layer τ) τ)}
    {audioPath : String} {plan : Plan τ}
    (planned : (planMontage checked settings mainAssets layerAssets audioPath).1 = .ok plan) :
    plan.duration = checked.outputDuration := by
  obtain ⟨audioIndex, after, ran⟩ := exists_drawAll_of_planned planned
  cases planned.symm.trans (plan_of_drawAll ran)
  rfl

/-- Every montage whose numbers can be read and written has a plan, and it draws the scene. -/
theorem exists_plan (checked : CheckedTimeline τ) {settings : Settings} {canvas : Int × Int}
    (read : twoIntegers settings.canvas = .ok canvas) (mainAssets : List (Asset (Clip τ) τ))
    {layerAssets : List (Asset (Layer τ) τ)}
    (readable : ∀ asset ∈ layerAssets, asset.item.overlay.IsReadable)
    (writable : HasWritableNumbers canvas settings.fps mainAssets layerAssets)
    (audioPath : String) :
    ∃ plan, (planMontage checked settings mainAssets layerAssets audioPath).1 = .ok plan ∧
      plan.duration = checked.outputDuration ∧
      plan.Draws
        (sceneInputs canvas settings.fps checked.outputDuration mainAssets layerAssets)
        audioPath
        (scene canvas settings.fps checked.outputDuration mainAssets layerAssets) := by
  rcases Builder.drawAll_eq read checked.outputDuration mainAssets readable writable audioPath with
    ⟨after, ran, inputs, finished⟩
  exact ⟨_, plan_of_drawAll ran, rfl, ⟨inputs, rfl, rfl, finished⟩⟩

end Montage
