import Montage.Proofs.Graph.BuildLaw

/-! Plans of the same assets under other paths. The paths appear among the inputs and nowhere
else, so that the graph and all that is asked of the last call besides stay as they are. -/

namespace Montage

structure Input.SameBut (paths : String → String → Prop) (input other : Input) : Prop where
  options : other.options = input.options
  path : paths input.path other.path

structure Builder.SameBut (paths : String → String → Prop) (builder other : Builder) : Prop where
  inputs : List.Forall₂ (Input.SameBut paths) builder.inputs other.inputs
  nodes : other.nodes = builder.nodes
  drawn : other.drawn = builder.drawn
  offCanvas : other.offCanvas = builder.offCanvas

structure Plan.SameBut {τ : Type} (paths : String → String → Prop) (plan other : Plan τ) :
    Prop where
  inputs : List.Forall₂ (Input.SameBut paths) plan.inputs other.inputs
  nodes : other.nodes = plan.nodes
  videoLabel : other.videoLabel = plan.videoLabel
  audioIndex : other.audioIndex = plan.audioIndex
  duration : other.duration = plan.duration

namespace Builder

variable {paths : String → String → Prop}

def StepsAlike (paths : String → String → Prop) {α : Type} (step other : Build α) : Prop :=
  ∀ builder otherBuilder : Builder, builder.SameBut paths otherBuilder →
    (other otherBuilder).1 = (step builder).1 ∧
      (step builder).2.SameBut paths (other otherBuilder).2

namespace StepsAlike

theorem bind {α β : Type} {step other : Build α} {next otherNext : α → Build β}
    (alike : StepsAlike paths step other)
    (nextAlike : ∀ value, StepsAlike paths (next value) (otherNext value)) :
    StepsAlike paths (step >>= next) (other >>= otherNext) := by
  intro builder otherBuilder same
  obtain ⟨result, after⟩ := alike builder otherBuilder same
  rcases ran : step builder with ⟨misfit | value, middle⟩
  all_goals
    rcases otherRan : other otherBuilder with ⟨otherResult, otherMiddle⟩
    rw [ran, otherRan] at result after
    cases result
  · rw [run_bind_of_error ran, run_bind_of_error otherRan]
    exact ⟨rfl, after⟩
  · rw [run_bind_of_ok ran, run_bind_of_ok otherRan]
    exact nextAlike value middle otherMiddle after

theorem addInput {path other : String} (related : paths path other) (options : List String) :
    StepsAlike paths (Builder.addInput path options) (Builder.addInput other options) := by
  intro builder otherBuilder same
  refine ⟨congrArg Except.ok same.inputs.length_eq.symm, ?_⟩
  exact ⟨List.rel_append same.inputs (.cons ⟨rfl, related⟩ .nil), same.nodes, same.drawn,
    same.offCanvas⟩

/-- What does not touch the inputs and does not look at them. -/
theorem of_congr {α : Type} {step : Build α}
    (keeps : ∀ (builder : Builder) (inputs : List Input), step { builder with inputs } =
      ((step builder).1, { (step builder).2 with inputs })) :
    StepsAlike paths step step := by
  rintro builder ⟨inputs, nodes, drawn, offCanvas⟩ ⟨related, rfl, rfl, rfl⟩
  have here := keeps builder builder.inputs
  rw [keeps builder inputs]
  have unchanged : (step builder).2.inputs = builder.inputs := by
    rw [here]
  exact ⟨rfl, unchanged ▸ related, rfl, rfl, rfl⟩

theorem add_inputs (kind : String) (sources : List String) (options : List (String × Value))
    (builder : Builder) (inputs : List Input) :
    Builder.add kind sources options { builder with inputs } =
      ((Builder.add kind sources options builder).1,
        { (Builder.add kind sources options builder).2 with inputs }) := by
  rw [add_eq, add_eq]
  cases writeOptions options <;> rfl

/-- What ends up in the graph does not depend on the inputs. -/
theorem finish_inputs (label : String) (builder : Builder) (inputs : List Input) :
    Builder.finish label { builder with inputs } =
      ((Builder.finish label builder).1, { (Builder.finish label builder).2 with inputs }) := by
  rw [finish_eq, finish_eq]

theorem law (unchanged : ∀ path, paths path path) :
    BuildLaw (fun _ => True) paths (StepsAlike paths) where
  pure _ _ _ same := ⟨rfl, same⟩
  throw _ _ _ same := ⟨rfl, same⟩
  bind alike nextAlike := alike.bind nextAlike
  addInput related := addInput related []
  addSource source := addInput (unchanged source) _
  scale _ _ _ _ := of_congr (add_inputs _ _ _)
  cropTo _ _ _ _ := of_congr (add_inputs _ _ _)
  add _ _ _ := of_congr (add_inputs _ _ _)
  split _ := of_congr fun _ _ => rfl
  finish label := of_congr (finish_inputs label)
  noteOffCanvas _ := of_congr fun _ _ => rfl

end StepsAlike

end Builder

section

variable {τ : Type} [Quantity τ] {paths : String → String → Prop}

inductive PlannedAlike (paths : String → String → Prop) :
    Except Misfit (Plan τ) × List String → Except Misfit (Plan τ) × List String → Prop
  | stopped (misfit : Misfit) (offCanvas : List String) :
      PlannedAlike paths (.error misfit, offCanvas) (.error misfit, offCanvas)
  | planned {plan other : Plan τ} (same : plan.SameBut paths other) (offCanvas : List String) :
      PlannedAlike paths (.ok plan, offCanvas) (.ok other, offCanvas)

theorem planMontage_eq (checked : CheckedTimeline τ) (settings : Settings)
    (mainAssets : List (Asset (Clip τ) τ)) (layerAssets : List (Asset (Layer τ) τ))
    (audioPath : String) :
    let drawn := Builder.drawAll settings checked.outputDuration mainAssets layerAssets audioPath {}
    planMontage checked settings mainAssets layerAssets audioPath =
      (drawn.1.map fun audioIndex => ⟨drawn.2.inputs, drawn.2.nodes, videoLabel, audioIndex,
        checked.outputDuration⟩, drawn.2.offCanvas) := rfl

theorem planMontage_alike (unchanged : ∀ path, paths path path) {checked other : CheckedTimeline τ}
    (duration : other.outputDuration = checked.outputDuration) (settings : Settings)
    {mainAssets otherMain : List (Asset (Clip τ) τ)}
    (mainSame : List.Forall₂ (Asset.SameBut paths) mainAssets otherMain)
    {layerAssets otherLayers : List (Asset (Layer τ) τ)}
    (layersSame : List.Forall₂ (Asset.SameBut paths) layerAssets otherLayers)
    (audioPath : String) :
    PlannedAlike paths (planMontage checked settings mainAssets layerAssets audioPath)
      (planMontage other settings otherMain otherLayers audioPath) := by
  have start : Builder.SameBut paths {} {} := ⟨.nil, rfl, rfl, rfl⟩
  obtain ⟨result, after⟩ := (Builder.StepsAlike.law unchanged).drawAll settings
    (fun _ _ => trivial) checked.outputDuration mainSame layersSame (fun _ _ _ _ => trivial)
    (unchanged audioPath) {} {} start
  rw [planMontage_eq, planMontage_eq, duration, result, after.offCanvas]
  generalize Builder.drawAll settings checked.outputDuration mainAssets layerAssets audioPath {} =
    drawn at after
  rcases drawn with ⟨misfit | audioIndex, builder⟩
  · exact .stopped misfit builder.offCanvas
  · refine .planned ?_ builder.offCanvas
    exact ⟨after.inputs, after.nodes, rfl, rfl, rfl⟩

end

end Montage
