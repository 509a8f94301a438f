import Montage.Proofs.Export.LastCall
import Montage.Proofs.Graph.BuildLaw
import Montage.Proofs.Graph.Readable

/-! Whether the numbers that a plan gives to ffmpeg are of any use: sizes and rates have to be
positive integers. All of them come from the canvas, the rate and the layers. -/

namespace Montage

def IsPositiveNumeral (text : String) : Prop :=
  ∃ number : Int, 0 < number ∧ text = integerText number

theorem isPositiveNumeral_integerText_iff {number : Int} :
    IsPositiveNumeral (integerText number) ↔ 0 < number := by
  constructor
  · rintro ⟨other, positive, same⟩
    have read := integerOf?_integerText number
    rw [same, integerOf?_integerText] at read
    exact Option.some.inj read ▸ positive
  · exact fun positive => ⟨number, positive, rfl⟩

def Node.HasUsableSize (node : Node) : Prop :=
  node.kind ∈ ["scale", "crop"] → ∃ width height,
    node.params.lookup "w" = some width ∧ node.params.lookup "h" = some height ∧
      IsPositiveNumeral width ∧ IsPositiveNumeral height

def Input.HasUsableSource (input : Input) : Prop :=
  input.options = ["-f", "lavfi"] → ∃ width height rate rest,
    input.path = "color=c=black:s=" ++ width ++ "x" ++ height ++ ":r=" ++ rate ++ ":d=" ++ rest ∧
      IsPositiveNumeral width ∧ IsPositiveNumeral height ∧ IsPositiveNumeral rate

/-- The rate that the last call is asked for. It stands near the end, before the length and the
output. -/
def rateAsked? (arguments : List String) : Option String :=
  match arguments.reverse with
  | _ :: "-y" :: _ :: "-t" :: rate :: "-r" :: _ => some rate
  | _ => none

structure UsableNumbers (inputs : List Input) (nodes : List Node) (arguments : List String) :
    Prop where
  sizes : ∀ node ∈ nodes, node.HasUsableSize
  sources : ∀ input ∈ inputs, input.HasUsableSource
  rate : ∃ rate, rateAsked? arguments = some rate ∧ IsPositiveNumeral rate

theorem rateAsked?_compositionArguments {τ : Type} [Quantity τ] {plan : Plan τ}
    {graphText output : String} {settings : Settings} {arguments : List String}
    (written : compositionArguments plan graphText output settings = .ok arguments) :
    rateAsked? arguments = some settings.fps.plain := by
  obtain ⟨-, rfl⟩ := compositionArguments_eq_ok_iff.mp written
  simp [rateAsked?, behindInputs]

/-! ## Usable sizes are built -/

def Extent.IsPositive (extent : Extent) : Prop :=
  0 < extent.1 ∧ 0 < extent.2

namespace Node

variable {inputs outputs : List String}

theorem hasUsableSize_scale_iff {width height : Int} :
    HasUsableSize ⟨"scale", inputs, [("w", integerText width), ("h", integerText height)],
      outputs⟩ ↔ 0 < width ∧ 0 < height := by
  simp [HasUsableSize, List.lookup_cons, isPositiveNumeral_integerText_iff]

theorem hasUsableSize_crop {region : Region} (wide : 0 < region.width) (high : 0 < region.height) :
    HasUsableSize ⟨"crop", inputs, [("w", integerText region.width),
      ("h", integerText region.height), ("x", integerText region.x),
      ("y", integerText region.y)], outputs⟩ := by
  simp [HasUsableSize, List.lookup_cons, isPositiveNumeral_integerText_iff, wide, high]

theorem hasUsableSize_of_other {kind : String} (other : kind ∉ ["scale", "crop"])
    (params : List (String × String)) : HasUsableSize ⟨kind, inputs, params, outputs⟩ :=
  fun sizes => absurd sizes other

end Node

namespace Builder

def KeepsUsable {α : Type} (step : Build α) : Prop :=
  ∀ builder : Builder, (∀ node ∈ builder.nodes, node.HasUsableSize) →
    ∀ node ∈ (step builder).2.nodes, node.HasUsableSize

namespace KeepsUsable

theorem bind {α β : Type} {step : Build α} {next : α → Build β} (keeps : KeepsUsable step)
    (nextKeeps : ∀ value, KeepsUsable (next value)) : KeepsUsable (step >>= next) := by
  intro builder usable
  have middleUsable := keeps builder usable
  rcases ran : step builder with ⟨misfit | value, middle⟩
  · rw [ran] at middleUsable
    rw [run_bind_of_error ran]
    exact middleUsable
  · rw [ran] at middleUsable
    rw [run_bind_of_ok ran]
    exact nextKeeps value middle middleUsable

theorem add {kind : String} {inputs : List String} {options : List (String × Value)}
    (usable : ∀ params, writeOptions options = .ok params → ∀ outputs,
      Node.HasUsableSize ⟨kind, inputs, params, outputs⟩) :
    KeepsUsable (Builder.add kind inputs options) := by
  intro builder before
  rw [add_eq]
  cases written : writeOptions options with
  | error misfit => exact before
  | ok params =>
      exact List.forall_mem_append.mpr
        ⟨before, List.forall_mem_singleton.mpr (usable params written _)⟩

theorem finish (label : String) : KeepsUsable (Builder.finish label) := by
  intro builder usable
  rcases builder.finish_cases label with ⟨after, ran, -, ends⟩
  rw [ran]
  rcases ends with ⟨before, last, nodes, -, renamed⟩ | passed
  · rw [nodes] at usable
    rw [renamed]
    refine List.forall_mem_append.mpr ⟨fun node member => usable node (by simp [member]), ?_⟩
    have lastUsable : last.HasUsableSize := usable last (by simp)
    exact List.forall_mem_singleton.mpr lastUsable
  · rw [passed]
    exact List.forall_mem_append.mpr ⟨usable,
      List.forall_mem_singleton.mpr (Node.hasUsableSize_of_other (by decide) [])⟩

/-- Of positive sizes only usable ones are made. -/
theorem law : BuildLaw Extent.IsPositive Eq fun step _ => KeepsUsable step where
  pure _ _ usable := usable
  throw _ _ usable := usable
  bind keeps nextKeeps := keeps.bind nextKeeps
  addInput _ _ usable := usable
  addSource _ _ usable := usable
  scale _ _ _ positive := add fun _ written _ => by
    obtain ⟨-, rfl⟩ := writeOptions_eq_ok_iff.mp written
    exact Node.hasUsableSize_scale_iff.mpr positive
  cropTo _ _ wide high := add fun _ written _ => by
    obtain ⟨-, rfl⟩ := writeOptions_eq_ok_iff.mp written
    exact Node.hasUsableSize_crop wide high
  add other _ _ := add fun params _ _ => Node.hasUsableSize_of_other other params
  split source builder usable := List.forall_mem_append.mpr ⟨usable,
    List.forall_mem_singleton.mpr (Node.hasUsableSize_of_other (by decide) _)⟩
  finish := finish
  noteOffCanvas _ _ usable := usable

end KeepsUsable

end Builder

/-! ## What is shown is done by a filter -/

namespace Picture

def changes : Picture → List (String × List (String × String))
  | .source _ => []
  | .changed kind params picture => (kind, params) :: picture.changes
  | .mixed _ base layer => base.changes ++ layer.changes
  | .drawn _ base top => base.changes ++ top.changes

end Picture

theorem Node.changes_of_shows {node : Node} {shown : String → Option Picture} {picture : Picture}
    (shows : node.shows shown = some picture) :
    ∀ change ∈ picture.changes, change = (node.kind, node.params) ∨
      ∃ label below, shown label = some below ∧ change ∈ below.changes := by
  intro change member
  unfold Node.shows at shows
  split at shows
  · rename_i source _
    split at shows
    · exact .inr ⟨source, picture, shows, member⟩
    · split at shows
      · obtain ⟨below, belowShown, rfl⟩ := Option.map_eq_some_iff.mp shows
        rcases List.mem_cons.mp member with new | old
        · exact .inl new
        · exact .inr ⟨source, below, belowShown, old⟩
      · cases shows
  · rename_i base top _
    obtain ⟨below, belowShown, shows⟩ := Option.bind_eq_some_iff.mp shows
    obtain ⟨above, aboveShown, shows⟩ := Option.bind_eq_some_iff.mp shows
    have either : change ∈ below.changes ∨ change ∈ above.changes := by
      split at shows
      · cases shows
        exact List.mem_append.mp member
      · split at shows
        · cases shows
          exact List.mem_append.mp member
        · cases shows
    rcases either with low | high
    · exact .inr ⟨base, below, belowShown, low⟩
    · exact .inr ⟨top, above, aboveShown, high⟩
  · cases shows

/-- Every change in what a stream shows is made by one of the filters. -/
theorem exists_node_of_mem_changes {inputs : List Input} {latestFirst : List Node} :
    ∀ {label : String} {picture : Picture}, shownBy inputs latestFirst label = some picture →
      ∀ change ∈ picture.changes, ∃ node ∈ latestFirst, change = (node.kind, node.params) := by
  induction latestFirst with
  | nil =>
      intro label picture shown change member
      obtain ⟨index, known, -, rfl⟩ := exists_of_inputShown shown
      cases member
  | cons node earlier induction =>
      intro label picture shown change member
      unfold shownBy at shown
      split at shown
      · rcases node.changes_of_shows shown change member with same | ⟨source, below, shows, old⟩
        · exact ⟨node, List.mem_cons_self, same⟩
        · obtain ⟨maker, isEarlier, same⟩ := induction shows change old
          exact ⟨maker, List.mem_cons_of_mem node isEarlier, same⟩
      · obtain ⟨maker, isEarlier, same⟩ := induction shown change member
        exact ⟨maker, List.mem_cons_of_mem node isEarlier, same⟩

variable {τ : Type} [Quantity τ] {canvas : Int × Int}

theorem changes_mainScene_subset (fps : Value) (duration : τ)
    (mainAssets : List (Asset (Clip τ) τ)) (layerAssets : List (Asset (Layer τ) τ)) :
    (mainScene canvas fps duration mainAssets).changes ⊆
      (scene canvas fps duration mainAssets layerAssets).changes := by
  have grows : ∀ base : Picture,
      base.changes ⊆ (layerAssets.foldl (layerOver canvas) base).changes := by
    induction layerAssets with
    | nil => exact fun base => List.Subset.refl _
    | cons asset rest induction =>
        intro base
        have drawnOver : base.changes ⊆ (layerOver canvas base asset).changes := by
          unfold layerOver
          dsimp only
          split <;> exact List.subset_append_left _ _
        exact List.Subset.trans drawnOver (induction _)
  exact grows _

/-- Where the base is a single clip, a filter scales it to the canvas. -/
theorem exists_scaling_of_shows {inputs : List Input} {nodes : List Node} {fps : Value}
    {duration : τ} {mainAssets : List (Asset (Clip τ) τ)} {layerAssets : List (Asset (Layer τ) τ)}
    (shows : pictureOf inputs nodes videoLabel =
      some (scene canvas fps duration mainAssets layerAssets))
    {asset : Asset (Clip τ) τ} (sole : soleClip? mainAssets = some asset) :
    ∃ sources outputs, ⟨"scale", sources,
      [("w", integerText canvas.1), ("h", integerText canvas.2)], outputs⟩ ∈ nodes := by
  have scaled : ("scale", [("w", integerText canvas.1), ("h", integerText canvas.2)]) ∈
      (mainScene canvas fps duration mainAssets).changes := by
    rw [mainScene, sole]
    exact List.mem_cons_self
  obtain ⟨⟨kind, sources, params, outputs⟩, member, same⟩ := exists_node_of_mem_changes shows _
    (changes_mainScene_subset fps duration mainAssets layerAssets scaled)
  cases same
  exact ⟨sources, outputs, List.mem_reverse.mp member⟩

/-! ## Sources of canvases -/

theorem isPositive_of_hasUsableSource (fps : Value) (duration : τ)
    (usable : (canvasInput canvas duration fps).HasUsableSource) : Extent.IsPositive canvas := by
  obtain ⟨width, height, rate, rest, path, ⟨across, wide, rfl⟩, ⟨down, high, rfl⟩, -⟩ :=
    usable rfl
  have lavfi : (canvasInput canvas duration fps).options = ["-f", "lavfi"] := rfl
  have read := extent?_canvasInput (fun _ => canvas) canvas duration fps
  rw [Input.extent?, if_pos lavfi, path, extentOfSource?_text] at read
  obtain rfl : (across, down) = canvas := Option.some.inj read
  exact ⟨wide, high⟩

theorem hasUsableSource_canvasInput {fps : Value} (positive : Extent.IsPositive canvas)
    (rate : IsPositiveNumeral fps.plain) (duration : τ) :
    (canvasInput canvas duration fps).HasUsableSource :=
  fun _ => ⟨_, _, _, _, rfl, isPositiveNumeral_integerText_iff.mpr positive.1,
    isPositiveNumeral_integerText_iff.mpr positive.2, rate⟩

theorem hasUsableSource_of_file (path : String) : Input.HasUsableSource ⟨path, []⟩ :=
  nofun

/-- A scene is drawn from its canvas and from files. -/
theorem canvas_or_file_of_mem_sceneInputs {fps : Value} {duration : τ}
    {mainAssets : List (Asset (Clip τ) τ)} {layerAssets : List (Asset (Layer τ) τ)} {input : Input}
    (member : input ∈ sceneInputs canvas fps duration mainAssets layerAssets) :
    input = canvasInput canvas duration fps ∨ ∃ path, input = ⟨path, []⟩ := by
  unfold sceneInputs mainInputs at member
  rcases List.mem_append.mp member with main | layer
  · split at main
    · exact .inr ⟨_, List.mem_singleton.mp main⟩
    · rcases List.mem_cons.mp main with isCanvas | clip
      · exact .inl isCanvas
      · obtain ⟨asset, -, rfl⟩ := List.mem_map.mp clip
        exact .inr ⟨asset.path, rfl⟩
  · obtain ⟨asset, -, rfl⟩ := List.mem_map.mp layer
    exact .inr ⟨asset.path, rfl⟩

/-! ## Plans -/

section

variable {checked : CheckedTimeline τ} {settings : Settings} {mainAssets : List (Asset (Clip τ) τ)}
  {layerAssets : List (Asset (Layer τ) τ)} {audioPath : String} {plan : Plan τ}

theorem hasUsableSize_of_planned
    (planned : (planMontage checked settings mainAssets layerAssets audioPath).1 = .ok plan)
    (canvasPositive : ∀ extent, twoIntegers settings.canvas = .ok extent →
      Extent.IsPositive extent)
    (layersPositive : ∀ asset ∈ layerAssets, ∀ extent,
      twoIntegers asset.item.overlay.size = .ok extent → Extent.IsPositive extent) :
    ∀ node ∈ plan.nodes, node.HasUsableSize := by
  obtain ⟨audioIndex, after, ran⟩ := exists_drawAll_of_planned planned
  have same {item : Type} (assets : List (Asset item τ)) :
      List.Forall₂ (Asset.SameBut Eq) assets assets :=
    List.forall₂_same.mpr fun _ _ => ⟨rfl, rfl, rfl⟩
  have keeps := Builder.KeepsUsable.law.drawAll settings canvasPositive checked.outputDuration
    (same mainAssets) (same layerAssets) layersPositive (Eq.refl audioPath) {} nofun
  rw [ran] at keeps
  cases planned.symm.trans (plan_of_drawAll ran)
  exact keeps

theorem isPositive_of_usable
    (planned : (planMontage checked settings mainAssets layerAssets audioPath).1 = .ok plan)
    (canvasRead : twoIntegers settings.canvas = .ok canvas)
    (sizes : ∀ node ∈ plan.nodes, node.HasUsableSize)
    (sources : ∀ input ∈ plan.inputs, input.HasUsableSource) : Extent.IsPositive canvas := by
  obtain ⟨read, canvasReadSo, -, draws⟩ := draws_of_planned planned
  cases canvasRead.symm.trans canvasReadSo
  cases sole : soleClip? mainAssets with
  | some asset =>
      obtain ⟨_, _, member⟩ := exists_scaling_of_shows draws.finished.shows sole
      exact Node.hasUsableSize_scale_iff.mp (sizes _ member)
  | none =>
      have member : canvasInput canvas checked.outputDuration settings.fps ∈ plan.inputs := by
        rw [draws.inputs_eq, sceneInputs, mainInputs, sole]
        exact List.mem_cons_self
      exact isPositive_of_hasUsableSource _ _ (sources _ member)

/-- The canvas and the rate decide whether the numbers of a plan are usable. -/
theorem usableNumbers_iff
    (planned : (planMontage checked settings mainAssets layerAssets audioPath).1 = .ok plan)
    (canvasRead : twoIntegers settings.canvas = .ok canvas)
    (layersPositive : ∀ asset ∈ layerAssets, ∀ extent,
      twoIntegers asset.item.overlay.size = .ok extent → Extent.IsPositive extent)
    {graphText output : String} {arguments : List String}
    (written : compositionArguments plan graphText output settings = .ok arguments) :
    UsableNumbers plan.inputs plan.nodes arguments ↔
      Extent.IsPositive canvas ∧ IsPositiveNumeral settings.fps.plain := by
  have asked := rateAsked?_compositionArguments written
  constructor
  · intro usable
    obtain ⟨rate, given, positive⟩ := usable.rate
    cases given.symm.trans asked
    exact ⟨isPositive_of_usable planned canvasRead usable.sizes usable.sources, positive⟩
  · rintro ⟨canvasPositive, ratePositive⟩
    refine ⟨hasUsableSize_of_planned planned ?_ layersPositive, ?_, _, asked, ratePositive⟩
    · intro extent read
      cases canvasRead.symm.trans read
      exact canvasPositive
    · obtain ⟨read, canvasReadSo, -, draws⟩ := draws_of_planned planned
      cases canvasRead.symm.trans canvasReadSo
      intro input member
      rw [draws.inputs_eq] at member
      rcases List.mem_append.mp member with ofScene | audio
      · rcases canvas_or_file_of_mem_sceneInputs ofScene with rfl | ⟨path, rfl⟩
        · exact hasUsableSource_canvasInput canvasPositive ratePositive _
        · exact hasUsableSource_of_file path
      · exact List.mem_singleton.mp audio ▸ hasUsableSource_of_file audioPath

end

end Montage
