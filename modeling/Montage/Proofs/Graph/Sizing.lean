import Montage.Proofs.Graph.Compilation
import Montage.Proofs.Graph.Extent

/-! The sizes of the streams of a graph agree, however it is built: every step of building adds
filters that read streams of the sizes they need, and the streams that there were keep theirs. -/

namespace Montage

abbrev Stream.Sized := String × Extent

namespace Builder

variable {fileExtent : String → Extent} {canvas : Extent} {builder : Builder}

def Has (builder : Builder) (fileExtent : String → Extent) (stream : Stream.Sized) : Prop :=
  streamExtent? fileExtent builder.inputs builder.nodes stream.1 = some stream.2

structure IsSized (builder : Builder) (fileExtent : String → Extent) (canvas : Extent) :
    Prop where
  made : builder.nodes.flatMap Node.outputs = (List.range builder.drawn).map drawnLabel
  sized : ∀ label ∈ builder.nodes.flatMap Node.outputs,
    ∃ extent, builder.Has fileExtent (label, extent)
  fits : ∀ before node after, builder.nodes = before ++ node :: after →
    node.Fits canvas (streamExtent? fileExtent builder.inputs before)

def Keeps (before after : Builder) (fileExtent : String → Extent) : Prop :=
  ∀ stream, before.Has fileExtent stream → after.Has fileExtent stream

theorem streamExtent?_append_inputs {inputs : List Input} {nodes : List Node} {label : String}
    {extent : Extent} (sized : streamExtent? fileExtent inputs nodes label = some extent)
    (more : List Input) : streamExtent? fileExtent (inputs ++ more) nodes label = some extent := by
  rcases Option.bind_eq_some_iff.mp sized with ⟨picture, shown, given⟩
  exact Option.bind_eq_some_iff.mpr ⟨picture, pictureOf_append_inputs shown more, given⟩

namespace IsSized

theorem empty (fileExtent : String → Extent) (canvas : Extent) :
    IsSized {} fileExtent canvas where
  made := rfl
  sized := by simp
  fits before node after nodes := by cases before <;> cases nodes

/-- Labels that are still to be drawn are those of no stream. -/
theorem ne_drawnLabel (sized : builder.IsSized fileExtent canvas) {stream : Stream.Sized}
    (has : builder.Has fileExtent stream) {number : Nat} (new : builder.drawn ≤ number) :
    stream.1 ≠ drawnLabel number := by
  rcases Option.bind_eq_some_iff.mp has with ⟨picture, shown, _⟩
  rcases made_or_input_of_pictureOf shown with made | ⟨index, isInput⟩
  · rw [sized.made] at made
    rcases List.mem_map.mp made with ⟨earlier, less, isDrawn⟩
    rw [← isDrawn]
    intro equal
    have same := drawnLabel_injective equal
    have bound := List.mem_range.mp less
    omega
  · rw [isInput]
    exact inputLabel_ne_drawnLabel index number

theorem addInput (sized : builder.IsSized fileExtent canvas) {input : Input} {extent : Extent}
    (given : input.extent? fileExtent = some extent) :
    let after := { builder with inputs := builder.inputs ++ [input] }
    after.IsSized fileExtent canvas ∧ builder.Keeps after fileExtent ∧
      after.Has fileExtent (inputLabel builder.inputs.length, extent) := by
  refine ⟨⟨sized.made, ?_, ?_⟩, ?_, ?_⟩
  · intro label made
    rcases sized.sized label made with ⟨labelExtent, has⟩
    exact ⟨labelExtent, streamExtent?_append_inputs has [input]⟩
  · intro before node after nodes
    exact (sized.fits before node after nodes).mono fun label extent known =>
      streamExtent?_append_inputs known [input]
  · exact fun stream has => streamExtent?_append_inputs has [input]
  · have notMade : inputLabel builder.inputs.length ∉ builder.nodes.flatMap Node.outputs := by
      rw [sized.made]
      simpa using fun number _ equal => inputLabel_ne_drawnLabel _ number equal.symm
    exact Option.bind_eq_some_iff.mpr ⟨_, pictureOf_new_input builder.inputs input notMade, given⟩

/-- A new filter reads streams of the sizes that it needs, and makes streams under labels drawn
for it. -/
theorem addNode (sized : builder.IsSized fileExtent canvas) (node : Node) (count : Nat)
    (outputs : node.outputs =
      (List.range (count + 1)).map fun offset => drawnLabel (builder.drawn + offset))
    {picture : Picture} {extent : Extent}
    (shows : node.shows (pictureOf builder.inputs builder.nodes) = some picture)
    (given : picture.extent? fileExtent = some extent)
    (fits : node.Fits canvas (streamExtent? fileExtent builder.inputs builder.nodes)) :
    let after := { builder with
      nodes := builder.nodes ++ [node]
      drawn := builder.drawn + (count + 1) }
    after.IsSized fileExtent canvas ∧ builder.Keeps after fileExtent ∧
      ∀ label ∈ node.outputs, after.Has fileExtent (label, extent) := by
  intro after
  have keeps : builder.Keeps after fileExtent := by
    intro stream has
    have notMade : stream.1 ∉ node.outputs := by
      rw [outputs]
      simp only [List.mem_map, not_exists, not_and]
      exact fun offset _ equal => sized.ne_drawnLabel has (Nat.le_add_right _ offset) equal.symm
    unfold Has streamExtent?
    rw [pictureOf_append_of_not_mem notMade]
    exact has
  have new : ∀ label ∈ node.outputs, after.Has fileExtent (label, extent) := fun label made =>
    Option.bind_eq_some_iff.mpr ⟨picture, (pictureOf_append_of_mem made).trans shows, given⟩
  refine ⟨⟨?_, ?_, ?_⟩, keeps, new⟩
  · simp only [after, List.flatMap_append, List.flatMap_singleton, sized.made, outputs,
      List.range_add, List.map_append, List.map_map]
    rfl
  · intro label made
    rw [List.flatMap_append, List.flatMap_singleton, List.mem_append] at made
    rcases made with old | made
    · rcases sized.sized label old with ⟨oldExtent, has⟩
      exact ⟨oldExtent, keeps (label, oldExtent) has⟩
    · exact ⟨extent, new label made⟩
  · intro before last later nodes
    rcases last_or_earlier nodes with ⟨rfl, rfl⟩ | ⟨between, shorter⟩
    · exact fits
    · exact sized.fits before last between shorter

end IsSized

/-! ## Steps -/

def Builds (fileExtent : String → Extent) (canvas : Extent) {α : Type} (step : Build α)
    (needs : List Stream.Sized) (gives : α → List Stream.Sized) : Prop :=
  ∀ builder : Builder, builder.IsSized fileExtent canvas →
    (∀ stream ∈ needs, builder.Has fileExtent stream) →
    ∃ value after, step builder = (.ok value, after) ∧ after.IsSized fileExtent canvas ∧
      builder.Keeps after fileExtent ∧ ∀ stream ∈ gives value, after.Has fileExtent stream

namespace Builds

variable {α β : Type} {step : Build α} {needs more : List Stream.Sized}
  {gives : α → List Stream.Sized}

theorem pure (value : α) (given : ∀ stream ∈ gives value, stream ∈ needs) :
    Builds fileExtent canvas (Pure.pure value) needs gives :=
  fun builder sized has => ⟨value, builder, rfl, sized, fun _ there => there,
    fun stream member => has stream (given stream member)⟩

theorem mono (builds : Builds fileExtent canvas step needs gives)
    (wider : ∀ stream ∈ needs, stream ∈ more) : Builds fileExtent canvas step more gives :=
  fun builder sized has => builds builder sized fun stream member =>
    has stream (wider stream member)

/-- What a step needed is still there for the next one. -/
theorem bind {next : α → Build β} {givesNext : β → List Stream.Sized}
    (builds : Builds fileExtent canvas step needs gives)
    (buildsNext : ∀ value, Builds fileExtent canvas (next value) (gives value ++ needs) givesNext) :
    Builds fileExtent canvas (step >>= next) needs givesNext := by
  intro builder sized has
  rcases builds builder sized has with ⟨value, middle, ran, middleSized, keeps, given⟩
  have hasNext : ∀ stream ∈ gives value ++ needs, middle.Has fileExtent stream := by
    intro stream member
    rcases List.mem_append.mp member with new | old
    · exact given stream new
    · exact keeps stream (has stream old)
  rcases buildsNext value middle middleSized hasNext with
    ⟨last, after, ranNext, afterSized, keepsNext, givenNext⟩
  exact ⟨last, after, (run_bind_of_ok ran next).trans ranNext, afterSized,
    fun stream there => keepsNext stream (keeps stream there), givenNext⟩

theorem foldlM {draw : String → β → Build String} (items : List β)
    (each : ∀ label, ∀ item ∈ items,
      Builds fileExtent canvas (draw label item) [(label, canvas)] fun next => [(next, canvas)]) :
    ∀ label, Builds fileExtent canvas (items.foldlM draw label) [(label, canvas)]
      fun last => [(last, canvas)] := by
  induction items with
  | nil => exact fun label => pure label fun _ member => member
  | cons item rest induction =>
      intro label
      rw [List.foldlM_cons]
      refine (each label item List.mem_cons_self).bind fun next => ?_
      exact (induction (fun label other member =>
        each label other (List.mem_cons_of_mem item member)) next).mono (by simp)

/-! ## Inputs and filters -/

theorem addInput {path : String} {options : List String} {extent : Extent}
    (given : Input.extent? fileExtent ⟨path, options⟩ = some extent) :
    Builds fileExtent canvas (Builder.addInput path options) []
      fun index => [(inputLabel index, extent)] := by
  intro builder sized _
  rcases sized.addInput given with ⟨afterSized, keeps, has⟩
  exact ⟨builder.inputs.length, _, rfl, afterSized, keeps, by simpa using has⟩

/-- A filter whose picture has a size, given those of the pictures that it reads. -/
theorem add {kind : String} {inputs : List String} {options : List (String × Value)}
    {params : List (String × String)} {extent : Extent}
    (written : writeOptions options = .ok params)
    (shows : ∀ (shown : String → Option Picture) (outputs : List String),
      (∀ stream ∈ needs,
        (shown stream.1).bind (Picture.extent? fileExtent) = some stream.2) →
      (∃ picture, Node.shows ⟨kind, inputs, params, outputs⟩ shown = some picture ∧
        picture.extent? fileExtent = some extent) ∧
      Node.Fits ⟨kind, inputs, params, outputs⟩ canvas fun label =>
        (shown label).bind (Picture.extent? fileExtent)) :
    Builds fileExtent canvas (Builder.add kind inputs options) needs
      fun label => [(label, extent)] := by
  intro builder sized has
  rcases shows (pictureOf builder.inputs builder.nodes) [drawnLabel builder.drawn] has with
    ⟨⟨picture, shown, given⟩, fits⟩
  rcases sized.addNode ⟨kind, inputs, params, [drawnLabel builder.drawn]⟩ 0 rfl shown given fits
    with ⟨afterSized, keeps, made⟩
  exact ⟨drawnLabel builder.drawn, _, add_of_written written builder, afterSized, keeps,
    by simpa [withNode] using made⟩

theorem change {kind : String} (changes : kind ∈ changingKinds) {source : String}
    {options : List (String × Value)} {params : List (String × String)} {before after : Extent}
    (written : writeOptions options = .ok params)
    (sizes : ∀ picture : Picture, picture.extent? fileExtent = some before →
      (Picture.changed kind params picture).extent? fileExtent = some after)
    (fits : ∀ (extentOf : String → Option Extent) (outputs : List String),
      extentOf source = some before →
      Node.Fits ⟨kind, [source], params, outputs⟩ canvas extentOf) :
    Builds fileExtent canvas (Builder.add kind [source] options) [(source, before)]
      fun label => [(label, after)] := by
  refine add written fun shown outputs has => ?_
  have sourceHas := has (source, before) List.mem_cons_self
  rcases Option.bind_eq_some_iff.mp sourceHas with ⟨picture, sourceShown, given⟩
  exact ⟨⟨_, Node.shows_changed changes params outputs sourceShown, sizes picture given⟩,
    fits _ outputs sourceHas⟩

/-- A filter that asks nothing and keeps the size. -/
theorem keep {kind : String} (plain : kind ∈ ["setpts", "format", "setsar", "colorchannelmixer"])
    (source : String) {options : List (String × Value)} {params : List (String × String)}
    (written : writeOptions options = .ok params) (extent : Extent) :
    Builds fileExtent canvas (Builder.add kind [source] options) [(source, extent)]
      fun label => [(label, extent)] := by
  simp only [List.mem_cons, List.not_mem_nil, or_false] at plain
  have changes : kind ∈ changingKinds := by
    rcases plain with rfl | rfl | rfl | rfl <;> decide
  have asksNothing : kind ∉ ["overlay", "split", "crop", "blend"] := by
    rcases plain with rfl | rfl | rfl | rfl <;> decide
  have sameSize : ¬ (kind = "scale" ∨ kind = "crop") := by
    rcases plain with rfl | rfl | rfl | rfl <;> decide
  refine change changes written ?_ fun _ _ _ => Node.fits_of_plain asksNothing _ _ _ _ _
  intro picture given
  rwa [Picture.extent?, if_neg sameSize]

theorem scale {source : String} {size : List Value} {width height : Int}
    (read : twoIntegers size = .ok (width, height)) (few : HaveFewDigits (width, height))
    (extent : Extent) :
    Builds fileExtent canvas (Builder.scale source size) [(source, extent)]
      fun label => [(label, (width, height))] := by
  unfold Builder.scale
  rw [read]
  exact change (by decide) (writeOptions_pair few "w" "h" rfl)
    (fun _ _ => extentParams?_scaled width height)
    fun _ _ _ => Node.fits_of_plain (by decide) _ _ _ _ _

theorem cropTo {source : String} {region : Region} {extent : Extent}
    (few : region.HasFewDigits) (lies : region.LiesIn extent) :
    Builds fileExtent canvas (Builder.cropTo source region) [(source, extent)]
      fun label => [(label, (region.width, region.height))] :=
  change (by decide) (writeOptions_region few) (fun _ _ => extentParams?_cut region)
    fun _ _ sized => Node.fits_crop sized (regionParams?_cut region) lies

theorem blend {below above : String} {options : List (String × Value)}
    {params : List (String × String)} (written : writeOptions options = .ok params)
    (extent : Extent) :
    Builds fileExtent canvas (Builder.add "blend" [below, above] options)
      [(below, extent), (above, extent)] fun label => [(label, extent)] := by
  refine add written fun shown outputs has => ?_
  have belowHas := has (below, extent) (by simp)
  have aboveHas := has (above, extent) (by simp)
  rcases Option.bind_eq_some_iff.mp belowHas with ⟨lower, lowerShown, given⟩
  rcases Option.bind_eq_some_iff.mp aboveHas with ⟨upper, upperShown, _⟩
  exact ⟨⟨_, Node.shows_mixed params outputs lowerShown upperShown, given⟩,
    Node.fits_blend belowHas aboveHas⟩

theorem overlay {base top : String} {options : List (String × Value)}
    {params : List (String × String)} (written : writeOptions options = .ok params)
    (extent : Extent) :
    Builds fileExtent canvas (Builder.add "overlay" [base, top] options)
      [(base, canvas), (top, extent)] fun label => [(label, canvas)] := by
  refine add written fun shown outputs has => ?_
  have baseHas := has (base, canvas) (by simp)
  rcases Option.bind_eq_some_iff.mp baseHas with ⟨lower, lowerShown, given⟩
  rcases Option.bind_eq_some_iff.mp (has (top, extent) (by simp)) with ⟨upper, upperShown, _⟩
  exact ⟨⟨_, Node.shows_drawn params outputs lowerShown upperShown, given⟩,
    Node.fits_overlay baseHas top⟩

theorem split (source : String) :
    Builds fileExtent canvas (Builder.split source) [(source, canvas)]
      fun copies => [(copies.1, canvas), (copies.2, canvas)] := by
  intro builder sized has
  have sourceHas := has (source, canvas) List.mem_cons_self
  rcases Option.bind_eq_some_iff.mp sourceHas with ⟨picture, shown, given⟩
  rcases sized.addNode ⟨"split", [source], [("outputs", "2")],
    [drawnLabel builder.drawn, drawnLabel (builder.drawn + 1)]⟩ 1 rfl shown given
    (Node.fits_split sourceHas) with ⟨afterSized, keeps, made⟩
  exact ⟨(drawnLabel builder.drawn, drawnLabel (builder.drawn + 1)), _, rfl, afterSized, keeps,
    by simpa using made⟩

variable {τ : Type} [Quantity τ]

theorem shift (source : String) (start : τ) (extent : Extent) :
    Builds fileExtent canvas (Builder.shift source start) [(source, extent)]
      fun label => [(label, extent)] :=
  keep (by decide) source rfl extent

theorem alpha (source : String) (opacity : τ) (extent : Extent) :
    Builds fileExtent canvas (Builder.alpha source opacity) [(source, extent)]
      fun label => [(label, extent)] :=
  (keep (by decide) source rfl extent).bind fun withAlpha =>
    (keep (by decide) withAlpha rfl extent).mono (by simp)

theorem planar (source : String) (extent : Extent) :
    Builds fileExtent canvas (Builder.planar source) [(source, extent)]
      fun label => [(label, extent)] :=
  (keep (by decide) source rfl extent).bind fun planes =>
    (keep (by decide) planes rfl extent).mono (by simp)

theorem composite {base top : String} {position : List Value} {x y : Int}
    (read : twoIntegers position = .ok (x, y)) (few : HaveFewDigits (x, y)) (window : Window τ)
    (extent : Extent) :
    Builds fileExtent canvas (Builder.composite base top position window.bounds)
      [(base, canvas), (top, extent)] fun label => [(label, canvas)] := by
  unfold Builder.composite
  rw [read]
  exact overlay (writeOptions_pair few "x" "y" rfl) extent

end Builds

end Builder

end Montage
