import Montage.Proofs.Graph.Sizing

/-! Drawing keeps the sizes in agreement: the canvas or the sole clip, the clips and the layers
upon it, and the end of the graph. -/

namespace Montage

namespace Builder

variable {fileExtent : String → Extent} {canvas : Extent} {builder : Builder}

/-! ## What a layer shows -/

/-- What is visible of a rectangle lies on the canvas. -/
theorem liesIn_canvas_of_visibleRegion? {whole region : Region}
    (visible : visibleRegion? whole.x whole.y whole.width whole.height canvas.1 canvas.2 =
      some region) : region.LiesIn canvas := by
  rcases eq_of_visibleRegion? visible with ⟨wide, high, rfl⟩
  constructor <;> dsimp only <;> omega

/-- What is visible of a rectangle lies in it, seen from its own corner. -/
theorem liesIn_whole_of_visibleRegion? {whole region : Region}
    (visible : visibleRegion? whole.x whole.y whole.width whole.height canvas.1 canvas.2 =
      some region) :
    Region.LiesIn { region with x := region.x - whole.x, y := region.y - whole.y }
      (whole.width, whole.height) := by
  rcases eq_of_visibleRegion? visible with ⟨wide, high, rfl⟩
  constructor <;> dsimp only <;> omega

namespace Builds

variable {τ : Type} [Quantity τ]

/-! ## Clips -/

/-- A file is read, scaled and delayed; what comes next has it in its new size. -/
theorem place {α : Type} {path : String} {size : List Value} {width height : Int}
    (read : twoIntegers size = .ok (width, height)) (few : HaveFewDigits (width, height))
    (start : τ) {next : String → Build α} {needs : List Stream.Sized}
    {gives : α → List Stream.Sized}
    (buildsNext : ∀ label, Builds fileExtent canvas (next label)
      ((label, (width, height)) :: needs) gives) :
    Builds fileExtent canvas (do
        let index ← Builder.addInput path
        let scaled ← Builder.scale (inputLabel index) size
        let placed ← Builder.shift scaled start
        next placed) needs gives := by
  have file : Input.extent? fileExtent ⟨path, []⟩ = some (fileExtent path) := rfl
  refine ((addInput file).mono (by simp)).bind fun index => ?_
  refine ((scale read few (fileExtent path)).mono (by simp)).bind fun scaled => ?_
  refine ((shift scaled start (width, height)).mono (by simp)).bind fun placed => ?_
  exact (buildsNext placed).mono (by simp; tauto)

section

variable {settings : Settings} (read : twoIntegers settings.canvas = .ok canvas)
  (few : HaveFewDigits canvas)

include read few

theorem drawMain (label : String) (asset : Asset (Clip τ) τ) :
    Builds fileExtent canvas (Builder.drawMain settings label asset) [(label, canvas)]
      fun next => [(next, canvas)] :=
  place read few asset.window.start fun _ =>
    (composite (twoIntegers_pairOf 0 0) (by decide) asset.window canvas).mono (by simp)

theorem drawOnCanvas (rate : settings.fps.isWritable = true) (duration : τ)
    (assets : List (Asset (Clip τ) τ)) :
    Builds fileExtent canvas (do
        let index ← Builder.addInput (← canvasSource settings.canvas duration settings.fps)
          ["-f", "lavfi"]
        assets.foldlM (Builder.drawMain settings) (inputLabel index)) []
      fun label => [(label, canvas)] := by
  rw [canvasSource_eq read few rate]
  exact (addInput (extent?_canvasInput fileExtent canvas duration settings.fps)).bind fun index =>
    (foldlM assets fun label asset _ => drawMain read few label asset) (inputLabel index)

theorem drawBase (duration : τ) {assets : List (Asset (Clip τ) τ)}
    (rate : soleClip? assets = none → settings.fps.isWritable = true) :
    Builds fileExtent canvas (Builder.drawBase settings duration assets) []
      fun label => [(label, canvas)] := by
  unfold Builder.drawBase
  match assets with
  | [] => exact drawOnCanvas read few (rate rfl) duration []
  | [asset] =>
      simp only
      split
      · have file : Input.extent? fileExtent ⟨asset.path, []⟩ = some (fileExtent asset.path) := rfl
        exact (addInput file).bind fun _ =>
          (scale read few (fileExtent asset.path)).mono (by simp)
      · rename_i later
        have notSole : soleClip? [asset] = none := if_neg later
        exact drawOnCanvas read few (rate notSole) duration [asset]
  | first :: second :: rest =>
      exact drawOnCanvas read few (rate rfl) duration (first :: second :: rest)

end

/-! ## Layers -/

theorem drawPlain {overlay : Overlay τ} (readable : overlay.IsReadable)
    (few : overlay.rectangle.HasFewDigits) (window : Window τ) (below placed : String)
    (extent : Extent) :
    Builds fileExtent canvas (do
        let translucent ← Builder.alpha placed overlay.opacity
        Builder.composite below translucent overlay.position window.bounds)
      [(placed, extent), (below, canvas)] fun label => [(label, canvas)] :=
  ((alpha placed overlay.opacity extent).mono (by simp)).bind fun _ =>
    (composite readable.position few.1 window extent).mono (by simp)

/-- A layer that is not cut has the size of the region already. -/
theorem cutLayer (label : String) {whole region : Region}
    (few : Region.HasFewDigits { region with x := region.x - whole.x, y := region.y - whole.y })
    (lies : Region.LiesIn { region with x := region.x - whole.x, y := region.y - whole.y }
      (whole.width, whole.height)) :
    Builds fileExtent canvas (Builder.cutLayer label whole region)
      [(label, (whole.width, whole.height))]
      fun next => [(next, (region.width, region.height))] := by
  unfold Builder.cutLayer
  by_cases same : (region.width, region.height) = (whole.width, whole.height)
  · rw [if_pos same, same]
    exact pure label (by simp)
  · rw [if_neg same]
    exact cropTo few lies

theorem blendWithin (overlay : Overlay τ) (window : Window τ) {whole region : Region}
    (few : region.HasFewDigits)
    (cutFew : Region.HasFewDigits
      { region with x := region.x - whole.x, y := region.y - whole.y })
    (onCanvas : region.LiesIn canvas)
    (inWhole : Region.LiesIn { region with x := region.x - whole.x, y := region.y - whole.y }
      (whole.width, whole.height)) (below placed : String) :
    Builds fileExtent canvas
      (Builder.blendWithin below placed overlay window.bounds whole region)
      [(placed, (whole.width, whole.height)), (below, canvas)] fun label => [(label, canvas)] := by
  refine ((split below).mono (by simp)).bind fun copies => ?_
  refine ((planar copies.2 canvas).mono (by simp)).bind fun planes => ?_
  refine ((cropTo few onCanvas).mono (by simp)).bind fun cutOut => ?_
  refine ((planar placed (whole.width, whole.height)).mono (by simp)).bind fun flat => ?_
  refine ((cutLayer flat cutFew inWhole).mono (by simp)).bind fun above => ?_
  refine ((blend rfl (region.width, region.height)).mono (by simp)).bind fun mixed => ?_
  exact (composite (twoIntegers_pairOf region.x region.y) few.1 window
    (region.width, region.height)).mono (by simp)

theorem noteOffCanvas (source : String) :
    Builds fileExtent canvas (Builder.noteOffCanvas source) [] fun _ => [] :=
  fun _ sized _ =>
    ⟨(), _, rfl, ⟨sized.made, sized.sized, sized.fits⟩, fun _ there => there, by simp⟩

theorem drawLayer {settings : Settings} (read : twoIntegers settings.canvas = .ok canvas)
    (canvasFew : HaveFewDigits canvas) (label : String) (asset : Asset (Layer τ) τ)
    (readable : asset.item.overlay.IsReadable)
    (few : asset.item.overlay.rectangle.HasFewDigits) :
    Builds fileExtent canvas (Builder.drawLayer settings label asset) [(label, canvas)]
      fun next => [(next, canvas)] := by
  unfold Builder.drawLayer
  refine place readable.size few.2 asset.window.start fun placed => ?_
  have plain : Builds fileExtent canvas _ _ _ := drawPlain readable few asset.window label placed
    (asset.item.overlay.rectangle.width, asset.item.overlay.rectangle.height)
  by_cases normal : asset.item.overlay.blendMode = "normal"
  · simp only [if_pos normal]
    exact plain
  · simp only [if_neg normal]
    rw [blend_eq readable read]
    cases visible : visibleRegion? asset.item.overlay.rectangle.x asset.item.overlay.rectangle.y
        asset.item.overlay.rectangle.width asset.item.overlay.rectangle.height
        canvas.1 canvas.2 with
    | none =>
        exact ((noteOffCanvas asset.item.clip.source).mono (by simp)).bind fun _ =>
          plain.mono (by simp)
    | some region =>
        simp only [bind_assoc, pure_bind]
        exact (blendWithin asset.item.overlay asset.window
          (Region.hasFewDigits_of_visible canvasFew visible)
          (Region.hasFewDigits_of_cut few.2 visible)
          (liesIn_canvas_of_visibleRegion? visible) (liesIn_whole_of_visibleRegion? visible)
          label placed).bind fun blended => pure blended (by simp)

end Builds

/-! ## The end of the graph -/

namespace IsSized

/-- What is known of a stream stays true when later nodes make other streams. -/
theorem streamExtent?_append {inputs : List Input} {before after : List Node}
    (madeOnce : ((before ++ after).flatMap Node.outputs).Nodup)
    (noInput : ∀ index, inputLabel index ∉ (before ++ after).flatMap Node.outputs)
    {label : String} {extent : Extent}
    (sized : streamExtent? fileExtent inputs before label = some extent) :
    streamExtent? fileExtent inputs (before ++ after) label = some extent := by
  rcases Option.bind_eq_some_iff.mp sized with ⟨picture, shown, given⟩
  rw [List.flatMap_append] at madeOnce noInput
  have notMade : label ∉ after.flatMap Node.outputs := by
    intro made
    rcases made_or_input_of_pictureOf shown with earlier | ⟨index, rfl⟩
    · exact (List.nodup_append.mp madeOnce).2.2 label earlier label made rfl
    · exact noInput index (List.mem_append_right _ made)
  exact Option.bind_eq_some_iff.mpr
    ⟨picture, (pictureOf_append_of_not_made notMade).trans shown, given⟩

/-- Once the last node makes the video, the sizes agree. -/
theorem agree_of_last {inputs : List Input} {before : List Node} {last : Node} {drawn : Nat}
    (made : before.flatMap Node.outputs <+: (List.range drawn).map drawnLabel)
    (makesVideo : last.outputs = [videoLabel])
    (sized : ∀ label ∈ before.flatMap Node.outputs,
      ∃ extent, streamExtent? fileExtent inputs before label = some extent)
    (fits : ∀ earlier node after, before ++ [last] = earlier ++ node :: after →
      node.Fits canvas (streamExtent? fileExtent inputs earlier))
    {picture : Picture} (shows : last.shows (pictureOf inputs before) = some picture)
    (given : picture.extent? fileExtent = some canvas) :
    SizesAgree fileExtent canvas inputs (before ++ [last]) := by
  have outputs : (before ++ [last]).flatMap Node.outputs =
      before.flatMap Node.outputs ++ [videoLabel] := by
    simp [makesVideo]
  have isDrawn : ∀ label ∈ before.flatMap Node.outputs, ∃ number, label = drawnLabel number := by
    intro label member
    rcases List.mem_map.mp (made.subset member) with ⟨number, _, equal⟩
    exact ⟨number, equal.symm⟩
  have madeOnce : ((before ++ [last]).flatMap Node.outputs).Nodup := by
    rw [outputs, List.nodup_append]
    refine ⟨(List.nodup_range.map drawnLabel_injective).sublist made.sublist,
      List.nodup_singleton videoLabel, ?_⟩
    intro label member video isVideo
    rcases isDrawn label member with ⟨number, rfl⟩
    rw [List.mem_singleton.mp isVideo]
    exact drawnLabel_ne_videoLabel number
  have noInput : ∀ index, inputLabel index ∉ (before ++ [last]).flatMap Node.outputs := by
    intro index isMade
    rw [outputs] at isMade
    rcases List.mem_append.mp isMade with member | isVideo
    · rcases isDrawn _ member with ⟨number, equal⟩
      exact inputLabel_ne_drawnLabel index number equal
    · exact inputLabel_ne_videoLabel index (List.mem_singleton.mp isVideo)
  have video : streamExtent? fileExtent inputs (before ++ [last]) videoLabel = some canvas :=
    Option.bind_eq_some_iff.mpr
      ⟨picture, (pictureOf_append_of_mem (by simp [makesVideo])).trans shows, given⟩
  refine ⟨?_, ?_, video⟩
  · intro label member
    rw [outputs] at member
    rcases List.mem_append.mp member with earlier | isVideo
    · rcases sized label earlier with ⟨extent, labelSized⟩
      exact ⟨extent, streamExtent?_append madeOnce noInput labelSized⟩
    · exact ⟨canvas, List.mem_singleton.mp isVideo ▸ video⟩
  · intro node member
    rcases List.append_of_mem member with ⟨earlier, after, nodes⟩
    refine (fits earlier node after nodes).mono fun label extent sized => ?_
    rw [nodes] at madeOnce noInput ⊢
    exact streamExtent?_append madeOnce noInput sized

theorem agree_of_pass (sized : builder.IsSized fileExtent canvas) {top : String}
    (has : builder.Has fileExtent (top, canvas)) :
    SizesAgree fileExtent canvas builder.inputs
      (builder.nodes ++ [⟨"null", [top], [], [videoLabel]⟩]) := by
  rcases Option.bind_eq_some_iff.mp has with ⟨picture, shown, given⟩
  have made : builder.nodes.flatMap Node.outputs <+: (List.range builder.drawn).map drawnLabel := by
    simp only [sized.made, List.prefix_rfl]
  refine agree_of_last made rfl sized.sized ?_ shown given
  intro earlier node after nodes
  rcases last_or_earlier nodes with ⟨rfl, rfl⟩ | ⟨between, shorter⟩
  · exact Node.fits_of_plain (by decide) _ _ _ _ _
  · exact sized.fits earlier node between shorter

theorem agree_of_rename (sized : builder.IsSized fileExtent canvas) {top : String}
    (has : builder.Has fileExtent (top, canvas)) {before : List Node} {last : Node}
    (nodes : builder.nodes = before ++ [last]) (outputs : last.outputs = [top]) :
    SizesAgree fileExtent canvas builder.inputs
      (before ++ [{ last with outputs := [videoLabel] }]) := by
  rcases Option.bind_eq_some_iff.mp has with ⟨picture, shown, given⟩
  have shows : last.shows (pictureOf builder.inputs before) = some picture := by
    rwa [nodes, pictureOf_append_of_mem (by simp [outputs])] at shown
  have allMade : builder.nodes.flatMap Node.outputs =
      before.flatMap Node.outputs ++ last.outputs := by simp [nodes]
  have made : before.flatMap Node.outputs <+: (List.range builder.drawn).map drawnLabel := by
    rw [← sized.made, allMade]
    exact List.prefix_append _ _
  have earlierSized : ∀ label ∈ before.flatMap Node.outputs,
      ∃ extent, streamExtent? fileExtent builder.inputs before label = some extent := by
    intro label member
    have madeOnce : (before.flatMap Node.outputs ++ last.outputs).Nodup := by
      rw [← allMade, sized.made]
      exact List.nodup_range.map drawnLabel_injective
    have notMade : label ∉ last.outputs := fun again =>
      (List.nodup_append.mp madeOnce).2.2 label member label again rfl
    rcases sized.sized label (allMade ▸ List.mem_append_left _ member) with ⟨extent, known⟩
    unfold Has streamExtent? at known
    rw [nodes, pictureOf_append_of_not_mem notMade] at known
    exact ⟨extent, known⟩
  refine agree_of_last made rfl earlierSized ?_ shows given
  intro earlier node after equal
  rcases last_or_earlier equal with ⟨rfl, rfl⟩ | ⟨between, rfl⟩
  · have fits := sized.fits earlier last [] nodes
    exact ⟨fits.overlay, fits.split, fits.crop, fits.blend⟩
  · exact sized.fits earlier node (between ++ [last]) (by simp [nodes])

theorem finish (sized : builder.IsSized fileExtent canvas) {top : String}
    (has : builder.Has fileExtent (top, canvas)) :
    ∃ after, Builder.finish top builder = (.ok videoLabel, after) ∧
      SizesAgree fileExtent canvas after.inputs after.nodes := by
  rcases builder.finish_cases top with ⟨after, ran, inputs, ends⟩
  refine ⟨after, ran, ?_⟩
  rw [inputs]
  rcases ends with ⟨before, last, nodes, outputs, renamed⟩ | passed
  · rw [renamed]
    exact sized.agree_of_rename has nodes outputs
  · rw [passed]
    exact sized.agree_of_pass has

end IsSized

end Builder

theorem SizesAgree.append_inputs {fileExtent : String → Extent} {canvas : Extent}
    {inputs : List Input} {nodes : List Node} (agree : SizesAgree fileExtent canvas inputs nodes)
    (more : List Input) : SizesAgree fileExtent canvas (inputs ++ more) nodes where
  sized label made := by
    rcases agree.sized label made with ⟨extent, sized⟩
    exact ⟨extent, Builder.streamExtent?_append_inputs sized more⟩
  fits node member := (agree.fits node member).mono fun _ _ sized =>
    Builder.streamExtent?_append_inputs sized more
  video := Builder.streamExtent?_append_inputs agree.video more

/-- The sizes agree in every plan, whatever the sizes of the files are. -/
theorem exists_plan_sizesAgree {τ : Type} [Quantity τ] (fileExtent : String → Extent)
    (checked : CheckedTimeline τ) {settings : Settings} {canvas : Extent}
    (read : twoIntegers settings.canvas = .ok canvas) (mainAssets : List (Asset (Clip τ) τ))
    {layerAssets : List (Asset (Layer τ) τ)}
    (readable : ∀ asset ∈ layerAssets, asset.item.overlay.IsReadable)
    (writable : HasWritableNumbers canvas settings.fps mainAssets layerAssets)
    (audioPath : String) :
    ∃ plan, (planMontage checked settings mainAssets layerAssets audioPath).1 = .ok plan ∧
      SizesAgree fileExtent canvas plan.inputs plan.nodes := by
  have layers : ∀ label, Builder.Builds fileExtent canvas _ _ fun top => [(top, canvas)] :=
    Builder.Builds.foldlM layerAssets fun label asset member =>
      Builder.Builds.drawLayer read writable.canvas label asset (readable asset member)
        (writable.layers asset member)
  have draws := (Builder.Builds.drawBase read writable.canvas checked.outputDuration
    writable.rate).bind layers
  rcases draws {} (.empty fileExtent canvas) (by simp) with ⟨top, drawn, ran, sized, _, has⟩
  rcases sized.finish (has _ List.mem_cons_self) with ⟨ended, finished, agree⟩
  have ranAll : Builder.drawAll settings checked.outputDuration mainAssets layerAssets audioPath
      {} = (.ok ended.inputs.length,
        { ended with inputs := ended.inputs ++ [⟨audioPath, []⟩] }) := by
    unfold Builder.drawAll
    rw [← bind_assoc, run_bind_of_ok ran, run_bind_of_ok finished]
    rfl
  exact ⟨_, plan_of_drawAll ranAll, agree.append_inputs [⟨audioPath, []⟩]⟩

end Montage
