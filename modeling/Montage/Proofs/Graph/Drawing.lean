import Montage.Proofs.Graph.Scene
import Montage.Proofs.Graph.Stream

/-! Building follows the scene: each filter, each clip and each layer turns the streams that
it reads into one that shows what the scene says. -/

namespace Montage

variable {τ : Type} [Quantity τ]

/-! ## Numbers that can be read -/

theorem canvasSource_eq {settings : Settings} {canvas : Int × Int}
    (read : twoIntegers settings.canvas = .ok canvas) (few : HaveFewDigits canvas)
    (rate : settings.fps.isWritable = true) (duration : τ) :
    canvasSource settings.canvas duration settings.fps =
      .ok (canvasInput canvas duration settings.fps).path := by
  unfold canvasSource
  rw [read, Value.write_eq_ok rate]
  dsimp only [bind, Except.bind]
  rw [Value.write_int few.1, Value.write_int few.2]
  rfl

omit [Quantity τ] in
theorem Builder.placeOverlay_eq {overlay : Overlay τ} (readable : overlay.IsReadable)
    {given : List Value} {canvas : Int × Int} (read : twoIntegers given = .ok canvas) :
    placeOverlay overlay given =
      .ok (overlay.rectangle, visibleRegion? overlay.rectangle.x overlay.rectangle.y
        overlay.rectangle.width overlay.rectangle.height canvas.1 canvas.2) := by
  rcases exists_of_twoIntegers readable.position with ⟨x, y, position, xRead, yRead⟩
  rcases exists_of_twoIntegers readable.size with ⟨width, height, size, widthRead, heightRead⟩
  rcases exists_of_twoIntegers read with
    ⟨canvasWidth, canvasHeight, canvas, canvasWidthRead, canvasHeightRead⟩
  unfold placeOverlay
  rw [position, size, canvas]
  simp only [twoOf, bind, Except.bind, pure, Except.pure, xRead, yRead, widthRead, heightRead,
    canvasWidthRead, canvasHeightRead]

theorem Builder.blend_eq {overlay : Overlay τ} (readable : overlay.IsReadable) {given : List Value}
    {canvas : Int × Int} (read : twoIntegers given = .ok canvas) (base layer : String)
    (bounds : List τ) :
    blend base layer overlay bounds given =
      match visibleRegion? overlay.rectangle.x overlay.rectangle.y overlay.rectangle.width
          overlay.rectangle.height canvas.1 canvas.2 with
      | none => pure none
      | some region => do
          return some (← blendWithin base layer overlay bounds overlay.rectangle region) := by
  unfold blend
  rw [placeOverlay_eq readable read]
  rfl

namespace Builder.Turns

/-! ## Filters -/

theorem scale {source : String} {size : List Value} {width height : Int}
    (read : twoIntegers size = .ok (width, height)) (few : HaveFewDigits (width, height))
    (picture : Picture) :
    Turns (Builder.scale source size) [(source, picture)] []
      fun label => [(label, picture.scaled width height)] := by
  unfold Builder.scale
  rw [read]
  exact change (by decide) source (writeOptions_pair few "w" "h" rfl) picture

theorem shift (source : String) (start : τ) (picture : Picture) :
    Turns (Builder.shift source start) [(source, picture)] []
      fun label => [(label, picture.delayed start)] :=
  change (by decide) source rfl picture

theorem alpha (source : String) (opacity : τ) (picture : Picture) :
    Turns (Builder.alpha source opacity) [(source, picture)] []
      fun label => [(label, picture.translucent opacity)] :=
  (change (by decide) source rfl picture).bind [] fun withAlpha =>
    change (by decide) withAlpha rfl _

theorem planar (source : String) (picture : Picture) :
    Turns (Builder.planar source) [(source, picture)] []
      fun label => [(label, picture.planar)] :=
  (change (by decide) source rfl picture).bind [] fun planes =>
    change (by decide) planes rfl _

theorem cropTo (source : String) {region : Region} (few : region.HasFewDigits)
    (picture : Picture) :
    Turns (Builder.cropTo source region) [(source, picture)] []
      fun label => [(label, picture.cut region)] :=
  change (by decide) source (writeOptions_region few) picture

theorem composite {base top : String} {position : List Value} {x y : Int}
    (read : twoIntegers position = .ok (x, y)) (few : HaveFewDigits (x, y)) (window : Window τ)
    (below above : Picture) :
    Turns (Builder.composite base top position window.bounds) [(base, below), (top, above)] []
      fun label => [(label, below.overlaid above x y window)] := by
  unfold Builder.composite
  rw [read]
  exact draw base top (writeOptions_pair few "x" "y" rfl) below above

/-! ## Clips -/

theorem place {α : Type} {path : String} {size : List Value} {width height : Int}
    (read : twoIntegers size = .ok (width, height)) (few : HaveFewDigits (width, height))
    (start : τ) {next : String → Build α} {reads : List Stream.Shown} {added : List Input}
    {gives : α → List Stream.Shown}
    (turnsNext : ∀ label, Turns (next label)
      ((label, .placed path width height start) :: reads) added gives) :
    Turns (do
        let index ← Builder.addInput path
        let scaled ← Builder.scale (inputLabel index) size
        let placed ← Builder.shift scaled start
        next placed) reads (⟨path, []⟩ :: added) gives :=
  (addInput path []).bind reads fun _ =>
    (scale read few _).bind reads fun scaled =>
      (shift scaled start _).bind reads turnsNext

section

variable {settings : Settings} {canvas : Int × Int}
  (read : twoIntegers settings.canvas = .ok canvas) (few : HaveFewDigits canvas)

include read few

theorem drawMain (label : String) (picture : Picture) (asset : Asset (Clip τ) τ) :
    Turns (Builder.drawMain settings label asset) [(label, picture)] [⟨asset.path, []⟩]
      fun next => [(next, mainOver canvas picture asset)] :=
  place read few asset.window.start fun _ =>
    (composite (twoIntegers_pairOf 0 0) (by decide) asset.window picture _).perm (.swap _ _ _)

theorem drawOnCanvas (rate : settings.fps.isWritable = true) (duration : τ)
    (assets : List (Asset (Clip τ) τ)) :
    Turns (do
        let index ← Builder.addInput (← canvasSource settings.canvas duration settings.fps)
          ["-f", "lavfi"]
        assets.foldlM (Builder.drawMain settings) (inputLabel index)) []
      (canvasInput canvas duration settings.fps :: assets.map (⟨·.path, []⟩))
      fun label => [(label, assets.foldl (mainOver canvas)
        (.source (canvasInput canvas duration settings.fps)))] := by
  rw [canvasSource_eq read few rate]
  have clips := foldlM assets fun label picture asset _ => drawMain read few label picture asset
  rw [List.map_eq_flatMap]
  exact (addInput _ _).bind [] fun index => clips (inputLabel index) _

theorem drawBase (duration : τ) {assets : List (Asset (Clip τ) τ)}
    (rate : soleClip? assets = none → settings.fps.isWritable = true) :
    Turns (Builder.drawBase settings duration assets) []
      (mainInputs canvas settings.fps duration assets)
      fun label => [(label, mainScene canvas settings.fps duration assets)] := by
  have onCanvas (writable : settings.fps.isWritable = true) :=
    drawOnCanvas read few writable duration assets
  unfold Builder.drawBase mainInputs mainScene
  match assets with
  | [] => exact onCanvas (rate rfl)
  | [asset] =>
      cases atOnce : Quantity.same asset.window.start (0.0 : τ) with
      | true =>
          simp only [soleClip?, atOnce, if_true]
          exact (addInput asset.path []).bind [] fun _ => scale read few _
      | false =>
          have notSole : soleClip? [asset] = none := by simp [soleClip?, atOnce]
          simp only [soleClip?, atOnce, if_false, Bool.false_eq_true]
          exact onCanvas (rate notSole)
  | first :: second :: rest => exact onCanvas (rate rfl)

end

/-! ## Layers -/

theorem drawPlain {overlay : Overlay τ} (readable : overlay.IsReadable)
    (few : overlay.rectangle.HasFewDigits) (window : Window τ) (below placed : String)
    (base layer : Picture) :
    Turns (do
        let translucent ← Builder.alpha placed overlay.opacity
        Builder.composite below translucent overlay.position window.bounds)
      [(placed, layer), (below, base)] []
      fun label => [(label, base.overlaid (layer.translucent overlay.opacity) overlay.rectangle.x
        overlay.rectangle.y window)] :=
  (alpha placed overlay.opacity layer).bind [(below, base)] fun _ =>
    (composite readable.position few.1 window base _).perm (.swap _ _ _)

theorem cutLayer (label : String) {whole region : Region}
    (few : Region.HasFewDigits { region with x := region.x - whole.x, y := region.y - whole.y })
    (layer : Picture) :
    Turns (Builder.cutLayer label whole region) [(label, layer)] []
      fun next => [(next,
        if (region.width, region.height) = (whole.width, whole.height) then layer
        else layer.cut { region with x := region.x - whole.x, y := region.y - whole.y })] := by
  unfold Builder.cutLayer
  by_cases same : (region.width, region.height) = (whole.width, whole.height)
  · simp only [if_pos same]
    exact pure label rfl
  · simp only [if_neg same]
    exact cropTo label few layer

theorem blendWithin (overlay : Overlay τ) (window : Window τ) {whole region : Region}
    (few : region.HasFewDigits)
    (cutFew : Region.HasFewDigits
      { region with x := region.x - whole.x, y := region.y - whole.y })
    (below placed : String) (base layer : Picture) :
    Turns (Builder.blendWithin below placed overlay window.bounds whole region)
      [(placed, layer), (below, base)] []
      fun label => [(label,
        base.overlaid (base.blended layer whole region overlay.blendMode overlay.opacity)
          region.x region.y window)] := by
  refine perm ((split below base).bind [(placed, layer)] fun copies => ?_) (.swap _ _ _)
  -- One copy is kept for the end; the region is cut out of the other one.
  refine perm ((planar copies.2 base).bind [(copies.1, base), (placed, layer)] fun planes =>
    (cropTo planes few _).bind [(copies.1, base), (placed, layer)] fun cutOut => ?_)
    (.swap _ _ _)
  refine perm ((planar placed layer).bind [(cutOut, _), (copies.1, base)] fun flat =>
    (cutLayer flat cutFew _).bind [(cutOut, _), (copies.1, base)] fun above => ?_)
    (List.perm_append_singleton (placed, layer) [(cutOut, _), (copies.1, base)])
  refine perm ((mix cutOut above rfl _ _).bind [(copies.1, base)] fun mixed => ?_) (.swap _ _ _)
  exact (composite (twoIntegers_pairOf region.x region.y) few.1 window base _).perm
    (.swap _ _ _)

theorem noteOffCanvas (source : String) :
    Turns (Builder.noteOffCanvas source) [] [] fun _ => [] :=
  fun builder _ offers =>
    ⟨(), _, rfl, ⟨offers.made, offers.accounted, offers.ordered, offers.makes, offers.shown⟩,
      by simp⟩

theorem drawLayer {settings : Settings} {canvas : Int × Int}
    (read : twoIntegers settings.canvas = .ok canvas) (canvasFew : HaveFewDigits canvas)
    (label : String) (picture : Picture) (asset : Asset (Layer τ) τ)
    (readable : asset.item.overlay.IsReadable)
    (few : asset.item.overlay.rectangle.HasFewDigits) :
    Turns (Builder.drawLayer settings label asset) [(label, picture)] [⟨asset.path, []⟩]
      fun next => [(next, layerOver canvas picture asset)] := by
  unfold Builder.drawLayer
  refine place readable.size few.2 asset.window.start fun placed => ?_
  have plain := drawPlain readable few asset.window label placed picture
    (.placed asset.path asset.item.overlay.rectangle.width asset.item.overlay.rectangle.height
      asset.window.start)
  by_cases normal : asset.item.overlay.blendMode = "normal"
  · simp only [layerOver, if_pos normal]
    exact plain
  · simp only [layerOver, if_neg normal]
    rw [blend_eq readable read]
    cases visible : visibleRegion? asset.item.overlay.rectangle.x asset.item.overlay.rectangle.y
        asset.item.overlay.rectangle.width asset.item.overlay.rectangle.height
        canvas.1 canvas.2 with
    | none => exact (noteOffCanvas asset.item.clip.source).bind _ fun _ => plain
    | some region =>
        simp only [bind_assoc, pure_bind]
        exact (blendWithin asset.item.overlay asset.window
          (Region.hasFewDigits_of_visible canvasFew visible)
          (Region.hasFewDigits_of_cut few.2 visible) label placed picture _).bind []
            fun blended => pure blended rfl

end Builder.Turns

end Montage
