import Mathlib.Data.List.Forall2
import Montage.Proofs.Graph.SizedDrawing
import Montage.Proofs.Timeline.Accepted

/-! Laws of building. What holds of every single step of two builders, and of steps after each
other when it holds of each, holds of the building of two whole graphs whose assets differ in
their paths. -/

namespace Montage

/-- Something is to be seen of what is placed on a canvas. -/
theorem Builder.pos_of_placeOverlay {τ : Type} {overlay : Overlay τ} {canvas : List Value}
    {whole region : Region}
    (placed : placeOverlay overlay canvas = .ok (whole, some region)) :
    0 < region.width ∧ 0 < region.height := by
  unfold placeOverlay at placed
  simp only [bind_eq_ok_iff] at placed
  obtain ⟨_, _, _, _, _, _, _, _, _, _, _, _, canvasWidth, _, _, _, canvasHeight, _, placed⟩ :=
    placed
  obtain ⟨_, visible⟩ := Prod.mk.inj (Except.ok.inj placed)
  obtain ⟨wide, high, rfl⟩ := eq_of_visibleRegion? visible
  exact ⟨Int.sub_pos.mpr wide, Int.sub_pos.mpr high⟩

structure Asset.SameBut {item τ : Type} (paths : String → String → Prop)
    (asset other : Asset item τ) : Prop where
  item : other.item = asset.item
  window : other.window = asset.window
  path : paths asset.path other.path

structure BuildLaw (sizes : Extent → Prop) (paths : String → String → Prop)
    (Holds : ∀ {α : Type}, Build α → Build α → Prop) : Prop where
  pure : ∀ {α : Type} (value : α), Holds (Pure.pure value) (Pure.pure value)
  throw : ∀ {α : Type} (misfit : Misfit),
    Holds (MonadExcept.throw misfit : Build α) (MonadExcept.throw misfit)
  bind : ∀ {α β : Type} {step other : Build α} {next otherNext : α → Build β},
    Holds step other → (∀ value, Holds (next value) (otherNext value)) →
    Holds (step >>= next) (other >>= otherNext)
  addInput : ∀ {path other : String}, paths path other →
    Holds (Builder.addInput path) (Builder.addInput other)
  addSource : ∀ source : String,
    Holds (Builder.addInput source ["-f", "lavfi"]) (Builder.addInput source ["-f", "lavfi"])
  scale : ∀ (source : String) {width height : Int}, sizes (width, height) →
    Holds (Builder.add "scale" [source] [("w", .int width), ("h", .int height)])
      (Builder.add "scale" [source] [("w", .int width), ("h", .int height)])
  cropTo : ∀ (source : String) {region : Region}, 0 < region.width → 0 < region.height →
    Holds (Builder.cropTo source region) (Builder.cropTo source region)
  add : ∀ {kind : String}, kind ∉ ["scale", "crop"] →
    ∀ (inputs : List String) (options : List (String × Value)),
      Holds (Builder.add kind inputs options) (Builder.add kind inputs options)
  split : ∀ source : String, Holds (Builder.split source) (Builder.split source)
  finish : ∀ label : String, Holds (Builder.finish label) (Builder.finish label)
  noteOffCanvas : ∀ source : String,
    Holds (Builder.noteOffCanvas source) (Builder.noteOffCanvas source)

namespace BuildLaw

variable {sizes : Extent → Prop} {paths : String → String → Prop}
  {Holds : ∀ {α : Type}, Build α → Build α → Prop} {α β : Type}

/-- A number that cannot be read stops both. -/
theorem reading (law : BuildLaw sizes paths Holds) (result : Except Misfit α)
    {next otherNext : α → Build β}
    (each : ∀ value, result = .ok value → Holds (next value) (otherNext value)) :
    Holds (liftM result >>= next) (liftM result >>= otherNext) := by
  cases result with
  | error misfit => exact law.throw misfit
  | ok value => exact each value rfl

theorem foldlM (law : BuildLaw sizes paths Holds) {draw otherDraw : β → α → Build β}
    {items others : List α}
    (each : List.Forall₂
      (fun item other => ∀ state, Holds (draw state item) (otherDraw state other)) items others) :
    ∀ start, Holds (items.foldlM draw start) (others.foldlM otherDraw start) := by
  induction each with
  | nil => exact law.pure
  | cons first _ induction =>
      intro start
      rw [List.foldlM_cons, List.foldlM_cons]
      exact law.bind (first start) induction

/-! ## Filters -/

theorem scaleTo (law : BuildLaw sizes paths Holds) (source : String) {size : List Value}
    (allowed : ∀ extent, twoIntegers size = .ok extent → sizes extent) :
    Holds (Builder.scale source size) (Builder.scale source size) :=
  law.reading _ fun extent read => law.scale source (allowed extent read)

variable {τ : Type} [Quantity τ]

theorem shift (law : BuildLaw sizes paths Holds) (source : String) (start : τ) :
    Holds (Builder.shift source start) (Builder.shift source start) :=
  law.add (by decide) _ _

theorem alpha (law : BuildLaw sizes paths Holds) (source : String) (opacity : τ) :
    Holds (Builder.alpha source opacity) (Builder.alpha source opacity) :=
  law.bind (law.add (by decide) _ _) fun _ => law.add (by decide) _ _

theorem planar (law : BuildLaw sizes paths Holds) (source : String) :
    Holds (Builder.planar source) (Builder.planar source) :=
  law.bind (law.add (by decide) _ _) fun _ => law.add (by decide) _ _

theorem composite (law : BuildLaw sizes paths Holds) (base top : String) (position : List Value)
    (bounds : List τ) :
    Holds (Builder.composite base top position bounds)
      (Builder.composite base top position bounds) :=
  law.reading _ fun _ _ => law.reading _ fun _ _ => law.add (by decide) _ _

theorem cutLayer (law : BuildLaw sizes paths Holds) (layer : String) (whole : Region)
    {region : Region} (wide : 0 < region.width) (high : 0 < region.height) :
    Holds (Builder.cutLayer layer whole region) (Builder.cutLayer layer whole region) := by
  unfold Builder.cutLayer
  split
  · exact law.pure layer
  · exact law.cropTo layer wide high

theorem blendWithin (law : BuildLaw sizes paths Holds) (base layer : String) (overlay : Overlay τ)
    (bounds : List τ) (whole : Region) {region : Region} (wide : 0 < region.width)
    (high : 0 < region.height) :
    Holds (Builder.blendWithin base layer overlay bounds whole region)
      (Builder.blendWithin base layer overlay bounds whole region) :=
  law.bind (law.split base) fun copies =>
    law.bind (law.planar copies.2) fun planes => law.bind (law.cropTo planes wide high) fun _ =>
      law.bind (law.planar layer) fun flat => law.bind (law.cutLayer flat whole wide high) fun _ =>
        law.bind (law.add (by decide) _ _) fun _ => law.composite _ _ _ _

theorem blend (law : BuildLaw sizes paths Holds) (base layer : String) (overlay : Overlay τ)
    (bounds : List τ) (canvas : List Value) :
    Holds (Builder.blend base layer overlay bounds canvas)
      (Builder.blend base layer overlay bounds canvas) := by
  refine law.reading _ fun regions placed => ?_
  rcases regions with ⟨whole, _ | region⟩
  · exact law.pure none
  · obtain ⟨wide, high⟩ := Builder.pos_of_placeOverlay placed
    exact law.bind (law.blendWithin base layer overlay bounds whole wide high) fun _ => law.pure _

/-! ## Clips and layers -/

theorem drawMain (law : BuildLaw sizes paths Holds) {settings : Settings}
    (allowed : ∀ extent, twoIntegers settings.canvas = .ok extent → sizes extent)
    {asset other : Asset (Clip τ) τ} (same : asset.SameBut paths other) (below : String) :
    Holds (Builder.drawMain settings below asset) (Builder.drawMain settings below other) := by
  unfold Builder.drawMain
  rw [same.window]
  exact law.bind (law.addInput same.path) fun _ => law.bind (law.scaleTo _ allowed) fun _ =>
    law.bind (law.shift _ _) fun _ => law.composite _ _ _ _

theorem drawBase (law : BuildLaw sizes paths Holds) {settings : Settings}
    (allowed : ∀ extent, twoIntegers settings.canvas = .ok extent → sizes extent) (duration : τ)
    {assets others : List (Asset (Clip τ) τ)}
    (same : List.Forall₂ (Asset.SameBut paths) assets others) :
    Holds (Builder.drawBase settings duration assets)
      (Builder.drawBase settings duration others) := by
  have drawsAll := law.foldlM (same.imp fun _ _ each => law.drawMain allowed each)
  have onCanvas := law.reading (canvasSource settings.canvas duration settings.fps)
    fun source _ => law.bind (law.addSource source) fun index => drawsAll (inputLabel index)
  unfold Builder.drawBase
  match assets, others, same with
  | [], [], _ => exact onCanvas
  | [asset], [other], .cons each .nil =>
      dsimp only
      rw [each.window]
      split
      · exact law.bind (law.addInput each.path) fun _ => law.scaleTo _ allowed
      · exact onCanvas
  | _ :: _ :: _, _ :: _ :: _, _ => exact onCanvas

theorem drawLayer (law : BuildLaw sizes paths Holds) (settings : Settings)
    {asset other : Asset (Layer τ) τ} (same : asset.SameBut paths other)
    (allowed : ∀ extent, twoIntegers asset.item.overlay.size = .ok extent → sizes extent)
    (below : String) :
    Holds (Builder.drawLayer settings below asset) (Builder.drawLayer settings below other) := by
  have plain (placed : String) := law.bind (law.alpha placed asset.item.overlay.opacity)
    fun translucent => law.composite below translucent asset.item.overlay.position
      asset.window.bounds
  unfold Builder.drawLayer
  rw [same.item, same.window]
  refine law.bind (law.addInput same.path) fun _ => law.bind (law.scaleTo _ allowed) fun _ =>
    law.bind (law.shift _ _) fun placed => ?_
  split
  · exact plain placed
  · refine law.bind (law.blend _ _ _ _ _) fun blended => ?_
    cases blended with
    | none => exact law.bind (law.noteOffCanvas _) fun _ => plain placed
    | some blended => exact law.pure blended

/-- The building of two whole graphs. -/
theorem drawAll (law : BuildLaw sizes paths Holds) (settings : Settings)
    (canvasAllowed : ∀ extent, twoIntegers settings.canvas = .ok extent → sizes extent)
    (duration : τ) {mainAssets otherMain : List (Asset (Clip τ) τ)}
    (mainSame : List.Forall₂ (Asset.SameBut paths) mainAssets otherMain)
    {layerAssets otherLayers : List (Asset (Layer τ) τ)}
    (layersSame : List.Forall₂ (Asset.SameBut paths) layerAssets otherLayers)
    (layersAllowed : ∀ asset ∈ layerAssets, ∀ extent,
      twoIntegers asset.item.overlay.size = .ok extent → sizes extent)
    {audioPath otherAudio : String} (audioSame : paths audioPath otherAudio) :
    Holds (Builder.drawAll settings duration mainAssets layerAssets audioPath)
      (Builder.drawAll settings duration otherMain otherLayers otherAudio) := by
  have layers : List.Forall₂ (fun asset other => ∀ below,
      Holds (Builder.drawLayer settings below asset) (Builder.drawLayer settings below other))
      layerAssets otherLayers := by
    refine List.forall₂_iff_zip.mpr ⟨layersSame.length_eq, fun {asset other} member => ?_⟩
    exact law.drawLayer settings (List.forall₂_zip layersSame member)
      (layersAllowed asset (List.of_mem_zip member).1)
  exact law.bind (law.drawBase canvasAllowed duration mainSame) fun base =>
    law.bind (law.foldlM layers base) fun top => law.bind (law.finish top) fun _ =>
      law.addInput audioSame

end BuildLaw

end Montage
