import Montage.Proofs.Graph.Readable

/-! What stops the planning of a montage whose canvas and layers can be read: nothing but an
integer that has too many digits to be written. -/

namespace Montage

variable {τ : Type} [Quantity τ]

namespace Builder

def OnlyOverlong {α : Type} (step : Build α) : Prop :=
  ∀ builder misfit, (step builder).1 = .error misfit → misfit = .tooManyDigits

namespace OnlyOverlong

variable {α β : Type}

theorem pure (value : α) : OnlyOverlong (Pure.pure value) :=
  fun _ _ => nofun

theorem bind {step : Build α} {next : α → Build β} (early : OnlyOverlong step)
    (late : ∀ value, OnlyOverlong (next value)) : OnlyOverlong (step >>= next) := by
  intro builder misfit stopped
  rcases ran : step builder with ⟨problem | value, middle⟩
  · rw [run_bind_of_error ran] at stopped
    cases stopped
    exact early builder misfit (congrArg Prod.fst ran)
  · rw [run_bind_of_ok ran] at stopped
    exact late value middle misfit stopped

/-- What can be read does not stop a step. -/
theorem reading {result : Except Misfit α} {value : α} (read : result = .ok value)
    {next : α → Build β} (late : OnlyOverlong (next value)) :
    OnlyOverlong (liftM result >>= next) := by
  rw [read]
  exact late

theorem foldlM {draw : β → α → Build β} {items : List α}
    (each : ∀ state, ∀ item ∈ items, OnlyOverlong (draw state item)) :
    ∀ start, OnlyOverlong (items.foldlM draw start) := by
  induction items with
  | nil => exact pure
  | cons first rest induction =>
      intro start
      rw [List.foldlM_cons]
      exact (each start first List.mem_cons_self).bind
        (induction fun state item member => each state item (List.mem_cons_of_mem first member))

theorem writing (value : Value) {misfit : Misfit} (stopped : value.write = .error misfit) :
    misfit = .tooManyDigits := by
  unfold Value.write at stopped
  split at stopped
  · cases stopped
  · cases stopped
    rfl

theorem add (kind : String) (inputs : List String) (options : List (String × Value)) :
    OnlyOverlong (Builder.add kind inputs options) := by
  intro builder misfit stopped
  rw [add_eq, writeOptions_eq] at stopped
  cases writable : options.all (·.2.isWritable) with
  | true =>
      rw [if_pos writable] at stopped
      cases stopped
  | false =>
      rw [if_neg (ne_true_of_eq_false writable)] at stopped
      cases stopped
      rfl

theorem addInput (path : String) (options : List String) :
    OnlyOverlong (Builder.addInput path options) :=
  fun _ _ => nofun

theorem split (source : String) : OnlyOverlong (Builder.split source) :=
  fun _ _ => nofun

theorem noteOffCanvas (source : String) : OnlyOverlong (Builder.noteOffCanvas source) :=
  fun _ _ => nofun

theorem finish (label : String) : OnlyOverlong (Builder.finish label) :=
  fun _ _ => nofun

theorem scale (source : String) {size : List Value} {pair : Int × Int}
    (read : twoIntegers size = .ok pair) : OnlyOverlong (Builder.scale source size) :=
  reading read (add _ _ _)

theorem composite (base top : String) {position : List Value} {pair : Int × Int}
    (read : twoIntegers position = .ok pair) (window : Window τ) :
    OnlyOverlong (Builder.composite base top position window.bounds) :=
  reading read (reading rfl (add _ _ _))

theorem cropTo (source : String) (region : Region) : OnlyOverlong (Builder.cropTo source region) :=
  add _ _ _

theorem planar (source : String) : OnlyOverlong (Builder.planar source) :=
  (add _ _ _).bind fun _ => add _ _ _

theorem cutLayer (layer : String) (whole region : Region) :
    OnlyOverlong (Builder.cutLayer layer whole region) := by
  unfold Builder.cutLayer
  split
  · exact pure layer
  · exact cropTo layer _

theorem blendWithin (base layer : String) (overlay : Overlay τ) (window : Window τ)
    (whole region : Region) :
    OnlyOverlong (Builder.blendWithin base layer overlay window.bounds whole region) :=
  (split base).bind fun copies =>
    (planar copies.2).bind fun planes => (cropTo planes region).bind fun _ =>
      (planar layer).bind fun flat => (cutLayer flat whole region).bind fun _ =>
        (add _ _ _).bind fun _ => composite _ _ (twoIntegers_pairOf region.x region.y) window

theorem ofReading {result : Except Misfit α}
    (only : ∀ misfit, result = .error misfit → misfit = .tooManyDigits) {next : α → Build β}
    (late : ∀ value, OnlyOverlong (next value)) : OnlyOverlong (liftM result >>= next) := by
  cases read : result with
  | ok value => exact reading rfl (late value)
  | error misfit =>
      intro _ _ stopped
      cases stopped
      exact only misfit read

theorem canvasSource {size : List Value} {canvas : Int × Int}
    (read : twoIntegers size = .ok canvas) (duration : τ) (fps : Value) (misfit : Misfit)
    (stopped : Montage.canvasSource size duration fps = .error misfit) :
    misfit = .tooManyDigits := by
  unfold Montage.canvasSource at stopped
  rw [read] at stopped
  rcases bind_eq_error_iff.mp stopped with unread | ⟨_, _, stopped⟩
  · cases unread
  rcases bind_eq_error_iff.mp stopped with width | ⟨_, _, stopped⟩
  · exact writing _ width
  rcases bind_eq_error_iff.mp stopped with height | ⟨_, _, stopped⟩
  · exact writing _ height
  rcases bind_eq_error_iff.mp stopped with rate | ⟨_, _, stopped⟩
  · exact writing _ rate
  · cases stopped

variable {settings : Settings} {canvas : Int × Int}

theorem drawMain (read : twoIntegers settings.canvas = .ok canvas) (below : String)
    (asset : Asset (Clip τ) τ) : OnlyOverlong (Builder.drawMain settings below asset) :=
  (addInput _ _).bind fun _ => (scale _ read).bind fun _ => (add _ _ _).bind fun _ =>
    composite _ _ (twoIntegers_pairOf 0 0) asset.window

theorem drawBase (read : twoIntegers settings.canvas = .ok canvas) (duration : τ)
    (assets : List (Asset (Clip τ) τ)) :
    OnlyOverlong (Builder.drawBase settings duration assets) := by
  have onCanvas : OnlyOverlong (do
      let index ← Builder.addInput (← Montage.canvasSource settings.canvas duration settings.fps)
        ["-f", "lavfi"]
      assets.foldlM (Builder.drawMain settings) (inputLabel index)) :=
    ofReading (canvasSource read duration settings.fps) fun _ => (addInput _ _).bind fun _ =>
      foldlM (fun below asset _ => drawMain read below asset) _
  unfold Builder.drawBase
  split
  · split
    · exact (addInput _ _).bind fun _ => scale _ read
    · exact onCanvas
  · exact onCanvas

theorem drawLayer (read : twoIntegers settings.canvas = .ok canvas) (below : String)
    {asset : Asset (Layer τ) τ} (readable : asset.item.overlay.IsReadable) :
    OnlyOverlong (Builder.drawLayer settings below asset) := by
  have plain (placed : String) : OnlyOverlong (do
      let translucent ← Builder.alpha placed asset.item.overlay.opacity
      Builder.composite below translucent asset.item.overlay.position asset.window.bounds) :=
    bind (bind (add _ _ _) fun _ => add _ _ _) fun _ =>
      composite _ _ readable.position asset.window
  unfold Builder.drawLayer
  refine bind (addInput _ _) fun index => bind (scale _ readable.size) fun scaled =>
    bind (add _ _ _) fun placed => ?_
  split
  · exact plain placed
  · rw [blend_eq readable read]
    cases visibleRegion? asset.item.overlay.rectangle.x asset.item.overlay.rectangle.y
        asset.item.overlay.rectangle.width asset.item.overlay.rectangle.height
        canvas.1 canvas.2 with
    | none => exact (noteOffCanvas asset.item.clip.source).bind fun _ => plain placed
    | some region =>
        simp only [bind_assoc, pure_bind]
        exact (blendWithin _ _ _ _ _ _).bind fun blended => pure blended

theorem drawAll (read : twoIntegers settings.canvas = .ok canvas) (duration : τ)
    (mainAssets : List (Asset (Clip τ) τ)) {layerAssets : List (Asset (Layer τ) τ)}
    (readable : ∀ asset ∈ layerAssets, asset.item.overlay.IsReadable) (audioPath : String) :
    OnlyOverlong (Builder.drawAll settings duration mainAssets layerAssets audioPath) :=
  (drawBase read duration mainAssets).bind fun _ =>
    (foldlM (fun below _ member => drawLayer read below (readable _ member)) _).bind fun _ =>
      (finish _).bind fun _ => addInput _ _

end OnlyOverlong

end Builder

/-- Where the canvas and all layers can be read there is a plan, unless a number cannot be
written. -/
theorem not_planned_of_overlong (checked : CheckedTimeline τ) {settings : Settings}
    {canvas : Int × Int} (read : twoIntegers settings.canvas = .ok canvas)
    (mainAssets : List (Asset (Clip τ) τ)) {layerAssets : List (Asset (Layer τ) τ)}
    (readable : ∀ asset ∈ layerAssets, asset.item.overlay.IsReadable)
    (overlong : ¬ HasWritableNumbers canvas settings.fps mainAssets layerAssets)
    (audioPath : String) :
    (planMontage checked settings mainAssets layerAssets audioPath).1 =
      .error .tooManyDigits := by
  cases planned : (planMontage checked settings mainAssets layerAssets audioPath).1 with
  | ok plan =>
      obtain ⟨_, again, writable, -⟩ := draws_of_planned planned
      cases read.symm.trans again
      exact absurd writable overlong
  | error misfit =>
      unfold planMontage at planned
      dsimp only at planned
      rcases ran : (Builder.drawAll settings checked.outputDuration mainAssets layerAssets
        audioPath).run.run {} with ⟨problem | _, after⟩
      · rw [ran] at planned
        cases planned
        rw [Builder.OnlyOverlong.drawAll read _ mainAssets readable audioPath {} misfit
          (congrArg Prod.fst ran)]
      · rw [ran] at planned
        cases planned

end Montage
