import Montage.Proofs.Graph.Compilation
import Montage.Proofs.Timeline.Accepted

/-! What a plan needs to be made. All numbers of the canvas and of the layers are read and written
on the way to it, so that every plan there is draws the scene. -/

namespace Montage

/-- Where a fold succeeds each of its steps does. -/
theorem exists_of_run_foldlM_ok {ε σ α β : Type} {step : β → α → ExceptT ε (StateM σ) β}
    {items : List α} {first last : β} {before after : σ}
    (ran : items.foldlM step first before = (.ok last, after)) :
    ∀ item ∈ items, ∃ value start next stop, step value item start = (.ok next, stop) := by
  induction items generalizing first before with
  | nil => simp
  | cons item rest induction =>
      rw [List.foldlM_cons] at ran
      obtain ⟨next, middle, stepRan, restRan⟩ := exists_of_run_bind_ok ran
      intro other member
      cases member with
      | head => exact ⟨first, before, next, middle, stepRan⟩
      | tail _ later => exact induction restRan other later

variable {τ : Type} [Quantity τ]

namespace Builder

variable {before after : Builder} {label : String} {settings : Settings}

theorem reads_of_scale {source : String} {size : List Value}
    (ran : scale source size before = (.ok label, after)) :
    ∃ pair, twoIntegers size = .ok pair ∧ HaveFewDigits pair := by
  unfold scale at ran
  cases read : twoIntegers size with
  | ok pair =>
      rw [read] at ran
      obtain ⟨params, written⟩ := exists_written_of_add ran
      exact ⟨pair, rfl, haveFewDigits_of_writeOptions written⟩
  | error misfit =>
      rw [read] at ran
      cases ran

theorem reads_of_composite {base top : String} {position : List Value} {bounds : List τ}
    (ran : composite base top position bounds before = (.ok label, after)) :
    ∃ pair, twoIntegers position = .ok pair ∧ HaveFewDigits pair := by
  unfold composite at ran
  cases read : twoIntegers position with
  | ok pair =>
      rw [read] at ran
      obtain ⟨_, _, same, ran⟩ := exists_of_run_bind_ok ran
      cases same
      obtain ⟨enable, _, _, ran⟩ := exists_of_run_bind_ok ran
      obtain ⟨params, written⟩ := exists_written_of_add ran
      exact ⟨pair, rfl, haveFewDigits_of_writeOptions written⟩
  | error misfit =>
      rw [read] at ran
      cases ran

omit [Quantity τ] in
theorem reads_of_placeOverlay {overlay : Overlay τ} {canvas : List Value}
    {regions : Region × Option Region} (placed : placeOverlay overlay canvas = .ok regions) :
    ∃ pair, twoIntegers overlay.position = .ok pair := by
  obtain ⟨⟨givenX, givenY⟩, position, placed⟩ := exists_of_bind_ok placed
  obtain ⟨_, _, placed⟩ := exists_of_bind_ok placed
  obtain ⟨_, _, placed⟩ := exists_of_bind_ok placed
  obtain ⟨x, xRead, placed⟩ := exists_of_bind_ok placed
  obtain ⟨y, yRead, _⟩ := exists_of_bind_ok placed
  have read : twoIntegers overlay.position = .ok (x, y) :=
    bind_eq_ok_iff.mpr ⟨_, position, bind_eq_ok_iff.mpr ⟨x, xRead, bind_eq_ok_iff.mpr
      ⟨y, yRead, rfl⟩⟩⟩
  exact ⟨(x, y), read⟩

/-- A blend has read where its layer lies. It gives nothing where that is off the canvas. -/
theorem exists_placed_of_blend {base layer : String} {overlay : Overlay τ} {bounds : List τ}
    {canvas : List Value} {blended : Option String}
    (ran : blend base layer overlay bounds canvas before = (.ok blended, after)) :
    ∃ whole visible, placeOverlay overlay canvas = .ok (whole, visible) ∧
      (visible = none → blended = none) := by
  unfold blend at ran
  cases placed : placeOverlay overlay canvas with
  | ok regions =>
      refine ⟨regions.1, regions.2, rfl, fun unseen => ?_⟩
      rcases regions with ⟨whole, _ | region⟩
      · rw [placed] at ran
        cases ran
        rfl
      · cases unseen
  | error misfit =>
      rw [placed] at ran
      cases ran

/-- The overlay of a layer that was drawn can be read, and its numbers were written, or at least
numbers that are no smaller. -/
theorem reads_of_drawLayer {canvas : Int × Int} (read : twoIntegers settings.canvas = .ok canvas)
    (canvasFew : HaveFewDigits canvas) {below : String} {asset : Asset (Layer τ) τ}
    (ran : drawLayer settings below asset before = (.ok label, after)) :
    asset.item.overlay.IsReadable ∧ asset.item.overlay.rectangle.HasFewDigits := by
  obtain ⟨_, _, _, ran⟩ := exists_of_run_bind_ok ran
  obtain ⟨_, _, scaled, ran⟩ := exists_of_run_bind_ok ran
  obtain ⟨placed, _, _, ran⟩ := exists_of_run_bind_ok ran
  obtain ⟨size, sizeRead, sizeFew⟩ := reads_of_scale scaled
  have conclude {position : Int × Int}
      (positionRead : twoIntegers asset.item.overlay.position = .ok position)
      (positionFew : asset.item.overlay.IsReadable →
        HaveFewDigits (asset.item.overlay.rectangle.width, asset.item.overlay.rectangle.height) →
          HaveFewDigits (asset.item.overlay.rectangle.x, asset.item.overlay.rectangle.y)) :
      asset.item.overlay.IsReadable ∧ asset.item.overlay.rectangle.HasFewDigits := by
    have readable : asset.item.overlay.IsReadable := ⟨position, size, positionRead, sizeRead⟩
    rw [Except.ok.inj (sizeRead.symm.trans readable.size)] at sizeFew
    exact ⟨readable, positionFew readable sizeFew, sizeFew⟩
  have drawn {start stop : Builder} {translucent : String}
      (ran : composite below translucent asset.item.overlay.position asset.window.bounds start =
        (.ok label, stop)) :
      asset.item.overlay.IsReadable ∧ asset.item.overlay.rectangle.HasFewDigits := by
    obtain ⟨position, positionRead, few⟩ := reads_of_composite ran
    refine conclude positionRead fun readable _ => ?_
    rwa [Except.ok.inj (positionRead.symm.trans readable.position)] at few
  dsimp only at ran
  split at ran
  · obtain ⟨_, _, _, ran⟩ := exists_of_run_bind_ok ran
    exact drawn ran
  · obtain ⟨blended, _, blendRan, ran⟩ := exists_of_run_bind_ok ran
    obtain ⟨whole, visible, places, unseen⟩ := exists_placed_of_blend blendRan
    cases visible with
    | none =>
        rw [unseen rfl] at ran
        obtain ⟨_, _, _, ran⟩ := exists_of_run_bind_ok ran
        obtain ⟨_, _, _, ran⟩ := exists_of_run_bind_ok ran
        exact drawn ran
    | some region =>
        obtain ⟨position, positionRead⟩ := reads_of_placeOverlay places
        refine conclude positionRead fun readable few => ?_
        rw [placeOverlay_eq readable read] at places
        exact Region.position_hasFewDigits_of_visible canvasFew few
          (Prod.mk.inj (Except.ok.inj places)).2

theorem reads_of_canvasSource {size : List Value} {duration : τ} {fps : Value} {source : String}
    (described : canvasSource size duration fps = .ok source) :
    ∃ canvas, twoIntegers size = .ok canvas ∧ HaveFewDigits canvas ∧ fps.isWritable = true := by
  obtain ⟨canvas, read, described⟩ := exists_of_bind_ok described
  obtain ⟨_, width, described⟩ := exists_of_bind_ok described
  obtain ⟨_, height, described⟩ := exists_of_bind_ok described
  obtain ⟨_, rate, _⟩ := exists_of_bind_ok described
  exact ⟨canvas, read, ⟨(Value.write_eq_ok_iff.mp width).1, (Value.write_eq_ok_iff.mp height).1⟩,
    (Value.write_eq_ok_iff.mp rate).1⟩

theorem reads_of_drawBase {duration : τ} {assets : List (Asset (Clip τ) τ)}
    (ran : drawBase settings duration assets before = (.ok label, after)) :
    ∃ canvas, twoIntegers settings.canvas = .ok canvas ∧ HaveFewDigits canvas ∧
      (soleClip? assets = none → settings.fps.isWritable = true) := by
  have onCanvas {next : String → Build String}
      (ran : (liftM (canvasSource settings.canvas duration settings.fps) >>= next) before =
        (.ok label, after)) :
      ∃ canvas, twoIntegers settings.canvas = .ok canvas ∧ HaveFewDigits canvas ∧
        (soleClip? assets = none → settings.fps.isWritable = true) := by
    cases described : canvasSource settings.canvas duration settings.fps with
    | ok source =>
        obtain ⟨canvas, read, few, rate⟩ := reads_of_canvasSource described
        exact ⟨canvas, read, few, fun _ => rate⟩
    | error misfit =>
        rw [described] at ran
        cases ran
  unfold drawBase at ran
  match assets with
  | [] => exact onCanvas ran
  | [asset] =>
      dsimp only at ran
      split at ran
      · rename_i atOnce
        obtain ⟨_, _, _, scaled⟩ := exists_of_run_bind_ok ran
        obtain ⟨canvas, read, few⟩ := reads_of_scale scaled
        exact ⟨canvas, read, few, by simp [soleClip?, atOnce]⟩
      · exact onCanvas ran
  | first :: second :: rest => exact onCanvas ran

end Builder

section

variable {checked : CheckedTimeline τ} {settings : Settings} {mainAssets : List (Asset (Clip τ) τ)}
  {layerAssets : List (Asset (Layer τ) τ)} {audioPath : String} {plan : Plan τ}

/-- A plan is only made when its canvas and all its layers can be read and its numbers can be
written, and it draws the scene. -/
theorem draws_of_planned
    (planned : (planMontage checked settings mainAssets layerAssets audioPath).1 = .ok plan) :
    ∃ canvas, twoIntegers settings.canvas = .ok canvas ∧
      HasWritableNumbers canvas settings.fps mainAssets layerAssets ∧
      plan.Draws
        (sceneInputs canvas settings.fps checked.outputDuration mainAssets layerAssets) audioPath
        (scene canvas settings.fps checked.outputDuration mainAssets layerAssets) := by
  obtain ⟨audioIndex, after, ran⟩ := exists_drawAll_of_planned planned
  obtain ⟨base, _, based, ran⟩ := exists_of_run_bind_ok ran
  obtain ⟨top, _, drawn, _⟩ := exists_of_run_bind_ok ran
  obtain ⟨canvas, read, canvasFew, rate⟩ := Builder.reads_of_drawBase based
  have layers : ∀ asset ∈ layerAssets, asset.item.overlay.IsReadable ∧
      asset.item.overlay.rectangle.HasFewDigits := by
    intro asset member
    obtain ⟨_, _, _, _, layerDrawn⟩ := exists_of_run_foldlM_ok drawn asset member
    exact Builder.reads_of_drawLayer read canvasFew layerDrawn
  have writable : HasWritableNumbers canvas settings.fps mainAssets layerAssets :=
    ⟨canvasFew, rate, fun asset member => (layers asset member).2⟩
  obtain ⟨other, otherPlanned, _, draws⟩ := exists_plan checked read mainAssets
    (fun asset member => (layers asset member).1) writable audioPath
  cases planned.symm.trans otherPlanned
  exact ⟨canvas, read, writable, draws⟩

end

end Montage
