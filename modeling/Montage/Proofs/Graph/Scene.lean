import Montage.Graph.Plan
import Montage.Proofs.Graph.Options
import Montage.Proofs.Graph.Picture
import Montage.Proofs.Steps

/-! What a montage is to show, said of its clips and layers alone: a base, the main clips,
and the layers from the lowest to the highest. -/

namespace Montage

variable {τ : Type}

/-! ## Rectangles -/

theorem exists_of_twoIntegers {given : List Value} {first second : Int}
    (read : twoIntegers given = .ok (first, second)) :
    ∃ left right, given = [left, right] ∧ left.toInteger = .ok first ∧
      right.toInteger = .ok second := by
  unfold twoIntegers at read
  match given, read with
  | [left, right], read =>
      obtain ⟨_, pair, read⟩ := exists_of_bind_ok read
      cases pair
      obtain ⟨_, leftRead, read⟩ := exists_of_bind_ok read
      obtain ⟨_, rightRead, both⟩ := exists_of_bind_ok read
      cases both
      exact ⟨left, right, rfl, leftRead, rightRead⟩

def Overlay.IsReadable (overlay : Overlay τ) : Prop :=
  ∃ position size, twoIntegers overlay.position = .ok position ∧
    twoIntegers overlay.size = .ok size

def Overlay.rectangle (overlay : Overlay τ) : Region :=
  match twoIntegers overlay.position, twoIntegers overlay.size with
  | .ok (x, y), .ok (width, height) => ⟨x, y, width, height⟩
  | _, _ => ⟨0, 0, 0, 0⟩

theorem Overlay.IsReadable.position {overlay : Overlay τ} (readable : overlay.IsReadable) :
    twoIntegers overlay.position = .ok (overlay.rectangle.x, overlay.rectangle.y) := by
  rcases readable with ⟨position, size, positionRead, sizeRead⟩
  simp only [rectangle, positionRead, sizeRead]

theorem Overlay.IsReadable.size {overlay : Overlay τ} (readable : overlay.IsReadable) :
    twoIntegers overlay.size = .ok (overlay.rectangle.width, overlay.rectangle.height) := by
  rcases readable with ⟨position, size, positionRead, sizeRead⟩
  simp only [rectangle, positionRead, sizeRead]

theorem twoIntegers_pairOf (first second : Int) :
    twoIntegers (pairOf first second) = .ok (first, second) := rfl

theorem Overlay.isReadable_of_integers {overlay : Overlay τ} {x y width height : Int}
    (position : overlay.position = pairOf x y) (size : overlay.size = pairOf width height) :
    overlay.IsReadable :=
  ⟨(x, y), (width, height), position ▸ twoIntegers_pairOf x y,
    size ▸ twoIntegers_pairOf width height⟩

variable [Quantity τ]

theorem Overlay.isReadable_standard : (Overlay.standard : Overlay τ).IsReadable :=
  isReadable_of_integers rfl rfl

/-! ## Pictures -/

namespace Picture

def scaled (width height : Int) : Picture → Picture :=
  .changed "scale" [("w", integerText width), ("h", integerText height)]

def delayed (start : τ) : Picture → Picture :=
  .changed "setpts" [("expr", "PTS-STARTPTS+" ++ Quantity.thousandths start ++ "/TB")]

def translucent (opacity : τ) (picture : Picture) : Picture :=
  .changed "colorchannelmixer" [("aa", Quantity.thousandths opacity)]
    (.changed "format" [("pix_fmts", "yuva420p")] picture)

def planar (picture : Picture) : Picture :=
  .changed "setsar" [("r", "1")] (.changed "format" [("pix_fmts", "gbrp")] picture)

def cut (region : Region) : Picture → Picture :=
  .changed "crop" [("w", integerText region.width), ("h", integerText region.height),
    ("x", integerText region.x), ("y", integerText region.y)]

def placed (path : String) (width height : Int) (start : τ) : Picture :=
  delayed start (scaled width height (.source ⟨path, []⟩))

def overlaid (base top : Picture) (x y : Int) (window : Window τ) : Picture :=
  .drawn [("x", integerText x), ("y", integerText y),
    ("enable", "gte(t," ++ Quantity.thousandths window.start ++ ")*lt(t," ++
      Quantity.thousandths window.stop ++ ")")] base top

/-- The part of a picture that a region shows, mixed with the same part of a layer. The
layer is cut only when some of it lies outside. -/
def blended (base layer : Picture) (whole region : Region) (mode : String) (opacity : τ) :
    Picture :=
  .mixed [("all_mode", mode), ("all_opacity", Quantity.thousandths opacity)]
    (cut region (planar base))
    (if (region.width, region.height) = (whole.width, whole.height) then planar layer
    else cut { region with x := region.x - whole.x, y := region.y - whole.y } (planar layer))

end Picture

/-! ## Base, main clips and layers -/

def canvasInput (canvas : Int × Int) (duration : τ) (fps : Value) : Input where
  path := "color=c=black:s=" ++ integerText canvas.1 ++ "x" ++ integerText canvas.2 ++
    ":r=" ++ fps.plain ++ ":d=" ++ Quantity.thousandths duration
  options := ["-f", "lavfi"]

def soleClip? : List (Asset (Clip τ) τ) → Option (Asset (Clip τ) τ)
  | [asset] => if Quantity.same asset.window.start 0.0 then some asset else none
  | _ => none

def mainOver (canvas : Int × Int) (base : Picture) (asset : Asset (Clip τ) τ) : Picture :=
  base.overlaid (.placed asset.path canvas.1 canvas.2 asset.window.start) 0 0 asset.window

/-- A layer is drawn with its opacity where it is placed. When its mode is another one and
some of it lies on the canvas, that part is blended with what is below it instead. -/
def layerOver (canvas : Int × Int) (base : Picture) (asset : Asset (Layer τ) τ) : Picture :=
  let overlay := asset.item.overlay
  let whole := overlay.rectangle
  let layer := Picture.placed asset.path whole.width whole.height asset.window.start
  let region? :=
    if overlay.blendMode = "normal" then none
    else visibleRegion? whole.x whole.y whole.width whole.height canvas.1 canvas.2
  match region? with
  | none => base.overlaid (layer.translucent overlay.opacity) whole.x whole.y asset.window
  | some region =>
      base.overlaid (base.blended layer whole region overlay.blendMode overlay.opacity)
        region.x region.y asset.window

def mainScene (canvas : Int × Int) (fps : Value) (duration : τ)
    (mainAssets : List (Asset (Clip τ) τ)) : Picture :=
  match soleClip? mainAssets with
  | some asset => .scaled canvas.1 canvas.2 (.source ⟨asset.path, []⟩)
  | none => mainAssets.foldl (mainOver canvas) (.source (canvasInput canvas duration fps))

def scene (canvas : Int × Int) (fps : Value) (duration : τ)
    (mainAssets : List (Asset (Clip τ) τ)) (layerAssets : List (Asset (Layer τ) τ)) : Picture :=
  layerAssets.foldl (layerOver canvas) (mainScene canvas fps duration mainAssets)

def mainInputs (canvas : Int × Int) (fps : Value) (duration : τ)
    (mainAssets : List (Asset (Clip τ) τ)) : List Input :=
  match soleClip? mainAssets with
  | some asset => [⟨asset.path, []⟩]
  | none => canvasInput canvas duration fps :: mainAssets.map (⟨·.path, []⟩)

def sceneInputs (canvas : Int × Int) (fps : Value) (duration : τ)
    (mainAssets : List (Asset (Clip τ) τ)) (layerAssets : List (Asset (Layer τ) τ)) :
    List Input :=
  mainInputs canvas fps duration mainAssets ++ layerAssets.map (⟨·.path, []⟩)

/-- All integers of a montage can be written. Its rate is written where a canvas is described. -/
structure HasWritableNumbers (canvas : Int × Int) (fps : Value)
    (mainAssets : List (Asset (Clip τ) τ)) (layerAssets : List (Asset (Layer τ) τ)) : Prop where
  canvas : HaveFewDigits canvas
  rate : soleClip? mainAssets = none → fps.isWritable = true
  layers : ∀ asset ∈ layerAssets, asset.item.overlay.rectangle.HasFewDigits

/-- The standard settings have no long numbers. -/
theorem hasWritableNumbers_of_no_layers (mainAssets : List (Asset (Clip τ) τ)) :
    HasWritableNumbers (1920, 1080) (.int 30) mainAssets ([] : List (Asset (Layer τ) τ)) where
  canvas := by decide +kernel
  rate _ := by decide +kernel
  layers := List.forall_mem_nil _

end Montage
