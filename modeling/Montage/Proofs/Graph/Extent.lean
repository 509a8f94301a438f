import Montage.Proofs.Graph.Scene
import Montage.Proofs.Number.Numeral

/-! How large the pictures of a graph are, and which sizes its filters ask of what they read. -/

namespace Montage

abbrev Extent := Int × Int

/-! ## Sizes that are written down -/

def integerParam? (params : List (String × String)) (name : String) : Option Int :=
  (params.lookup name).bind fun text => integerOf? text.toList

def extentParams? (params : List (String × String)) : Option Extent := do
  return (← integerParam? params "w", ← integerParam? params "h")

def regionParams? (params : List (String × String)) : Option Region := do
  return ⟨← integerParam? params "x", ← integerParam? params "y",
    ← integerParam? params "w", ← integerParam? params "h"⟩

def extentOf? (size : List Char) : Option Extent := do
  return (← integerOf? (size.takeWhile (· ≠ 'x')),
    ← integerOf? ((size.dropWhile (· ≠ 'x')).drop 1))

def extentOfSource? (text : List Char) : Option Extent :=
  let start := "color=c=black:s=".toList
  if start.isPrefixOf text then extentOf? ((text.drop start.length).takeWhile (· ≠ ':')) else none

example : extentOfSource? "color=c=black:s=640x360:r=30:d=2".toList = some (640, 360) := by
  decide

/-! ## Sizes of pictures -/

def Input.extent? (fileExtent : String → Extent) (input : Input) : Option Extent :=
  if input.options = ["-f", "lavfi"] then extentOfSource? input.path.toList
  else some (fileExtent input.path)

/-- Scaling and cropping give the size that is asked for. Every other filter keeps the size of
what it reads, one that reads two pictures the size of the first. -/
def Picture.extent? (fileExtent : String → Extent) : Picture → Option Extent
  | .source input => input.extent? fileExtent
  | .changed kind params picture =>
      if kind = "scale" ∨ kind = "crop" then extentParams? params
      else picture.extent? fileExtent
  | .mixed _ base _ => base.extent? fileExtent
  | .drawn _ base _ => base.extent? fileExtent

def streamExtent? (fileExtent : String → Extent) (inputs : List Input) (nodes : List Node)
    (label : String) : Option Extent :=
  (pictureOf inputs nodes label).bind (Picture.extent? fileExtent)

/-! ## What filters ask -/

structure Region.LiesIn (region : Region) (extent : Extent) : Prop where
  width_pos : 0 < region.width
  height_pos : 0 < region.height
  left : 0 ≤ region.x
  top : 0 ≤ region.y
  right : region.x + region.width ≤ extent.1
  bottom : region.y + region.height ≤ extent.2

/-- A filter reads streams of the sizes that it needs: what is drawn upon and what is split has
the size of the canvas, what is cut out lies inside, and what is blended has one size. -/
structure Node.Fits (node : Node) (canvas : Extent) (extentOf : String → Option Extent) :
    Prop where
  overlay : node.kind = "overlay" →
    ∃ base top, node.inputs = [base, top] ∧ extentOf base = some canvas
  split : node.kind = "split" → ∃ source, node.inputs = [source] ∧ extentOf source = some canvas
  crop : node.kind = "crop" → ∃ source extent region, node.inputs = [source] ∧
    extentOf source = some extent ∧ regionParams? node.params = some region ∧
    region.LiesIn extent
  blend : node.kind = "blend" → ∃ below above extent, node.inputs = [below, above] ∧
    extentOf below = some extent ∧ extentOf above = some extent

/-- The sizes of a graph agree: every stream that a filter makes has one, every filter reads
what it needs, and the video has the size of the canvas. -/
structure SizesAgree (fileExtent : String → Extent) (canvas : Extent) (inputs : List Input)
    (nodes : List Node) : Prop where
  sized : ∀ label ∈ nodes.flatMap Node.outputs,
    ∃ extent, streamExtent? fileExtent inputs nodes label = some extent
  fits : ∀ node ∈ nodes, node.Fits canvas (streamExtent? fileExtent inputs nodes)
  video : streamExtent? fileExtent inputs nodes videoLabel = some canvas

theorem Node.Fits.mono {node : Node} {canvas : Extent} {extentOf more : String → Option Extent}
    (fits : node.Fits canvas extentOf)
    (known : ∀ label extent, extentOf label = some extent → more label = some extent) :
    node.Fits canvas more where
  overlay kind := by
    rcases fits.overlay kind with ⟨base, top, inputs, extent⟩
    exact ⟨base, top, inputs, known base canvas extent⟩
  split kind := by
    rcases fits.split kind with ⟨source, inputs, extent⟩
    exact ⟨source, inputs, known source canvas extent⟩
  crop kind := by
    rcases fits.crop kind with ⟨source, extent, region, inputs, sized, given, lies⟩
    exact ⟨source, extent, region, inputs, known source extent sized, given, lies⟩
  blend kind := by
    rcases fits.blend kind with ⟨below, above, extent, inputs, belowSized, aboveSized⟩
    exact ⟨below, above, extent, inputs, known below extent belowSized,
      known above extent aboveSized⟩

namespace Node

variable {params : List (String × String)} {outputs : List String} {canvas : Extent}
  {extentOf : String → Option Extent}

/-- A filter that only changes what it reads asks nothing. -/
theorem fits_of_plain {kind : String} (plain : kind ∉ ["overlay", "split", "crop", "blend"])
    (inputs : List String) (params : List (String × String)) (outputs : List String)
    (canvas : Extent) (extentOf : String → Option Extent) :
    Fits ⟨kind, inputs, params, outputs⟩ canvas extentOf where
  overlay same := absurd (by simp [show kind = _ from same]) plain
  split same := absurd (by simp [show kind = _ from same]) plain
  crop same := absurd (by simp [show kind = _ from same]) plain
  blend same := absurd (by simp [show kind = _ from same]) plain

theorem fits_overlay {base : String} (sized : extentOf base = some canvas) (top : String) :
    Fits ⟨"overlay", [base, top], params, outputs⟩ canvas extentOf where
  overlay _ := ⟨base, top, rfl, sized⟩
  split other := absurd (show "overlay" = "split" from other) (by decide)
  crop other := absurd (show "overlay" = "crop" from other) (by decide)
  blend other := absurd (show "overlay" = "blend" from other) (by decide)

theorem fits_split {source : String} (sized : extentOf source = some canvas) :
    Fits ⟨"split", [source], params, outputs⟩ canvas extentOf where
  overlay other := absurd (show "split" = "overlay" from other) (by decide)
  split _ := ⟨source, rfl, sized⟩
  crop other := absurd (show "split" = "crop" from other) (by decide)
  blend other := absurd (show "split" = "blend" from other) (by decide)

theorem fits_crop {source : String} {extent : Extent} {region : Region}
    (sized : extentOf source = some extent) (given : regionParams? params = some region)
    (lies : region.LiesIn extent) : Fits ⟨"crop", [source], params, outputs⟩ canvas extentOf where
  overlay other := absurd (show "crop" = "overlay" from other) (by decide)
  split other := absurd (show "crop" = "split" from other) (by decide)
  crop _ := ⟨source, extent, region, rfl, sized, given, lies⟩
  blend other := absurd (show "crop" = "blend" from other) (by decide)

theorem fits_blend {below above : String} {extent : Extent}
    (belowSized : extentOf below = some extent) (aboveSized : extentOf above = some extent) :
    Fits ⟨"blend", [below, above], params, outputs⟩ canvas extentOf where
  overlay other := absurd (show "blend" = "overlay" from other) (by decide)
  split other := absurd (show "blend" = "split" from other) (by decide)
  crop other := absurd (show "blend" = "crop" from other) (by decide)
  blend _ := ⟨below, above, extent, rfl, belowSized, aboveSized⟩

end Node

/-! ## Sizes are read back -/

theorem extentParams?_scaled (width height : Int) :
    extentParams? [("w", integerText width), ("h", integerText height)] = some (width, height) := by
  simp [extentParams?, integerParam?, integerOf?_integerText, List.lookup_cons]

theorem extentParams?_cut (region : Region) :
    extentParams? [("w", integerText region.width), ("h", integerText region.height),
      ("x", integerText region.x), ("y", integerText region.y)] =
      some (region.width, region.height) := by
  simp [extentParams?, integerParam?, integerOf?_integerText, List.lookup_cons]

theorem regionParams?_cut (region : Region) :
    regionParams? [("w", integerText region.width), ("h", integerText region.height),
      ("x", integerText region.x), ("y", integerText region.y)] = some region := by
  simp [regionParams?, integerParam?, integerOf?_integerText, List.lookup_cons]

/-- A character that is neither a sign nor a digit is in no integer. -/
theorem ne_of_mem_integerText {number : Int} {char other : Char}
    (member : char ∈ (integerText number).toList) (sign : other ≠ '-')
    (digit : other.isDigit = false) : char ≠ other := by
  rintro rfl
  rcases eq_sign_or_isDigit_of_mem_integerText member with isSign | isDigit
  · exact sign isSign
  · exact Bool.false_ne_true (digit.symm.trans isDigit)

theorem extentOf?_texts (width height : Int) :
    extentOf? ((integerText width).toList ++ 'x' :: (integerText height).toList) =
      some (width, height) := by
  have noCross : ∀ char ∈ (integerText width).toList, decide (char ≠ 'x') = true :=
    fun char member => decide_eq_true (ne_of_mem_integerText member (by decide) (by decide))
  rw [extentOf?, List.takeWhile_append_of_pos noCross, List.takeWhile_cons_of_neg (by decide),
    List.append_nil, List.dropWhile_append_of_pos noCross, List.dropWhile_cons_of_neg (by decide),
    List.drop_one, List.tail_cons, integerOf?_integerText, integerOf?_integerText]
  rfl

theorem extentOfSource?_append (width height : Int) (rest : List Char) :
    extentOfSource? ("color=c=black:s=".toList ++ ((integerText width).toList ++
      'x' :: ((integerText height).toList ++ ':' :: rest))) = some (width, height) := by
  have noColon (number : Int) : ∀ char ∈ (integerText number).toList,
      decide (char ≠ ':') = true := fun char member =>
    decide_eq_true (ne_of_mem_integerText member (by decide) (by decide))
  have size : ((integerText width).toList ++ 'x' :: ((integerText height).toList ++
      ':' :: rest)).takeWhile (· ≠ ':') =
      (integerText width).toList ++ 'x' :: (integerText height).toList := by
    rw [List.takeWhile_append_of_pos (noColon width), List.takeWhile_cons_of_pos (by decide),
      List.takeWhile_append_of_pos (noColon height), List.takeWhile_cons_of_neg (by decide),
      List.append_nil]
  unfold extentOfSource?
  rw [if_pos (by simp), List.drop_left, size, extentOf?_texts]

theorem extentOfSource?_text (width height : Int) (rate rest : String) :
    extentOfSource? ("color=c=black:s=" ++ integerText width ++ "x" ++ integerText height ++
      ":r=" ++ rate ++ ":d=" ++ rest).toList = some (width, height) := by
  have cross : "x".toList = ['x'] := rfl
  have beforeRate : ":r=".toList = ':' :: "r=".toList := rfl
  have text : ("color=c=black:s=" ++ integerText width ++ "x" ++ integerText height ++
      ":r=" ++ rate ++ ":d=" ++ rest).toList =
      "color=c=black:s=".toList ++ ((integerText width).toList ++
        'x' :: ((integerText height).toList ++
        ':' :: ("r=".toList ++ (rate.toList ++ (":d=".toList ++ rest.toList))))) := by
    simp only [String.toList_append]
    rw [cross, beforeRate]
    simp only [List.append_assoc, List.cons_append, List.nil_append]
  rw [text]
  exact extentOfSource?_append width height _

theorem extent?_canvasInput {τ : Type} [Quantity τ] (fileExtent : String → Extent)
    (canvas : Extent) (duration : τ) (fps : Value) :
    (canvasInput canvas duration fps).extent? fileExtent = some canvas := by
  have lavfi : (canvasInput canvas duration fps).options = ["-f", "lavfi"] := rfl
  rw [Input.extent?, if_pos lavfi]
  exact extentOfSource?_text canvas.1 canvas.2 fps.plain (Quantity.thousandths duration)

end Montage
