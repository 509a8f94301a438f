import Montage.Graph.Node
import Montage.Document.Value
import Montage.Timeline.Window

/-! A builder of filter graphs. It collects inputs and nodes and gives every stream that a
node makes a label that no other stream has. A step that fails keeps what it has drawn and
added before. -/

namespace Montage

structure Input where
  path : String
  options : List String := []
  deriving DecidableEq, Repr

def Input.arguments (input : Input) : List String :=
  input.options ++ ["-i", input.path]

structure Builder where
  inputs : List Input := []
  nodes : List Node := []
  drawn : Nat := 0
  offCanvas : List String := []

abbrev Build (α : Type) := ExceptT Misfit (StateM Builder) α

def videoLabel : String :=
  "video"

def drawnLabel (number : Nat) : String :=
  "out" ++ integerText number

def inputLabel (index : Nat) : String :=
  integerText index ++ ":v"

structure Region where
  x : Int
  y : Int
  width : Int
  height : Int
  deriving DecidableEq, Repr

def visibleRegion? (x y width height canvasWidth canvasHeight : Int) : Option Region :=
  let left := max x 0
  let top := max y 0
  let right := min (x + width) canvasWidth
  let bottom := min (y + height) canvasHeight
  if right ≤ left ∨ bottom ≤ top then none
  else some ⟨left, top, right - left, bottom - top⟩

example : visibleRegion? (-10) 5 100 100 50 50 = some ⟨0, 5, 50, 45⟩ := by decide
example : visibleRegion? 50 0 10 10 50 50 = none := by decide

variable {τ : Type} [Quantity τ]

def gate (bounds : List τ) : Except Misfit String := do
  let (start, stop) ← twoOf bounds
  return "gte(t," ++ Quantity.thousandths start ++ ")*lt(t," ++ Quantity.thousandths stop ++ ")"

def canvasSource (size : List Value) (duration : τ) (fps : Value) : Except Misfit String := do
  let (width, height) ← twoIntegers size
  return "color=c=black:s=" ++ (← (Value.int width).write) ++ "x" ++ (← (Value.int height).write) ++
    ":r=" ++ (← fps.write) ++ ":d=" ++ Quantity.thousandths duration

def writeOptions (options : List (String × Value)) : Except Misfit (List (String × String)) :=
  options.mapM fun (key, value) => return (key, ← value.write)

namespace Builder

/-! ## Streams and nodes -/

def addInput (path : String) (options : List String := []) : Build Nat := do
  let builder ← getThe Builder
  modify fun (builder : Builder) => { builder with inputs := builder.inputs ++ [⟨path, options⟩] }
  return builder.inputs.length

def drawLabel : Build String := do
  let builder ← getThe Builder
  modify fun (builder : Builder) => { builder with drawn := builder.drawn + 1 }
  return drawnLabel builder.drawn

def addNode (node : Node) : Build Unit :=
  modify fun (builder : Builder) => { builder with nodes := builder.nodes ++ [node] }

/-- Adds a node that makes one stream. The label is drawn before the options are written. -/
def add (kind : String) (inputs : List String) (options : List (String × Value)) :
    Build String := do
  let label ← drawLabel
  addNode ⟨kind, inputs, ← writeOptions options, [label]⟩
  return label

/-- Ends the graph: the stream becomes the video. When the last node makes it and nothing
else, that node takes the new label; otherwise a node is added that passes it on. -/
def finish (label : String) : Build String := do
  modify fun (builder : Builder) =>
    match builder.nodes.getLast? with
    | some last =>
        if last.outputs = [label] then
          { builder with
            nodes := builder.nodes.dropLast ++ [{ last with outputs := [videoLabel] }] }
        else
          { builder with nodes := builder.nodes ++ [⟨"null", [label], [], [videoLabel]⟩] }
    | none => { builder with nodes := [⟨"null", [label], [], [videoLabel]⟩] }
  return videoLabel

/-! ## Filters -/

def scale (source : String) (size : List Value) : Build String := do
  let (width, height) ← twoIntegers size
  add "scale" [source] [("w", .int width), ("h", .int height)]

def shift (source : String) (start : τ) : Build String :=
  add "setpts" [source] [("expr", .text ("PTS-STARTPTS+" ++ Quantity.thousandths start ++ "/TB"))]

def alpha (source : String) (opacity : τ) : Build String := do
  let withAlpha ← add "format" [source] [("pix_fmts", .text "yuva420p")]
  add "colorchannelmixer" [withAlpha] [("aa", .text (Quantity.thousandths opacity))]

def composite (base top : String) (position : List Value) (bounds : List τ) :
    Build String := do
  let (x, y) ← twoIntegers position
  let enable ← gate bounds
  add "overlay" [base, top] [("x", .int x), ("y", .int y), ("enable", .text enable)]

def split (source : String) : Build (String × String) := do
  let first ← drawLabel
  let second ← drawLabel
  addNode ⟨"split", [source], [("outputs", "2")], [first, second]⟩
  return (first, second)

def cropTo (source : String) (region : Region) : Build String :=
  add "crop" [source] [("w", .int region.width), ("h", .int region.height), ("x", .int region.x),
    ("y", .int region.y)]

def crop (source : String) (size offset : List Value) : Build String := do
  let (givenWidth, givenHeight) ← twoOf size
  let (givenX, givenY) ← twoOf offset
  let width ← givenWidth.toInteger
  let height ← givenHeight.toInteger
  let x ← givenX.toInteger
  let y ← givenY.toInteger
  cropTo source ⟨x, y, width, height⟩

def planar (source : String) : Build String := do
  let planes ← add "format" [source] [("pix_fmts", .text "gbrp")]
  add "setsar" [planes] [("r", .int 1)]

/-- The part of an overlay that lies on a canvas, with the overlay's own rectangle. The
numbers are read in the order in which they are first needed. -/
def placeOverlay (overlay : Overlay τ) (canvas : List Value) :
    Except Misfit (Region × Option Region) := do
  let (givenX, givenY) ← twoOf overlay.position
  let (givenWidth, givenHeight) ← twoOf overlay.size
  let (givenCanvasWidth, givenCanvasHeight) ← twoOf canvas
  let x ← givenX.toInteger
  let y ← givenY.toInteger
  let width ← givenWidth.toInteger
  let canvasWidth ← givenCanvasWidth.toInteger
  let height ← givenHeight.toInteger
  let canvasHeight ← givenCanvasHeight.toInteger
  return (⟨x, y, width, height⟩, visibleRegion? x y width height canvasWidth canvasHeight)

def cutLayer (layer : String) (whole region : Region) : Build String :=
  if (region.width, region.height) = (whole.width, whole.height) then return layer
  else cropTo layer { region with x := region.x - whole.x, y := region.y - whole.y }

/-- Blends a placed layer into a region of the base, between the bounds of a window. The
region is cut out of a copy of the base, mixed with the same part of the layer, and drawn
back in its place. The base is the first input of the mixture, so opacity zero leaves it as
it is. -/
def blendWithin (base layer : String) (overlay : Overlay τ) (bounds : List τ)
    (whole region : Region) : Build String := do
  let (keep, backdrop) ← split base
  let below ← cropTo (← planar backdrop) region
  let above ← cutLayer (← planar layer) whole region
  let mixed ← add "blend" [below, above]
    [("all_mode", .text overlay.blendMode),
      ("all_opacity", .text (Quantity.thousandths overlay.opacity))]
  composite keep mixed (pairOf region.x region.y) bounds

def blend (base layer : String) (overlay : Overlay τ) (bounds : List τ)
    (canvas : List Value) : Build (Option String) := do
  let (whole, visible) ← placeOverlay overlay canvas
  match visible with
  | none => return none
  | some region => return some (← blendWithin base layer overlay bounds whole region)

def noteOffCanvas (source : String) : Build Unit :=
  modify fun (builder : Builder) => { builder with offCanvas := builder.offCanvas ++ [source] }

end Builder

end Montage
