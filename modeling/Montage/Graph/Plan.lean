import Montage.Graph.Builder
import Montage.Settings

/-! The graph of a whole montage: a base, then the main clips, then the layers, each drawn
on what came before. -/

namespace Montage

variable {τ : Type} [Quantity τ]

structure Asset (item τ : Type) where
  item : item
  window : Window τ
  path : String

structure Plan (τ : Type) where
  inputs : List Input
  nodes : List Node
  videoLabel : String
  audioIndex : Nat
  duration : τ

def Plan.inputArguments (plan : Plan τ) : List String :=
  plan.inputs.flatMap Input.arguments

namespace Builder

def drawMain (settings : Settings) (below : String) (asset : Asset (Clip τ) τ) :
    Build String := do
  let index ← addInput asset.path
  let scaled ← scale (inputLabel index) settings.canvas
  let placed ← shift scaled asset.window.start
  composite below placed (pairOf 0 0) asset.window.bounds

/-- The base of the picture with all main clips: a single clip that starts at once is the
base itself, otherwise the clips are drawn on a black canvas. -/
def drawBase (settings : Settings) (duration : τ) (assets : List (Asset (Clip τ) τ)) :
    Build String := do
  let onCanvas : Build String := do
    let index ← addInput (← canvasSource settings.canvas duration settings.fps) ["-f", "lavfi"]
    assets.foldlM (drawMain settings) (inputLabel index)
  match assets with
  | [asset] =>
      if Quantity.same asset.window.start 0.0 then
        let index ← addInput asset.path
        scale (inputLabel index) settings.canvas
      else onCanvas
  | _ => onCanvas

/-- Draws a layer as its overlay says. One that is to be blended but lies off the canvas
is drawn as if it were not, which shows nothing. -/
def drawLayer (settings : Settings) (below : String) (asset : Asset (Layer τ) τ) :
    Build String := do
  let overlay := asset.item.overlay
  let bounds := asset.window.bounds
  let index ← addInput asset.path
  let scaled ← scale (inputLabel index) overlay.size
  let placed ← shift scaled asset.window.start
  let normal : Build String := do
    let translucent ← alpha placed overlay.opacity
    composite below translucent overlay.position bounds
  if overlay.blendMode = "normal" then normal
  else
    match ← blend below placed overlay bounds settings.canvas with
    | some blended => return blended
    | none => do
        noteOffCanvas asset.item.clip.source
        normal

def drawAll (settings : Settings) (duration : τ) (mainAssets : List (Asset (Clip τ) τ))
    (layerAssets : List (Asset (Layer τ) τ)) (audioPath : String) : Build Nat := do
  let base ← drawBase settings duration mainAssets
  let top ← layerAssets.foldlM (drawLayer settings) base
  let _ ← finish top
  addInput audioPath

end Builder

def planMontage (checked : CheckedTimeline τ) (settings : Settings)
    (mainAssets : List (Asset (Clip τ) τ)) (layerAssets : List (Asset (Layer τ) τ))
    (audioPath : String) : Except Misfit (Plan τ) × List String :=
  let duration := checked.outputDuration
  let (result, builder) :=
    (Builder.drawAll settings duration mainAssets layerAssets audioPath).run.run {}
  let plan := result.map fun audioIndex =>
    { inputs := builder.inputs
      nodes := builder.nodes
      videoLabel
      audioIndex
      duration }
  (plan, builder.offCanvas)

end Montage
