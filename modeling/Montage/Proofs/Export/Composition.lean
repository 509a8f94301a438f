import Montage.Proofs.Export.Instruction
import Montage.Proofs.Graph.Overlong

/-! The last call of ffmpeg: its graph is well wired over its inputs, and its arguments name
the inputs in the order in which the graph counts them. -/

namespace Montage

variable {τ : Type} [Quantity τ] {plan : Plan τ}

/-- A plan whose graph has a text and is well wired over all inputs but the last, which is the
sound. The last call, if its rate can be written, names the inputs in the order in which the
graph counts them. -/
structure Plan.IsWellWired (plan : Plan τ) (audioPath : String) : Prop where
  wired : WellWired plan.audioIndex plan.nodes
  audioLast : plan.inputs.length = plan.audioIndex + 1
  audio : plan.inputs[plan.audioIndex]? = some ⟨audioPath, []⟩
  text : ∃ text, renderGraph plan.nodes = .ok text
  named : ∀ text output settings, settings.fps.isWritable = true →
    ∃ arguments instruction, compositionArguments plan text output settings = .ok arguments ∧
      Instruction.read arguments = some instruction ∧
      instruction.inputs.map Prod.snd = plan.inputs.map Input.path ∧
      instruction.values "-map" =
        ["[" ++ Montage.videoLabel ++ "]", integerText plan.audioIndex ++ ":a"] ∧
      instruction.values "-filter_complex" = [text]

theorem Plan.Draws.isWellWired {canvas : Int × Int} {fps : Value} {duration : τ}
    {mainAssets : List (Asset (Clip τ) τ)} {layerAssets : List (Asset (Layer τ) τ)}
    {audioPath : String} {picture : Picture}
    (draws : plan.Draws (sceneInputs canvas fps duration mainAssets layerAssets) audioPath
      picture) : plan.IsWellWired audioPath := by
  have plain : ∀ input ∈ plan.inputs, input.IsPlain := by
    rw [draws.inputs_eq]
    intro input member
    rcases List.mem_append.mp member with member | member
    · exact isPlain_of_mem_sceneInputs member
    · rw [List.mem_singleton.mp member]
      rfl
  constructor
  case wired =>
    rw [draws.audioIndex_eq]
    exact draws.finished.wired
  case audioLast =>
    rw [draws.inputs_eq, draws.audioIndex_eq, List.length_append, List.length_singleton]
  case audio =>
    rw [draws.inputs_eq, draws.audioIndex_eq]
    exact List.getElem?_concat_length
  case text => exact ⟨_, renderGraph_of_writable draws.finished.writable⟩
  case named =>
    intro text output settings rate
    have written := compositionArguments_of_rate rate plan text output
    rcases exists_instruction_of_written plain written with
      ⟨instruction, read, inputs, maps, filters, -⟩
    rw [draws.videoLabel_eq] at maps
    refine ⟨_, instruction, written, read, ?_, maps, filters⟩
    rw [inputs, List.map_map]
    rfl

def Clip.wide : Clip Float :=
  { Clip.ofTrim "wide.mp4" (0.0 : Float) 2.0 with
    track := .numbered 1
    overlay := some { (Overlay.standard : Overlay Float) with size := pairOf overlong 1 } }

def Timeline.wide : Timeline Float :=
  .ofClips [.ofTrim "first.mp4" 0.0 2.0, .wide]

theorem Timeline.wide_passes : wide.check = .ok wide.sorted :=
  check_eq_of_isSome (by decide +kernel)

theorem Timeline.wide_hasReadableOverlays : wide.HasReadableOverlays := by
  intro clip member overlay given
  simp only [wide, ofClips, List.mem_cons, List.not_mem_nil, or_false] at member
  rcases member with rfl | rfl
  · cases given
  · cases given
    exact Overlay.isReadable_of_integers rfl rfl

theorem Timeline.ofClip_wide_mem : Layer.ofClip .wide ∈ wide.sorted.layers :=
  List.mem_map_of_mem (mem_overlayClips.mpr ⟨by simp [wide, ofClips], rfl⟩)

end Montage
