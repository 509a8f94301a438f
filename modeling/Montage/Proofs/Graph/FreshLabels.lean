import Montage.Proofs.Graph.Blending
import Montage.Proofs.Graph.Wiring

/-! A builder in the hands of any caller. It may be given labels that nobody made, and sizes,
positions and windows that stop a step halfway: no label is ever made twice, inputs are numbered
without a gap, and ending the graph touches no node but the last. -/

namespace Montage

namespace Builder

/-! ## Steps that only add nodes -/

/-- Nodes that make labels out of these, each at most once and in their order. A label is drawn in
vain where the options of its node cannot be written. -/
def MakeOnly (nodes : List Node) (first count : Nat) : Prop :=
  (nodes.flatMap Node.outputs).Sublist ((List.range' first count).map drawnLabel)

/-- A step that adds nodes and does nothing else. They make labels that it draws, also when it is
stopped before its end. -/
def MakesDrawn {α : Type} (step : Build α) : Prop :=
  ∀ builder : Builder, ∃ nodes count, (step builder).2 = builder.grown nodes count ∧
    MakeOnly nodes builder.drawn count

namespace MakesDrawn

section

variable {α β : Type}

theorem of_unchanged {step : Build α} (unchanged : ∀ builder, (step builder).2 = builder) :
    MakesDrawn step := by
  intro builder
  refine ⟨[], 0, ?_, .slnil⟩
  rw [unchanged, grown, List.append_nil, Nat.add_zero]

theorem pure (value : α) : MakesDrawn (Pure.pure value) :=
  of_unchanged fun _ => rfl

theorem bind {step : Build α} {next : α → Build β} (makes : MakesDrawn step)
    (nextMakes : ∀ value, MakesDrawn (next value)) : MakesDrawn (step >>= next) := by
  intro builder
  rcases makes builder with ⟨nodes, count, grew, made⟩
  rcases ran : step builder with ⟨misfit | value, middle⟩
  · -- The nodes that were added before the misfit stay.
    rw [ran] at grew
    rw [run_bind_of_error ran]
    exact ⟨nodes, count, grew, made⟩
  · rw [ran] at grew
    subst grew
    rcases nextMakes value (builder.grown nodes count) with ⟨more, moreCount, grewNext, madeNext⟩
    rw [run_bind_of_ok ran]
    refine ⟨nodes ++ more, count + moreCount, ?_, ?_⟩
    · rw [grewNext, grown_grown]
    · rw [MakeOnly, List.flatMap_append, ← List.range'_append_1, List.map_append]
      exact made.append madeNext

/-- A number that cannot be read stops a step before it has done anything. -/
theorem reading (result : Except Misfit α) {next : α → Build β}
    (nextMakes : ∀ value, MakesDrawn (next value)) : MakesDrawn (liftM result >>= next) := by
  cases result with
  | error misfit => exact of_unchanged fun _ => rfl
  | ok value => exact nextMakes value

theorem add (kind : String) (inputs : List String) (options : List (String × Value)) :
    MakesDrawn (Builder.add kind inputs options) := by
  intro builder
  rw [add_eq]
  cases writeOptions options with
  | ok params => exact ⟨_, 1, rfl, .refl _⟩
  | error misfit => exact ⟨[], 1, by rw [grown, List.append_nil], List.nil_sublist _⟩

theorem split (source : String) : MakesDrawn (Builder.split source) :=
  fun _ => ⟨_, 2, rfl, .refl _⟩

end

/-! ## Filters -/

theorem scale (source : String) (size : List Value) : MakesDrawn (Builder.scale source size) :=
  reading _ fun _ => add _ _ _

theorem crop (source : String) (size offset : List Value) :
    MakesDrawn (Builder.crop source size offset) :=
  reading _ fun _ => reading _ fun _ => reading _ fun _ => reading _ fun _ => reading _ fun _ =>
    reading _ fun _ => add _ _ _

theorem planar (source : String) : MakesDrawn (Builder.planar source) :=
  (add _ _ _).bind fun _ => add _ _ _

theorem cutLayer (layer : String) (whole region : Region) :
    MakesDrawn (Builder.cutLayer layer whole region) := by
  unfold Builder.cutLayer
  split
  · exact pure layer
  · exact add _ _ _

variable {τ : Type} [Quantity τ]

theorem shift (source : String) (start : τ) : MakesDrawn (Builder.shift source start) :=
  add _ _ _

theorem alpha (source : String) (opacity : τ) : MakesDrawn (Builder.alpha source opacity) :=
  (add _ _ _).bind fun _ => add _ _ _

theorem composite (base top : String) (position : List Value) (bounds : List τ) :
    MakesDrawn (Builder.composite base top position bounds) :=
  reading _ fun _ => reading _ fun _ => add _ _ _

theorem blendWithin (base layer : String) (overlay : Overlay τ) (bounds : List τ)
    (whole region : Region) :
    MakesDrawn (Builder.blendWithin base layer overlay bounds whole region) :=
  (split base).bind fun copies => (planar copies.2).bind fun _ => (add _ _ _).bind fun _ =>
    (planar layer).bind fun flat => (cutLayer flat whole region).bind fun _ =>
      (add _ _ _).bind fun _ => composite _ _ _ _

theorem blend (base layer : String) (overlay : Overlay τ) (bounds : List τ)
    (canvas : List Value) : MakesDrawn (Builder.blend base layer overlay bounds canvas) := by
  refine reading _ fun regions => ?_
  rcases regions with ⟨whole, _ | region⟩
  · exact pure none
  · exact (blendWithin base layer overlay bounds whole region).bind fun _ => pure _

end MakesDrawn

end Builder

/-! ## Uses of a builder -/

inductive BuilderUse (τ : Type) where
  | addInput (path : String) (options : List String)
  | add (kind : String) (inputs : List String) (options : List (String × Value))
  | scale (source : String) (size : List Value)
  | shift (source : String) (start : τ)
  | alpha (source : String) (opacity : τ)
  | composite (base top : String) (position : List Value) (bounds : List τ)
  | split (source : String)
  | crop (source : String) (size offset : List Value)
  | planar (source : String)
  | blend (base layer : String) (overlay : Overlay τ) (bounds : List τ) (canvas : List Value)
  | finish (label : String)

inductive BuilderAnswer where
  | place (index : Nat)
  | streams (labels : List String)

namespace BuilderUse

variable {τ : Type}

def addsInput : BuilderUse τ → Bool
  | .addInput .. => true
  | _ => false

def finishes : BuilderUse τ → Bool
  | .finish _ => true
  | _ => false

def step [Quantity τ] : BuilderUse τ → Build BuilderAnswer
  | .addInput path options => return .place (← Builder.addInput path options)
  | .add kind inputs options => return .streams [← Builder.add kind inputs options]
  | .scale source size => return .streams [← Builder.scale source size]
  | .shift source start => return .streams [← Builder.shift source start]
  | .alpha source opacity => return .streams [← Builder.alpha source opacity]
  | .composite base top position bounds =>
      return .streams [← Builder.composite base top position bounds]
  | .split source => do
      let (first, second) ← Builder.split source
      return .streams [first, second]
  | .crop source size offset => return .streams [← Builder.crop source size offset]
  | .planar source => return .streams [← Builder.planar source]
  | .blend base layer overlay bounds canvas =>
      return .streams (← Builder.blend base layer overlay bounds canvas).toList
  | .finish label => return .streams [← Builder.finish label]

end BuilderUse

namespace Builder

/-! ## What a use can do -/

section

variable {τ : Type}

inductive Becomes (builder : Builder) : BuilderUse τ → Builder → Prop
  | addsInput (path : String) (options : List String) :
      Becomes builder (.addInput path options)
        { builder with inputs := builder.inputs ++ [⟨path, options⟩] }
  | ends (label : String) (kept : List Node) (ending : Node)
      (keeps : builder.nodes = kept ∨ ∃ last, builder.nodes = kept ++ [last])
      (outputs : ending.outputs = [videoLabel]) :
      Becomes builder (.finish label) { builder with nodes := kept ++ [ending] }
  | adds {use : BuilderUse τ} (noInput : use.addsInput = false) (goesOn : use.finishes = false)
      (nodes : List Node) (count : Nat) (made : MakeOnly nodes builder.drawn count) :
      Becomes builder use (builder.grown nodes count)

theorem becomes_finish (builder : Builder) (label : String) :
    Becomes builder (.finish label : BuilderUse τ) (finish label builder).2 := by
  rw [finish_eq]
  rcases endedNodes_cases label builder.nodes with ⟨kept, last, nodes, -, renamed⟩ | passed
  · rw [renamed]
    exact .ends label kept _ (.inr ⟨last, nodes⟩) rfl
  · rw [passed]
    exact .ends label builder.nodes _ (.inl rfl) rfl

end

variable {τ : Type} [Quantity τ]

/-- What is left after a use, also when it was stopped: the caller goes on with that. -/
def apply (builder : Builder) (use : BuilderUse τ) : Builder :=
  (use.step builder).2

def applyAll (builder : Builder) (uses : List (BuilderUse τ)) : Builder :=
  uses.foldl apply builder

def ofUses (uses : List (BuilderUse τ)) : Builder :=
  applyAll {} uses

theorem becomes_of_makesDrawn {use : BuilderUse τ} (noInput : use.addsInput = false)
    (goesOn : use.finishes = false) (makes : MakesDrawn use.step) (builder : Builder) :
    Becomes builder use (builder.apply use) := by
  rcases makes builder with ⟨nodes, count, grew, made⟩
  rw [apply, grew]
  exact .adds noInput goesOn nodes count made

theorem becomes_apply (builder : Builder) (use : BuilderUse τ) :
    Becomes builder use (builder.apply use) := by
  cases use
  case addInput path options => exact .addsInput path options
  case finish label => exact builder.becomes_finish label
  all_goals refine becomes_of_makesDrawn rfl rfl ?_ builder
  case add kind inputs options => exact (MakesDrawn.add kind inputs options).bind fun _ => .pure _
  case scale source size => exact (MakesDrawn.scale source size).bind fun _ => .pure _
  case shift source start => exact (MakesDrawn.shift source start).bind fun _ => .pure _
  case alpha source opacity => exact (MakesDrawn.alpha source opacity).bind fun _ => .pure _
  case composite base top position bounds =>
    exact (MakesDrawn.composite base top position bounds).bind fun _ => .pure _
  case split source => exact (MakesDrawn.split source).bind fun _ => .pure _
  case crop source size offset =>
    exact (MakesDrawn.crop source size offset).bind fun _ => .pure _
  case planar source => exact (MakesDrawn.planar source).bind fun _ => .pure _
  case blend base layer overlay bounds canvas =>
    exact (MakesDrawn.blend base layer overlay bounds canvas).bind fun _ => .pure _

end Builder

/-! ## Labels -/

def Node.makesVideo (node : Node) : Bool :=
  videoLabel ∈ node.outputs

theorem countP_makesVideo_eq_zero_iff {nodes : List Node} :
    nodes.countP Node.makesVideo = 0 ↔ videoLabel ∉ nodes.flatMap Node.outputs := by
  simp [List.countP_eq_zero, Node.makesVideo]

theorem exists_number_of_made {nodes : List Node} {first count : Nat}
    (made : Builder.MakeOnly nodes first count) {label : String}
    (member : label ∈ nodes.flatMap Node.outputs) :
    ∃ number, first ≤ number ∧ number < first + count ∧ label = drawnLabel number := by
  rcases List.mem_map.mp (made.subset member) with ⟨number, inRange, rfl⟩
  rcases List.mem_range'_1.mp inRange with ⟨new, less⟩
  exact ⟨number, new, less, rfl⟩

namespace Builder

/-- So many nodes make the video. All other labels that nodes make are among those drawn up to now,
and none is made twice. -/
structure Labelled (builder : Builder) (videos : Nat) : Prop where
  drawn : ∀ label ∈ builder.nodes.flatMap Node.outputs, label ≠ videoLabel →
    ∃ number < builder.drawn, label = drawnLabel number
  madeOnce : (builder.nodes.flatMap Node.outputs).Nodup
  video : builder.nodes.countP Node.makesVideo = videos

theorem labelled_new : Labelled {} 0 where
  drawn := nofun
  madeOnce := .nil
  video := rfl

namespace Labelled

variable {builder : Builder} {videos : Nat}

/-- Labels that are still to be drawn were not made yet. -/
theorem drawnLabel_not_made (labelled : builder.Labelled videos) {number : Nat}
    (new : builder.drawn ≤ number) : drawnLabel number ∉ builder.nodes.flatMap Node.outputs := by
  intro made
  rcases labelled.drawn _ made (drawnLabel_ne_videoLabel number) with ⟨early, less, same⟩
  have equal := drawnLabel_injective same
  omega

theorem grown (labelled : builder.Labelled videos) {nodes : List Node} {count : Nat}
    (made : MakeOnly nodes builder.drawn count) :
    Labelled (builder.grown nodes count) videos := by
  constructor
  case drawn =>
    intro label member notVideo
    rw [Builder.grown, List.flatMap_append, List.mem_append] at member
    rcases member with old | added
    · rcases labelled.drawn label old notVideo with ⟨number, less, same⟩
      exact ⟨number, Nat.lt_add_right count less, same⟩
    · rcases exists_number_of_made made added with ⟨number, -, less, same⟩
      exact ⟨number, less, same⟩
  case madeOnce =>
    rw [Builder.grown, List.flatMap_append]
    refine labelled.madeOnce.append ?_ ?_
    · exact ((List.nodup_range' 1).map drawnLabel_injective).sublist made
    · intro label old added
      rcases exists_number_of_made made added with ⟨number, new, -, rfl⟩
      exact labelled.drawnLabel_not_made new old
  case video =>
    have noVideo : nodes.countP Node.makesVideo = 0 := by
      refine countP_makesVideo_eq_zero_iff.mpr fun added => ?_
      rcases exists_number_of_made made added with ⟨number, -, -, same⟩
      exact drawnLabel_ne_videoLabel number same.symm
    rw [Builder.grown, List.countP_append, noVideo, Nat.add_zero, labelled.video]

/-- Some of the first nodes, with one behind them that makes the video and nothing else. -/
theorem ends (labelled : builder.Labelled 0) {kept rest : List Node} {ending : Node}
    (nodes : builder.nodes = kept ++ rest) (outputs : ending.outputs = [videoLabel]) :
    Labelled { builder with nodes := kept ++ [ending] } 1 := by
  rcases labelled with ⟨drawn, madeOnce, video⟩
  rw [nodes, List.flatMap_append] at drawn madeOnce
  rw [nodes, List.countP_append] at video
  have noVideo : kept.countP Node.makesVideo = 0 := by omega
  have makes : (kept ++ [ending]).flatMap Node.outputs =
      kept.flatMap Node.outputs ++ [videoLabel] := by
    rw [List.flatMap_append, List.flatMap_singleton, outputs]
  constructor
  case drawn =>
    intro label member notVideo
    rw [makes, List.mem_append, List.mem_singleton] at member
    have inKept := member.resolve_right notVideo
    exact drawn label (List.mem_append_left _ inKept) notVideo
  case madeOnce =>
    rw [makes]
    refine (List.nodup_append.mp madeOnce).1.append (List.nodup_singleton _) ?_
    exact List.disjoint_singleton.mpr (countP_makesVideo_eq_zero_iff.mp noVideo)
  case video =>
    have endsInVideo : ending.makesVideo = true := by simp [Node.makesVideo, outputs]
    rw [List.countP_append, noVideo, List.countP_singleton, if_pos endsInVideo]

variable {τ : Type}

/-- One use keeps it, when it does not end the graph for a second time. -/
theorem becomes {use : BuilderUse τ} {after : Builder} (labelled : builder.Labelled videos)
    (becomes : Becomes builder use after) (once : videos + [use].countP BuilderUse.finishes ≤ 1) :
    after.Labelled (videos + [use].countP BuilderUse.finishes) := by
  cases becomes with
  | addsInput path options => exact ⟨labelled.drawn, labelled.madeOnce, labelled.video⟩
  | ends label kept ending keeps outputs =>
      -- This is the one end that is allowed, so there was none before.
      have noVideo : videos = 0 := Nat.le_zero.mp (Nat.le_of_succ_le_succ once)
      subst noVideo
      rcases keeps with same | ⟨last, nodes⟩
      · exact labelled.ends (same.trans (List.append_nil kept).symm) outputs
      · exact labelled.ends nodes outputs
  | adds noInput goesOn nodes count made =>
      rw [List.countP_singleton, goesOn]
      exact labelled.grown made

theorem applyAll [Quantity τ] {uses : List (BuilderUse τ)} (labelled : builder.Labelled videos)
    (once : videos + uses.countP BuilderUse.finishes ≤ 1) :
    (builder.applyAll uses).Labelled (videos + uses.countP BuilderUse.finishes) := by
  induction uses generalizing builder videos with
  | nil => exact labelled
  | cons use rest induction =>
      rw [← List.singleton_append, List.countP_append, ← Nat.add_assoc] at once ⊢
      have first := labelled.becomes (builder.becomes_apply use) (Nat.le_of_add_right_le once)
      exact induction first once

end Labelled

theorem labelled_ofUses {τ : Type} [Quantity τ] {uses : List (BuilderUse τ)}
    (once : uses.countP BuilderUse.finishes ≤ 1) :
    (ofUses uses).Labelled (uses.countP BuilderUse.finishes) := by
  rw [← Nat.zero_add (uses.countP BuilderUse.finishes)] at once ⊢
  exact labelled_new.applyAll once

/-! ## Inputs -/

variable {τ : Type} {builder : Builder}

theorem Becomes.length_inputs {use : BuilderUse τ} {after : Builder}
    (becomes : Becomes builder use after) :
    after.inputs.length = builder.inputs.length + [use].countP BuilderUse.addsInput := by
  cases becomes with
  | addsInput path options => exact List.length_append
  | ends label kept ending keeps outputs => rfl
  | adds noInput goesOn nodes count made =>
      rw [List.countP_singleton, noInput]
      rfl

theorem length_inputs_applyAll [Quantity τ] (builder : Builder) (uses : List (BuilderUse τ)) :
    (builder.applyAll uses).inputs.length =
      builder.inputs.length + uses.countP BuilderUse.addsInput := by
  induction uses generalizing builder with
  | nil => rfl
  | cons use rest induction =>
      rw [← List.singleton_append, List.countP_append, ← Nat.add_assoc,
        ← (builder.becomes_apply use).length_inputs]
      exact induction (builder.apply use)

theorem addInput_step [Quantity τ] (builder : Builder) (path : String) (options : List String) :
    ((.addInput path options : BuilderUse τ).step builder).1 =
      .ok (.place builder.inputs.length) := rfl

/-! ## Any use of a new builder -/

structure EndsIn (before after : List Node) : Prop where
  keeps : ∃ kept ending, after = kept ++ [ending] ∧
    (before = kept ∨ ∃ last, before = kept ++ [last])
  oneVideo : after.countP Node.makesVideo = 1

theorem Becomes.endsIn {label : String} {after : Builder}
    (becomes : Becomes builder (.finish label : BuilderUse τ) after)
    (labelled : builder.Labelled 0) : EndsIn builder.nodes after.nodes := by
  have ended := labelled.becomes becomes le_rfl
  cases becomes with
  | ends _ kept ending keeps outputs => exact ⟨⟨kept, ending, rfl, keeps⟩, ended.video⟩
  | adds _ goesOn => cases goesOn

/-- What a new builder owes to a caller who has used it in this way: labels that are all different,
places of inputs that are counted from zero on, and an end that touches no node but the last. -/
structure KeepsApart [Quantity τ] (uses : List (BuilderUse τ)) : Prop where
  labelled : (ofUses uses).Labelled (uses.countP BuilderUse.finishes)
  places : ∀ earlier path options later, uses = earlier ++ .addInput path options :: later →
    ((.addInput path options : BuilderUse τ).step (ofUses earlier)).1 =
      .ok (.place (earlier.countP BuilderUse.addsInput))
  ends : ∀ earlier label later, uses = earlier ++ .finish label :: later →
    EndsIn (ofUses earlier).nodes
      ((ofUses earlier).apply (.finish label : BuilderUse τ)).nodes

/-- Whatever a caller has done with a new builder, and wherever that was stopped, no label was made
twice, as long as the graph was not ended twice. -/
theorem ofUses_keepsApart [Quantity τ] (uses : List (BuilderUse τ))
    (once : uses.countP BuilderUse.finishes ≤ 1) : KeepsApart uses := by
  constructor
  case labelled => exact labelled_ofUses once
  case places =>
    intro earlier path options later _
    rw [addInput_step, ofUses, length_inputs_applyAll, List.length_nil, Nat.zero_add]
  case ends =>
    rintro earlier label later rfl
    have ending : (BuilderUse.finish label : BuilderUse τ).finishes = true := rfl
    rw [List.countP_append, List.countP_cons, if_pos ending] at once
    have notYet : earlier.countP BuilderUse.finishes = 0 := by omega
    have before := labelled_ofUses (Nat.le_of_add_right_le once)
    rw [notYet] at before
    exact (becomes_apply _ _).endsIn before

end Builder

/-! ## A caller who makes mistakes -/

def BuilderUse.halfBlended : BuilderUse Float :=
  .blend "out0" "1:v" Overlay.acrossEdge [5.0] (pairOf 640 360)

def BuilderUse.sample : List (BuilderUse Float) :=
  [.addInput "first.mp4" [], .scale "0:v" [.int 640], .scale "0:v" (pairOf 640 360),
    .addInput "sign.mp4" [], halfBlended, .finish "out9", .split "nobody", .addInput "last.m4a" []]

/-- The end takes the label of the last node away, and it is not drawn again. -/
theorem Builder.ofUses_keepsApart_sample :
    BuilderUse.sample.countP BuilderUse.finishes ≤ 1 ∧
      (BuilderUse.halfBlended.step (ofUses (BuilderUse.sample.take 4))).1 = .error .notAPair ∧
      (ofUses BuilderUse.sample).nodes.flatMap Node.outputs =
        ["out0", "out1", "out2", "out3", "out4", "out5", "out6", "out7", "out8", "video", "out10",
          "out11"] ∧
      KeepsApart BuilderUse.sample := by
  refine ⟨by decide, rfl, by decide +kernel, ?_⟩
  exact ofUses_keepsApart BuilderUse.sample (by decide)

end Montage
