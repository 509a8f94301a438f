import Mathlib.Data.List.Perm.Basic
import Mathlib.Data.List.Range
import Montage.Proofs.Graph.Options
import Montage.Proofs.Graph.Picture
import Montage.Proofs.Steps

/-! The streams that a builder offers: those that nothing reads yet, with what they show.
Every step of building reads some of them and offers others in their place. What it leaves
alone is still offered, so that the steps can be put together. -/

namespace Montage

/-- An element of a list with one more at its end is that one or stood there before. -/
theorem last_or_earlier {α : Type} {init earlier after : List α} {last node : α}
    (equal : init ++ [last] = earlier ++ node :: after) :
    (earlier = init ∧ node = last) ∨ ∃ between, init = earlier ++ node :: between := by
  rcases List.eq_nil_or_concat after with rfl | ⟨between, final, rfl⟩
  · rcases List.append_inj' equal rfl with ⟨rfl, same⟩
    exact .inl ⟨rfl, (List.singleton_inj.mp same).symm⟩
  · have shorter : init ++ [last] = (earlier ++ node :: between) ++ [final] := by
      simpa using equal
    exact .inr ⟨between, (List.append_inj' shorter rfl).1⟩

abbrev Stream.Shown := String × Picture

namespace Builder

def labels (builder : Builder) : List String :=
  (List.range builder.inputs.length).map inputLabel ++
    (List.range builder.drawn).map drawnLabel

/-- Every label was made once, every label that is not offered was read once, and no node
reads what is made after it. -/
structure Offers (builder : Builder) (offered : List Stream.Shown) : Prop where
  made : builder.nodes.flatMap Node.outputs = (List.range builder.drawn).map drawnLabel
  accounted :
    (builder.nodes.flatMap Node.inputs ++ offered.map Prod.fst).Perm builder.labels
  ordered : ∀ before node after, builder.nodes = before ++ node :: after →
    ∀ label ∈ node.inputs, (∃ index < builder.inputs.length, label = inputLabel index) ∨
      label ∈ before.flatMap Node.outputs
  makes : ∀ node ∈ builder.nodes, node.outputs ≠ []
  shown : ∀ stream ∈ offered,
    pictureOf builder.inputs builder.nodes stream.1 = some stream.2

namespace Offers

variable {builder : Builder} {offered other : List Stream.Shown}

theorem empty : Offers {} [] where
  made := rfl
  accounted := .nil
  ordered := by
    intro before node after nodes
    cases before <;> cases nodes
  makes := by simp
  shown := by simp

theorem perm (offers : builder.Offers offered) (same : offered.Perm other) :
    builder.Offers other where
  made := offers.made
  accounted := ((same.map Prod.fst).symm.append_left _).trans offers.accounted
  ordered := offers.ordered
  makes := offers.makes
  shown stream member := offers.shown stream (same.mem_iff.mpr member)

theorem label_cases (offers : builder.Offers offered) {stream : Stream.Shown}
    (member : stream ∈ offered) :
    (∃ index < builder.inputs.length, stream.1 = inputLabel index) ∨
      ∃ number < builder.drawn, stream.1 = drawnLabel number := by
  have known : stream.1 ∈ builder.labels :=
    offers.accounted.mem_iff.mp
      (List.mem_append_right _ (List.mem_map_of_mem (f := Prod.fst) member))
  simp only [labels, List.mem_append, List.mem_map, List.mem_range] at known
  rcases known with ⟨index, less, equal⟩ | ⟨number, less, equal⟩
  · exact .inl ⟨index, less, equal.symm⟩
  · exact .inr ⟨number, less, equal.symm⟩

theorem known (offers : builder.Offers offered) {stream : Stream.Shown}
    (member : stream ∈ offered) :
    (∃ index < builder.inputs.length, stream.1 = inputLabel index) ∨
      stream.1 ∈ builder.nodes.flatMap Node.outputs := by
  rcases offers.label_cases member with isInput | ⟨number, less, equal⟩
  · exact .inl isInput
  · refine .inr ?_
    rw [offers.made]
    exact List.mem_map.mpr ⟨number, List.mem_range.mpr less, equal.symm⟩

/-- Labels that are still to be drawn are not offered. -/
theorem ne_drawnLabel (offers : builder.Offers offered) {stream : Stream.Shown}
    (member : stream ∈ offered) {number : Nat} (new : builder.drawn ≤ number) :
    stream.1 ≠ drawnLabel number := by
  intro equal
  rcases offers.label_cases member with ⟨index, _, isInput⟩ | ⟨early, less, drawn⟩
  · exact inputLabel_ne_drawnLabel index number (isInput.symm.trans equal)
  · have same := drawnLabel_injective (drawn.symm.trans equal)
    omega

theorem inputLabel_not_made (offers : builder.Offers offered) (index : Nat) :
    inputLabel index ∉ builder.nodes.flatMap Node.outputs := by
  rw [offers.made]
  simpa using fun number _ equal => inputLabel_ne_drawnLabel index number equal.symm

/-! ## Changes of a builder -/

theorem addInput (offers : builder.Offers offered) (input : Input) :
    Offers { builder with inputs := builder.inputs ++ [input] }
      ((inputLabel builder.inputs.length, .source input) :: offered) where
  made := offers.made
  accounted := by
    have new : (List.range (builder.inputs ++ [input]).length).map inputLabel =
        (List.range builder.inputs.length).map inputLabel ++
          [inputLabel builder.inputs.length] := by
      simp [List.range_succ]
    simp only [labels, new, List.map_cons, List.append_assoc, List.singleton_append]
    exact (List.perm_middle.trans (offers.accounted.cons _)).trans List.perm_middle.symm
  ordered := by
    intro before node after nodes label member
    rcases offers.ordered before node after nodes label member with ⟨index, less, equal⟩ | earlier
    · exact .inl ⟨index, by rw [List.length_append]; omega, equal⟩
    · exact .inr earlier
  makes := offers.makes
  shown := by
    intro stream member
    rcases List.mem_cons.mp member with rfl | member
    · exact pictureOf_new_input builder.inputs input (offers.inputLabel_not_made _)
    · exact pictureOf_append_inputs (offers.shown stream member) [input]

/-- A new node reads offered streams, and offers what it makes under labels drawn for it.
The streams that it does not read stay. -/
theorem addNode {reads rest : List Stream.Shown} (offers : builder.Offers (reads ++ rest))
    (node : Node) (count : Nat) {picture : Picture}
    (inputs : node.inputs = reads.map Prod.fst)
    (outputs : node.outputs =
      (List.range (count + 1)).map fun offset => drawnLabel (builder.drawn + offset))
    (shows : node.shows (pictureOf builder.inputs builder.nodes) = some picture) :
    Offers { builder with
        nodes := builder.nodes ++ [node]
        drawn := builder.drawn + (count + 1) }
      (node.outputs.map (·, picture) ++ rest) where
  made := by
    simp only [List.flatMap_append, List.flatMap_singleton, offers.made, outputs,
      List.range_add, List.map_append, List.map_map]
    rfl
  accounted := by
    have labelsOf : (node.outputs.map (·, picture)).map Prod.fst = node.outputs := by
      simp [Function.comp_def]
    have drawn : (List.range (builder.drawn + (count + 1))).map drawnLabel =
        (List.range builder.drawn).map drawnLabel ++ node.outputs := by
      rw [outputs, List.range_add, List.map_append, List.map_map]
      rfl
    have accounted := offers.accounted
    simp only [labels, List.map_append] at accounted
    simp only [labels, drawn, List.flatMap_append, List.flatMap_singleton, inputs,
      List.map_append, labelsOf]
    rw [List.perm_iff_count] at accounted ⊢
    intro label
    have counted := accounted label
    simp only [List.count_append] at counted ⊢
    omega
  ordered := by
    intro before last after nodes label member
    rcases last_or_earlier nodes with ⟨rfl, rfl⟩ | ⟨between, shorter⟩
    · -- The node is the new one; what it reads is offered, so it is known.
      rw [inputs] at member
      rcases List.mem_map.mp member with ⟨stream, streamRead, rfl⟩
      exact offers.known (List.mem_append_left rest streamRead)
    · exact offers.ordered before last between shorter label member
  makes := by
    intro last member
    rcases List.mem_append.mp member with member | member
    · exact offers.makes last member
    · rw [List.mem_singleton.mp member, outputs]
      simp
  shown := by
    intro stream member
    rcases List.mem_append.mp member with member | member
    · rcases List.mem_map.mp member with ⟨label, made, rfl⟩
      exact (pictureOf_append_of_mem made).trans shows
    · have offeredBefore := List.mem_append_right reads member
      have notMade : stream.1 ∉ node.outputs := by
        rw [outputs]
        simp only [List.mem_map, not_exists, not_and]
        exact fun offset _ equal =>
          offers.ne_drawnLabel offeredBefore (Nat.le_add_right _ offset) equal.symm
      exact (pictureOf_append_of_not_mem notMade).trans (offers.shown stream offeredBefore)

end Offers

/-! ## Steps -/

/-- A step that reads the given streams, adds the given inputs, and offers streams in their
place. It is never stopped, and what it does not read is still offered. -/
def Turns {α : Type} (step : Build α) (reads : List Stream.Shown) (added : List Input)
    (gives : α → List Stream.Shown) : Prop :=
  ∀ builder rest, builder.Offers (reads ++ rest) →
    ∃ value after, step builder = (.ok value, after) ∧ after.Offers (gives value ++ rest) ∧
      after.inputs = builder.inputs ++ added

namespace Turns

variable {α β : Type} {step : Build α} {reads : List Stream.Shown}
  {added : List Input} {gives : α → List Stream.Shown}

theorem pure (value : α) (given : gives value = reads) :
    Turns (Pure.pure value) reads [] gives := by
  intro builder rest offers
  exact ⟨value, builder, rfl, given ▸ offers, by simp⟩

theorem perm {more : List Stream.Shown} (turns : Turns step reads added gives)
    (same : more.Perm reads) :
    Turns step more added gives :=
  fun builder rest offers => turns builder rest (offers.perm (same.append_right rest))

theorem bind {next : α → Build β} {addedNext : List Input} {givesNext : β → List Stream.Shown}
    (more : List Stream.Shown) (turns : Turns step reads added gives)
    (turnsNext : ∀ value, Turns (next value) (gives value ++ more) addedNext givesNext) :
    Turns (step >>= next) (reads ++ more) (added ++ addedNext) givesNext := by
  intro builder rest offers
  rcases turns builder (more ++ rest) (by simpa using offers) with
    ⟨value, middle, ran, middleOffers, middleInputs⟩
  rcases turnsNext value middle rest (by simpa using middleOffers) with
    ⟨last, after, ranNext, afterOffers, afterInputs⟩
  refine ⟨last, after, (run_bind_of_ok ran next).trans ranNext, afterOffers, ?_⟩
  rw [afterInputs, middleInputs, List.append_assoc]

theorem foldlM {draw : String → β → Build String} {inputsOf : β → List Input}
    {drawn : Picture → β → Picture} (items : List β)
    (each : ∀ label picture item, item ∈ items →
      Turns (draw label item) [(label, picture)] (inputsOf item)
        fun next => [(next, drawn picture item)]) :
    ∀ label picture, Turns (items.foldlM draw label) [(label, picture)]
      (items.flatMap inputsOf) fun last => [(last, items.foldl drawn picture)] := by
  induction items with
  | nil => exact fun label picture => pure label rfl
  | cons item rest induction =>
      intro label picture
      rw [List.foldlM_cons, List.flatMap_cons, List.foldl_cons]
      exact (each label picture item List.mem_cons_self).bind [] fun next =>
        induction (fun label picture other member =>
          each label picture other (List.mem_cons_of_mem item member)) next (drawn picture item)

/-! ## Inputs and nodes -/

theorem addInput (path : String) (options : List String) :
    Turns (Builder.addInput path options) [] [⟨path, options⟩]
      fun index => [(inputLabel index, .source ⟨path, options⟩)] :=
  fun builder _ offers => ⟨builder.inputs.length, _, rfl, offers.addInput ⟨path, options⟩, rfl⟩

variable {kind : String} {options : List (String × Value)} {params : List (String × String)}

theorem add (reads : List Stream.Shown) {picture : Picture}
    (written : writeOptions options = .ok params)
    (shows : ∀ shown outputs, (∀ stream ∈ reads, shown stream.1 = some stream.2) →
      Node.shows ⟨kind, reads.map Prod.fst, params, outputs⟩ shown = some picture) :
    Turns (Builder.add kind (reads.map Prod.fst) options) reads []
      fun label => [(label, picture)] := by
  intro builder rest offers
  have known : ∀ stream ∈ reads,
      pictureOf builder.inputs builder.nodes stream.1 = some stream.2 :=
    fun stream member => offers.shown stream (List.mem_append_left rest member)
  exact ⟨drawnLabel builder.drawn, _, add_of_written written builder,
    offers.addNode _ 0 rfl rfl (shows _ _ known), by simp [withNode]⟩

theorem change (changes : kind ∈ changingKinds) (source : String)
    (written : writeOptions options = .ok params) (picture : Picture) :
    Turns (Builder.add kind [source] options) [(source, picture)] []
      fun label => [(label, .changed kind params picture)] :=
  add [(source, picture)] written fun _ outputs known =>
    Node.shows_changed changes params outputs (known (source, picture) List.mem_cons_self)

theorem mix (base layer : String) (written : writeOptions options = .ok params)
    (below above : Picture) :
    Turns (Builder.add "blend" [base, layer] options) [(base, below), (layer, above)] []
      fun label => [(label, .mixed params below above)] :=
  add [(base, below), (layer, above)] written fun _ outputs known =>
    Node.shows_mixed params outputs (known (base, below) (by simp))
      (known (layer, above) (by simp))

theorem draw (base top : String) (written : writeOptions options = .ok params)
    (below above : Picture) :
    Turns (Builder.add "overlay" [base, top] options) [(base, below), (top, above)] []
      fun label => [(label, .drawn params below above)] :=
  add [(base, below), (top, above)] written fun _ outputs known =>
    Node.shows_drawn params outputs (known (base, below) (by simp)) (known (top, above) (by simp))

theorem split (source : String) (picture : Picture) :
    Turns (Builder.split source) [(source, picture)] []
      fun copies => [(copies.1, picture), (copies.2, picture)] := by
  intro builder rest offers
  have reads : builder.Offers ([(source, picture)] ++ rest) := offers
  exact ⟨(drawnLabel builder.drawn, drawnLabel (builder.drawn + 1)), _, rfl,
    reads.addNode _ 1 rfl rfl (offers.shown (source, picture) (by simp)), by simp⟩

end Turns

end Builder

end Montage
