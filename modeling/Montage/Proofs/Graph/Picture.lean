import Montage.Proofs.Graph.Label

/-! What the streams of a graph show. A stream is followed back through the nodes that make
it to the inputs that it comes from. -/

namespace Montage

/-- What a stream shows: an input as it is, a picture with a change, or two pictures put
together. The parameters are those of the node that does it. -/
inductive Picture where
  | source (input : Input)
  | changed (kind : String) (params : List (String × String)) (picture : Picture)
  | mixed (params : List (String × String)) (base layer : Picture)
  | drawn (params : List (String × String)) (base top : Picture)
  deriving DecidableEq, Repr

def changingKinds : List String :=
  ["scale", "setpts", "format", "setsar", "colorchannelmixer", "crop"]

def Node.shows (node : Node) (shown : String → Option Picture) : Option Picture :=
  match node.inputs with
  | [source] =>
      if node.kind = "split" ∨ node.kind = "null" then shown source
      else if node.kind ∈ changingKinds then
        (shown source).map (.changed node.kind node.params)
      else none
  | [base, top] => do
      let below ← shown base
      let above ← shown top
      if node.kind = "blend" then return .mixed node.params below above
      else if node.kind = "overlay" then return .drawn node.params below above
      else none
  | _ => none

def inputShown (inputs : List Input) (label : String) : Option Picture :=
  ((List.range inputs.length).find? (inputLabel · == label)).bind fun index =>
    inputs[index]?.map .source

/-- What a label shows: the last node that makes it decides, and what it reads is followed
back through the nodes before it. A label that no node makes is that of an input. -/
def shownBy (inputs : List Input) : (latestFirst : List Node) → (label : String) → Option Picture
  | [], label => inputShown inputs label
  | node :: earlier, label =>
      if label ∈ node.outputs then node.shows (shownBy inputs earlier)
      else shownBy inputs earlier label

def pictureOf (inputs : List Input) (nodes : List Node) (label : String) : Option Picture :=
  shownBy inputs nodes.reverse label

example : pictureOf [⟨"a.mp4", []⟩]
      [⟨"scale", ["0:v"], [("w", "2")], ["out0"]⟩, ⟨"null", ["out0"], [], ["video"]⟩] "video" =
    some (.changed "scale" [("w", "2")] (.source ⟨"a.mp4", []⟩)) := by
  decide +kernel

/-! ## Inputs -/

theorem inputShown_inputLabel {inputs : List Input} {index : Nat} (known : index < inputs.length) :
    inputShown inputs (inputLabel index) = some (.source inputs[index]) := by
  have found :
      (List.range inputs.length).find? (inputLabel · == inputLabel index) = some index := by
    rw [List.find?_range_eq_some]
    refine ⟨by simp, by simpa using known, ?_⟩
    intro other less
    simpa using fun equal => Nat.ne_of_lt less (inputLabel_injective equal)
  simp [inputShown, found, known]

theorem exists_of_inputShown {inputs : List Input} {label : String} {picture : Picture}
    (shown : inputShown inputs label = some picture) :
    ∃ index, ∃ known : index < inputs.length,
      label = inputLabel index ∧ picture = .source inputs[index] := by
  simp only [inputShown, Option.bind_eq_some_iff, Option.map_eq_some_iff] at shown
  rcases shown with ⟨index, found, input, atIndex, rfl⟩
  rcases List.getElem?_eq_some_iff.mp atIndex with ⟨known, rfl⟩
  have same := List.find?_some found
  exact ⟨index, known, (beq_iff_eq.mp same).symm, rfl⟩

theorem inputShown_append {inputs : List Input} {label : String} {picture : Picture}
    (shown : inputShown inputs label = some picture) (more : List Input) :
    inputShown (inputs ++ more) label = some picture := by
  rcases exists_of_inputShown shown with ⟨index, known, rfl, rfl⟩
  have knownStill : index < (inputs ++ more).length := by
    rw [List.length_append]
    omega
  rw [inputShown_inputLabel knownStill, List.getElem_append_left known]

/-! ## Nodes -/

theorem Node.shows_mono (node : Node) {shown more : String → Option Picture}
    (known : ∀ label picture, shown label = some picture → more label = some picture)
    {picture : Picture} (holds : node.shows shown = some picture) :
    node.shows more = some picture := by
  unfold Node.shows at holds ⊢
  split at holds
  · rename_i source reads
    split at holds
    · rename_i passes
      rw [if_pos passes]
      exact known source picture holds
    · rename_i stays
      rw [if_neg stays]
      split at holds
      · rename_i changes
        rcases Option.map_eq_some_iff.mp holds with ⟨below, belowShown, rfl⟩
        rw [if_pos changes, known source below belowShown]
        rfl
      · cases holds
  · rename_i base top reads
    rcases Option.bind_eq_some_iff.mp holds with ⟨below, belowShown, rest⟩
    rcases Option.bind_eq_some_iff.mp rest with ⟨above, aboveShown, decided⟩
    rw [known base below belowShown, known top above aboveShown]
    exact decided
  · cases holds

theorem Node.shows_changed {kind : String} (changes : kind ∈ changingKinds) {source : String}
    (params : List (String × String)) (outputs : List String) {shown : String → Option Picture}
    {picture : Picture} (known : shown source = some picture) :
    Node.shows ⟨kind, [source], params, outputs⟩ shown = some (.changed kind params picture) := by
  have noCopy : ¬ (kind = "split" ∨ kind = "null") := by
    rintro (rfl | rfl)
    · exact absurd changes (by decide)
    · exact absurd changes (by decide)
  simp only [Node.shows, noCopy, changes, if_false, if_true, known, Option.map_some]

theorem Node.shows_mixed {base layer : String} (params : List (String × String))
    (outputs : List String) {shown : String → Option Picture} {below above : Picture}
    (baseKnown : shown base = some below) (layerKnown : shown layer = some above) :
    Node.shows ⟨"blend", [base, layer], params, outputs⟩ shown =
      some (.mixed params below above) := by
  simp only [Node.shows, baseKnown, layerKnown]
  rfl

theorem Node.shows_drawn {base top : String} (params : List (String × String))
    (outputs : List String) {shown : String → Option Picture} {below above : Picture}
    (baseKnown : shown base = some below) (topKnown : shown top = some above) :
    Node.shows ⟨"overlay", [base, top], params, outputs⟩ shown =
      some (.drawn params below above) := by
  simp only [Node.shows, baseKnown, topKnown]
  rfl

theorem shownBy_append_inputs {inputs : List Input} (more : List Input) {nodes : List Node} :
    ∀ {label : String} {picture : Picture}, shownBy inputs nodes label = some picture →
      shownBy (inputs ++ more) nodes label = some picture := by
  induction nodes with
  | nil =>
      intro label picture shown
      exact inputShown_append shown more
  | cons node earlier induction =>
      intro label picture shown
      unfold shownBy at shown ⊢
      split at shown
      · rename_i made
        rw [if_pos made]
        exact node.shows_mono (fun _ _ => induction) shown
      · rename_i notMade
        rw [if_neg notMade]
        exact induction shown

theorem shownBy_of_not_mem {inputs : List Input} {nodes : List Node} {label : String}
    (notMade : label ∉ nodes.flatMap Node.outputs) :
    shownBy inputs nodes label = inputShown inputs label := by
  induction nodes with
  | nil => rfl
  | cons node earlier induction =>
      simp only [List.flatMap_cons, List.mem_append, not_or] at notMade
      rw [shownBy, if_neg notMade.1]
      exact induction notMade.2

theorem pictureOf_append_inputs {inputs : List Input} {nodes : List Node} {label : String}
    {picture : Picture} (shown : pictureOf inputs nodes label = some picture)
    (more : List Input) : pictureOf (inputs ++ more) nodes label = some picture :=
  shownBy_append_inputs more shown

theorem pictureOf_new_input (inputs : List Input) {nodes : List Node} (input : Input)
    (notMade : inputLabel inputs.length ∉ nodes.flatMap Node.outputs) :
    pictureOf (inputs ++ [input]) nodes (inputLabel inputs.length) = some (.source input) := by
  have known : inputs.length < (inputs ++ [input]).length := by simp
  have absent : inputLabel inputs.length ∉ nodes.reverse.flatMap Node.outputs := by
    simpa using notMade
  rw [pictureOf, shownBy_of_not_mem absent, inputShown_inputLabel known]
  simp

theorem pictureOf_append_of_mem {inputs : List Input} {nodes : List Node} {node : Node}
    {label : String} (made : label ∈ node.outputs) :
    pictureOf inputs (nodes ++ [node]) label = node.shows (pictureOf inputs nodes) := by
  rw [pictureOf, List.reverse_append]
  exact if_pos made

theorem pictureOf_append_of_not_mem {inputs : List Input} {nodes : List Node} {node : Node}
    {label : String} (notMade : label ∉ node.outputs) :
    pictureOf inputs (nodes ++ [node]) label = pictureOf inputs nodes label := by
  rw [pictureOf, List.reverse_append]
  exact if_neg notMade

theorem pictureOf_append_of_not_made {inputs : List Input} {before after : List Node}
    {label : String} (notMade : label ∉ after.flatMap Node.outputs) :
    pictureOf inputs (before ++ after) label = pictureOf inputs before label := by
  induction after generalizing before with
  | nil => rw [List.append_nil]
  | cons node rest induction =>
      simp only [List.flatMap_cons, List.mem_append, not_or] at notMade
      rw [List.append_cons, induction notMade.2, pictureOf_append_of_not_mem notMade.1]

/-- A stream that shows something is an input or made by a node. -/
theorem made_or_input_of_pictureOf {inputs : List Input} {nodes : List Node} {label : String}
    {picture : Picture} (shown : pictureOf inputs nodes label = some picture) :
    label ∈ nodes.flatMap Node.outputs ∨ ∃ index, label = inputLabel index := by
  by_cases made : label ∈ nodes.flatMap Node.outputs
  · exact .inl made
  · have absent : label ∉ nodes.reverse.flatMap Node.outputs := by simpa using made
    rw [pictureOf, shownBy_of_not_mem absent] at shown
    rcases exists_of_inputShown shown with ⟨index, _, isInput, _⟩
    exact .inr ⟨index, isInput⟩

end Montage
