import Mathlib.Data.List.Nodup
import Montage.Proofs.Graph.Drawing

/-! The wiring of a finished graph: which labels its nodes read and make, and how often. A
graph that was built by steps that turn streams into others is well wired, shows in the end
what was last offered, and can be written. -/

namespace Montage

/-- A graph over so many inputs whose labels are all used as ffmpeg asks: a node reads
inputs and what earlier nodes make; every input and every stream is read once, every stream
is made once, and the video is what the last node makes. -/
structure WellWired (inputCount : Nat) (nodes : List Node) : Prop where
  reads_known : ∀ before node after, nodes = before ++ node :: after →
    ∀ label ∈ node.inputs, (∃ index < inputCount, label = inputLabel index) ∨
      label ∈ before.flatMap Node.outputs
  input_read_once : ∀ index < inputCount,
    (nodes.flatMap Node.inputs).count (inputLabel index) = 1
  stream_read_once : ∀ label ∈ nodes.flatMap Node.outputs, label ≠ videoLabel →
    (nodes.flatMap Node.inputs).count label = 1
  made_once : (nodes.flatMap Node.outputs).Nodup
  video_last : ∃ before last, nodes = before ++ [last] ∧ last.outputs = [videoLabel]
  video_unread : videoLabel ∉ nodes.flatMap Node.inputs

/-! ## Graphs that can be written -/

def Node.IsWritable (node : Node) : Prop :=
  node.outputs ≠ [] ∧ ∀ label ∈ node.labels, isLabel label.toList = true

theorem Node.IsWritable.render {node : Node} (writable : node.IsWritable) :
    node.render = .ok node.text := by
  have noBadLabel : node.badLabel? = none := by
    simpa [badLabel?] using writable.2
  simp [Node.render, writable.1, noBadLabel]

theorem renderGraph_of_writable {nodes : List Node}
    (writable : ∀ node ∈ nodes, node.IsWritable) :
    renderGraph nodes = .ok (";".intercalate (nodes.map Node.text)) := by
  have texts : nodes.mapM Node.render = .ok (nodes.map Node.text) := by
    induction nodes with
    | nil => rfl
    | cons node rest induction =>
        rw [List.mapM_cons, (writable node List.mem_cons_self).render,
          induction fun other member => writable other (List.mem_cons_of_mem node member)]
        rfl
  unfold renderGraph
  rw [texts]
  rfl

/-! ## Labels of a builder -/

namespace Builder

theorem labels_nodup (builder : Builder) : builder.labels.Nodup := by
  apply List.nodup_append.mpr
  refine ⟨List.nodup_range.map inputLabel_injective, List.nodup_range.map drawnLabel_injective, ?_⟩
  intro left leftMember right rightMember equal
  rcases List.mem_map.mp leftMember with ⟨index, _, rfl⟩
  rcases List.mem_map.mp rightMember with ⟨number, _, rfl⟩
  exact inputLabel_ne_drawnLabel index number equal

theorem isLabel_of_mem_labels {builder : Builder} {label : String}
    (member : label ∈ builder.labels) : isLabel label.toList = true := by
  rcases List.mem_append.mp member with member | member
  · rcases List.mem_map.mp member with ⟨index, _, rfl⟩
    exact isLabel_inputLabel index
  · rcases List.mem_map.mp member with ⟨number, _, rfl⟩
    exact isLabel_drawnLabel number

theorem videoLabel_not_mem_labels (builder : Builder) : videoLabel ∉ builder.labels := by
  intro member
  rcases List.mem_append.mp member with member | member
  · rcases List.mem_map.mp member with ⟨index, _, equal⟩
    exact inputLabel_ne_videoLabel index equal
  · rcases List.mem_map.mp member with ⟨number, _, equal⟩
    exact drawnLabel_ne_videoLabel number equal

namespace Offers

variable {builder : Builder} {offered : List Stream.Shown}

theorem read_mem_labels (offers : builder.Offers offered) {label : String}
    (read : label ∈ builder.nodes.flatMap Node.inputs) : label ∈ builder.labels :=
  offers.accounted.mem_iff.mp (List.mem_append_left _ read)

theorem made_mem_labels (offers : builder.Offers offered) {label : String}
    (made : label ∈ builder.nodes.flatMap Node.outputs) : label ∈ builder.labels :=
  List.mem_append_right _ (offers.made ▸ made)

theorem count_eq_one (offers : builder.Offers offered) {label : String}
    (known : label ∈ builder.labels) :
    (builder.nodes.flatMap Node.inputs).count label +
      (offered.map Prod.fst).count label = 1 := by
  rw [← List.count_append, offers.accounted.count_eq]
  exact List.count_eq_one_of_mem builder.labels_nodup known

theorem isWritable (offers : builder.Offers offered) {node : Node}
    (member : node ∈ builder.nodes) : node.IsWritable := by
  refine ⟨offers.makes node member, ?_⟩
  intro label labelMember
  rcases List.mem_append.mp labelMember with read | made
  · exact isLabel_of_mem_labels
      (offers.read_mem_labels (List.mem_flatMap.mpr ⟨node, member, read⟩))
  · exact isLabel_of_mem_labels
      (offers.made_mem_labels (List.mem_flatMap.mpr ⟨node, member, made⟩))

end Offers

end Builder

/-! ## The last stream becomes the video -/

def endedNodes (label : String) (nodes : List Node) : List Node :=
  match nodes.getLast? with
  | some last =>
      if last.outputs = [label] then nodes.dropLast ++ [{ last with outputs := [videoLabel] }]
      else nodes ++ [⟨"null", [label], [], [videoLabel]⟩]
  | none => [⟨"null", [label], [], [videoLabel]⟩]

theorem Builder.finish_eq (label : String) (builder : Builder) :
    finish label builder =
      (.ok videoLabel, { builder with nodes := endedNodes label builder.nodes }) := by
  refine Eq.trans rfl (congrArg (Prod.mk _) ?_)
  dsimp only [endedNodes]
  cases builder.nodes.getLast? with
  | none => rfl
  | some last =>
      dsimp only
      split <;> rfl

/-- The last node takes the label of the video, or a new one passes the stream on. -/
theorem endedNodes_cases (label : String) (nodes : List Node) :
    (∃ before last, nodes = before ++ [last] ∧ last.outputs = [label] ∧
        endedNodes label nodes = before ++ [{ last with outputs := [videoLabel] }]) ∨
      endedNodes label nodes = nodes ++ [⟨"null", [label], [], [videoLabel]⟩] := by
  unfold endedNodes
  cases lastNode : nodes.getLast? with
  | none =>
      rw [List.getLast?_eq_none_iff.mp lastNode]
      exact .inr rfl
  | some last =>
      dsimp only
      by_cases outputs : last.outputs = [label]
      · rw [if_pos outputs]
        have split : nodes = nodes.dropLast ++ [last] :=
          (List.dropLast_append_getLast? last lastNode).symm
        exact .inl ⟨nodes.dropLast, last, split, outputs, rfl⟩
      · rw [if_neg outputs]
        exact .inr rfl

theorem Builder.finish_cases (builder : Builder) (top : String) :
    ∃ after, Builder.finish top builder = (.ok videoLabel, after) ∧
      after.inputs = builder.inputs ∧
      ((∃ before last, builder.nodes = before ++ [last] ∧ last.outputs = [top] ∧
          after.nodes = before ++ [{ last with outputs := [videoLabel] }]) ∨
        after.nodes = builder.nodes ++ [⟨"null", [top], [], [videoLabel]⟩]) :=
  ⟨_, finish_eq top builder, rfl, endedNodes_cases top builder.nodes⟩

structure Finished (inputs : List Input) (nodes : List Node) (picture : Picture) : Prop where
  wired : WellWired inputs.length nodes
  writable : ∀ node ∈ nodes, node.IsWritable
  shows : pictureOf inputs nodes videoLabel = some picture

namespace Builder.Offers

variable {builder : Builder} {top : String} {picture : Picture} {before : List Node} {last : Node}

/-- Every label but that of the last stream is read once. -/
theorem count_read_eq_one (offers : builder.Offers [(top, picture)]) {label : String}
    (known : label ∈ builder.labels) (different : label ≠ top) :
    (builder.nodes.flatMap Node.inputs).count label = 1 := by
  have once := offers.count_eq_one known
  rw [List.map_singleton, List.count_singleton, beq_false_of_ne different.symm] at once
  exact once

/-- The last node may take the label of the video when only it makes the last stream. -/
theorem wired_of_rename (offers : builder.Offers [(top, picture)])
    (nodes : builder.nodes = before ++ [last]) (outputs : last.outputs = [top]) :
    WellWired builder.inputs.length (before ++ [{ last with outputs := [videoLabel] }]) := by
  have reads : (before ++ [{ last with outputs := [videoLabel] }]).flatMap Node.inputs =
      builder.nodes.flatMap Node.inputs := by simp [nodes]
  have makes : (before ++ [{ last with outputs := [videoLabel] }]).flatMap Node.outputs =
      before.flatMap Node.outputs ++ [videoLabel] := by simp
  have made : builder.nodes.flatMap Node.outputs = before.flatMap Node.outputs ++ [top] := by
    simp [nodes, outputs]
  have madeOnce : (before.flatMap Node.outputs ++ [top]).Nodup := by
    rw [← made, offers.made]
    exact List.nodup_range.map drawnLabel_injective
  have earlierMade : ∀ label ∈ before.flatMap Node.outputs,
      label ∈ builder.nodes.flatMap Node.outputs := by
    intro label member
    rw [made]
    exact List.mem_append_left _ member
  constructor
  · intro earlier node after equal label member
    rcases last_or_earlier equal with ⟨rfl, rfl⟩ | ⟨between, rfl⟩
    · exact offers.ordered earlier last [] nodes label member
    · apply offers.ordered earlier node (between ++ [last]) _ label member
      simp [nodes]
  · intro index less
    rw [reads]
    apply offers.count_read_eq_one
    · exact List.mem_append_left _ (List.mem_map_of_mem (List.mem_range.mpr less))
    · intro isTop
      apply offers.inputLabel_not_made index
      rw [made, isTop]
      simp
  · intro label member different
    rw [makes, List.mem_append, List.mem_singleton] at member
    have earlier := member.resolve_right different
    rw [reads]
    apply offers.count_read_eq_one (offers.made_mem_labels (earlierMade label earlier))
    intro isTop
    exact (List.nodup_append.mp madeOnce).2.2 label earlier top (by simp) isTop
  · rw [makes, List.nodup_append]
    refine ⟨(List.nodup_append.mp madeOnce).1, List.nodup_singleton videoLabel, ?_⟩
    intro label member video isVideo equal
    rw [List.mem_singleton.mp isVideo] at equal
    exact builder.videoLabel_not_mem_labels
      (equal ▸ offers.made_mem_labels (earlierMade label member))
  · exact ⟨before, _, rfl, rfl⟩
  · rw [reads]
    exact fun read => builder.videoLabel_not_mem_labels (offers.read_mem_labels read)

theorem finished_of_rename (offers : builder.Offers [(top, picture)])
    (nodes : builder.nodes = before ++ [last]) (outputs : last.outputs = [top]) :
    Finished builder.inputs (before ++ [{ last with outputs := [videoLabel] }]) picture where
  wired := offers.wired_of_rename nodes outputs
  writable := by
    intro node member
    rcases List.mem_append.mp member with member | member
    · exact offers.isWritable (by rw [nodes]; exact List.mem_append_left _ member)
    · rw [List.mem_singleton.mp member]
      have lastWritable : last.IsWritable := offers.isWritable (by rw [nodes]; simp)
      refine ⟨by simp, ?_⟩
      intro label labelMember
      rcases List.mem_append.mp labelMember with read | isVideo
      · exact lastWritable.2 label (List.mem_append_left _ read)
      · rw [List.mem_singleton.mp isVideo]
        exact isLabel_videoLabel
  shows := by
    have topShown : pictureOf builder.inputs builder.nodes top = some picture :=
      offers.shown (top, picture) (by simp)
    rw [nodes, pictureOf_append_of_mem (by simp [outputs])] at topShown
    rw [pictureOf_append_of_mem (by simp)]
    exact topShown

theorem finished_of_pass (offers : builder.Offers [(top, picture)]) :
    Finished builder.inputs (builder.nodes ++ [⟨"null", [top], [], [videoLabel]⟩]) picture := by
  have reads : builder.Offers ([(top, picture)] ++ []) := offers
  have passed := reads.addNode ⟨"null", [top], [], [drawnLabel builder.drawn]⟩ 0 rfl rfl
    (offers.shown (top, picture) (by simp))
  exact finished_of_rename passed rfl rfl

theorem finish (offers : builder.Offers [(top, picture)]) :
    ∃ after, Builder.finish top builder = (.ok videoLabel, after) ∧
      after.inputs = builder.inputs ∧ Finished after.inputs after.nodes picture := by
  rcases builder.finish_cases top with ⟨after, ran, inputs, ends⟩
  refine ⟨after, ran, inputs, ?_⟩
  rw [inputs]
  rcases ends with ⟨before, last, nodes, outputs, renamed⟩ | passed
  · rw [renamed]
    exact offers.finished_of_rename nodes outputs
  · rw [passed]
    exact offers.finished_of_pass

end Builder.Offers

end Montage
