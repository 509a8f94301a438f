import Montage.Proofs.Graph.ReadingBack
import Montage.Proofs.Steps

/-! Which graphs can be written. The first node that makes nothing, or the first label that breaks
the rule for labels, is what is wrong with a graph. -/

namespace Montage

/-! ## Offences -/

section

variable (Rule : String → Prop)

def Node.Obeys (node : Node) : Prop :=
  node.outputs ≠ [] ∧ ∀ label ∈ node.labels, Rule label

inductive Node.Offends (node : Node) : GraphFault → Prop
  | noOutputs (nothing : node.outputs = []) : Offends node (.noOutputs node.kind)
  | badLabel (before : List String) (label : String) (after : List String)
      (something : node.outputs ≠ []) (labels : node.labels = before ++ label :: after)
      (obeyed : ∀ earlier ∈ before, Rule earlier) (broken : ¬ Rule label) :
      Offends node (.badLabel label)

def FirstOffence (nodes : List Node) (fault : GraphFault) : Prop :=
  ∃ before node after, nodes = before ++ node :: after ∧
    (∀ earlier ∈ before, earlier.Obeys Rule) ∧ node.Offends Rule fault

end

variable {Rule : String → Prop} {node : Node} {nodes : List Node} {fault : GraphFault}

theorem Node.exists_offends (disobeys : ¬ node.Obeys Rule) : ∃ fault, node.Offends Rule fault := by
  by_cases nothing : node.outputs = []
  · exact ⟨_, .noOutputs nothing⟩
  · rcases forall_or_exists_first Rule node.labels with
      obeyed | ⟨before, label, after, labels, obeyed, broken⟩
    · exact absurd ⟨nothing, obeyed⟩ disobeys
    · exact ⟨_, .badLabel before label after nothing labels obeyed broken⟩

/-- All nodes of a graph obey, or there is a first one that offends. -/
theorem obeys_or_firstOffence (Rule : String → Prop) (nodes : List Node) :
    (∀ node ∈ nodes, node.Obeys Rule) ∨ ∃ fault, FirstOffence Rule nodes fault := by
  rcases forall_or_exists_first (Node.Obeys Rule) nodes with
    all | ⟨before, node, after, split, obey, disobeys⟩
  · exact .inl all
  · rcases Node.exists_offends disobeys with ⟨fault, offends⟩
    exact .inr ⟨fault, before, node, after, split, obey, offends⟩

/-! ## What is written -/

def IsAdmitted (label : String) : Prop :=
  isLabel label.toList = true

theorem Node.render_eq_error_iff :
    node.render = .error fault ↔ node.Offends IsAdmitted fault := by
  constructor
  · intro rendered
    unfold render at rendered
    split at rendered
    · cases rendered
      rename_i nothing
      exact .noOutputs (List.isEmpty_iff.mp nothing)
    · rename_i something
      split at rendered
      · rename_i label found
        cases rendered
        rcases List.find?_eq_some_iff_append.mp found with ⟨broken, before, after, labels, obeyed⟩
        refine .badLabel before label after (by simpa using something) labels ?_ ?_
        · simpa [IsAdmitted] using obeyed
        · simpa [IsAdmitted] using broken
      · cases rendered
  · intro offends
    cases offends with
    | noOutputs nothing => simp [render, nothing]
    | badLabel before label after something labels obeyed broken =>
        have found : node.badLabel? = some label := by
          refine List.find?_eq_some_iff_append.mpr ⟨?_, before, after, labels, ?_⟩
          · simpa [IsAdmitted] using broken
          · simpa [IsAdmitted] using obeyed
        simp [render, something, found]

theorem Node.exists_render_iff : (∃ text, node.render = .ok text) ↔ node.Obeys IsAdmitted := by
  constructor
  · rintro ⟨text, rendered⟩
    by_contra disobeys
    rcases exists_offends disobeys with ⟨fault, offends⟩
    cases rendered.symm.trans (render_eq_error_iff.mpr offends)
  · intro obeys
    exact ⟨_, IsWritable.render obeys⟩

theorem renderGraph_eq_error_iff :
    renderGraph nodes = .error fault ↔ FirstOffence IsAdmitted nodes fault := by
  have asked : renderGraph nodes = .error fault ↔ nodes.mapM Node.render = .error fault := by
    unfold renderGraph
    cases nodes.mapM Node.render with
    | error other =>
        change Except.error other = .error fault ↔ _
        simp
    | ok texts => exact iff_of_false nofun nofun
  simp only [asked, mapM_eq_error_iff, Node.exists_render_iff, Node.render_eq_error_iff]
  exact Iff.rfl

theorem exists_renderGraph_iff :
    (∃ text, renderGraph nodes = .ok text) ↔ ∀ node ∈ nodes, node.Obeys IsAdmitted := by
  constructor
  · rintro ⟨text, written⟩
    rcases obeys_or_firstOffence IsAdmitted nodes with all | ⟨fault, first⟩
    · exact all
    · cases written.symm.trans (renderGraph_eq_error_iff.mpr first)
  · intro all
    exact ⟨_, renderGraph_of_writable all⟩

/-- What is admitted: the labels of the grammar, also with a line feed behind them. -/
theorem isAdmitted_iff (label : String) :
    IsAdmitted label ↔ IsLabel label ∨ ∃ name, IsLabel name ∧ label = name ++ "\n" := by
  constructor
  · intro admitted
    unfold IsAdmitted isLabel at admitted
    by_cases ends : label.toList.getLast? = some '\n'
    · simp only [ends, if_true, Bool.and_eq_true, List.all_eq_true] at admitted
      refine .inr ⟨String.ofList label.toList.dropLast, ⟨?_, ?_⟩, ?_⟩
      · simpa using admitted.1
      · simpa using admitted.2
      · apply String.toList_injective
        simpa using (List.dropLast_append_getLast? '\n' ends).symm
    · simp only [ends, if_false, Bool.and_eq_true, List.all_eq_true] at admitted
      exact .inl ⟨by simpa using admitted.1, admitted.2⟩
  · rintro (⟨given, chars⟩ | ⟨name, ⟨given, chars⟩, rfl⟩)
    · exact isLabel_of_all (by simpa using given) chars
    · have body : (name ++ "\n").toList.dropLast = name.toList := by simp
      have ends : (name ++ "\n").toList.getLast? = some '\n' := by simp
      simp only [IsAdmitted, isLabel, ends, if_true, body, Bool.and_eq_true, List.all_eq_true]
      exact ⟨by simpa using given, chars⟩

/-! ## The grammar -/

/-- A graph is written by the grammar of labels: there is a text exactly when every node makes
something and has only labels of the grammar, otherwise the first offence is the fault; and a label
puts none but the characters of labels into the text. -/
structure WritesByGrammar (nodes : List Node) : Prop where
  written_iff : (∃ text, renderGraph nodes = .ok text) ↔ ∀ node ∈ nodes, node.Obeys IsLabel
  fault_iff : ∀ fault, renderGraph nodes = .error fault ↔ FirstOffence IsLabel nodes fault
  chars : ∀ text, renderGraph nodes = .ok text →
    ∀ node ∈ nodes, ∀ label ∈ node.labels, ∀ char ∈ label.toList, isLabelChar char = true

theorem Node.Obeys.isAdmitted (obeys : node.Obeys IsLabel) : node.Obeys IsAdmitted :=
  ⟨obeys.1, fun label member => (isAdmitted_iff label).mpr (.inl (obeys.2 label member))⟩

/-- What offends against the grammar is not admitted either, unless it is a line feed. -/
theorem FirstOffence.isAdmitted (first : FirstOffence IsLabel nodes fault)
    (noLineFeed : ∀ name, IsLabel name → fault ≠ .badLabel (name ++ "\n")) :
    FirstOffence IsAdmitted nodes fault := by
  rcases first with ⟨before, node, after, split, obey, offends⟩
  refine ⟨before, node, after, split, fun earlier member => (obey earlier member).isAdmitted, ?_⟩
  cases offends with
  | noOutputs nothing => exact .noOutputs nothing
  | badLabel front label back something labels obeyed broken =>
      refine .badLabel front label back something labels
        (fun earlier member => (isAdmitted_iff earlier).mpr (.inl (obeyed earlier member))) ?_
      rintro admitted
      rcases (isAdmitted_iff label).mp admitted with good | ⟨name, isName, rfl⟩
      · exact broken good
      · exact noLineFeed name isName rfl

/-- A graph is written by the grammar unless the first offence in it is a line feed behind a label:
that one is let through. -/
theorem writesByGrammar_iff (nodes : List Node) :
    WritesByGrammar nodes ↔
      ∀ name, IsLabel name → ¬ FirstOffence IsLabel nodes (.badLabel (name ++ "\n")) := by
  constructor
  · intro writes name isName first
    have refused := renderGraph_eq_error_iff.mp ((writes.fault_iff _).mpr first)
    have admitted : IsAdmitted (name ++ "\n") := (isAdmitted_iff _).mpr (.inr ⟨name, isName, rfl⟩)
    rcases refused with ⟨_, _, _, _, _, _ | ⟨_, _, _, _, _, _, broken⟩⟩
    exact broken admitted
  · intro noLineFeed
    have refused {fault : GraphFault} (first : FirstOffence IsLabel nodes fault) :
        renderGraph nodes = .error fault := by
      refine renderGraph_eq_error_iff.mpr (first.isAdmitted ?_)
      rintro name isName rfl
      exact noLineFeed name isName first
    have written_iff : (∃ text, renderGraph nodes = .ok text) ↔
        ∀ node ∈ nodes, node.Obeys IsLabel := by
      constructor
      · rintro ⟨text, written⟩
        rcases obeys_or_firstOffence IsLabel nodes with all | ⟨fault, first⟩
        · exact all
        · cases written.symm.trans (refused first)
      · intro all
        exact exists_renderGraph_iff.mpr fun node member => (all node member).isAdmitted
    refine ⟨written_iff, fun fault => ⟨fun failed => ?_, refused⟩, ?_⟩
    · rcases obeys_or_firstOffence IsLabel nodes with all | ⟨other, first⟩
      · rcases written_iff.mpr all with ⟨text, written⟩
        cases written.symm.trans failed
      · cases failed.symm.trans (refused first)
        exact first
    · intro text written node member label inNode
      exact ((written_iff.mp ⟨text, written⟩ node member).2 label inNode).2

/-- A line feed behind the label of the video comes into the text. -/
theorem not_writesByGrammar_lineFeed :
    ¬ WritesByGrammar [⟨"null", ["0:v"], [], ["video\n"]⟩] := by
  intro writes
  have written : ∃ text, renderGraph [⟨"null", ["0:v"], [], ["video\n"]⟩] = .ok text :=
    ⟨"[0:v]null[video\n]", by decide +kernel⟩
  have obeys := writes.written_iff.mp written _ List.mem_cons_self
  exact absurd (obeys.2 "video\n" (by decide)) (by decide)

end Montage
