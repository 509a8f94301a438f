import Montage.Proofs.Graph.Marks
import Montage.Proofs.Graph.Wiring
import Montage.Text.Word

/-! A reader of the text of filter graphs. What it reads in the text of a graph is that graph,
so no two graphs are written alike. -/

namespace Montage

/-! ## A reader -/

def readLabels : (label : Option (List Mark)) → List Mark → Option (List String × List Mark)
  | none, .bare '[' :: rest => readLabels (some []) rest
  | none, marks => some ([], marks)
  | some _, [] => none
  | some label, mark :: rest =>
      if mark = .bare ']' then
        (readLabels none rest).map fun (labels, after) => (Mark.textOf label :: labels, after)
      else readLabels (some (label ++ [mark])) rest

def readOption (marks : List Mark) : Option (String × String) :=
  match marks.dropWhile (· != .bare '=') with
  | [] => none
  | _ :: value => some (Mark.textOf (marks.takeWhile (· != .bare '=')), Mark.textOf value)

def readOptions : List Mark → Option (List (String × String) × List Mark)
  | .bare '=' :: marks => do
      let options := marks.takeWhile (· != .bare '[')
      let params ← (options.splitOn (.bare ':')).mapM readOption
      return (params, marks.dropWhile (· != .bare '['))
  | marks => some ([], marks)

def endsKind (mark : Mark) : Bool :=
  mark == .bare '=' || mark == .bare '['

def readNode (marks : List Mark) : Option Node := do
  let (inputs, rest) ← readLabels none marks
  let kind := rest.takeWhile (!endsKind ·)
  let (params, rest) ← readOptions (rest.dropWhile (!endsKind ·))
  match ← readLabels none rest with
  | (output :: outputs, []) => return ⟨Mark.textOf kind, inputs, params, output :: outputs⟩
  | _ => none

def readGraph (text : String) : Option (List Node) := do
  let marks ← Mark.ofChars .outside text.toList
  if text.isEmpty then return [] else (marks.splitOn (.bare ';')).mapM readNode

example : readGraph "[a]scale=w='2:3'[b];null[c]" =
    some [⟨"scale", ["a"], [("w", "2:3")], ["b"]⟩, ⟨"null", [], [], ["c"]⟩] := by
  decide +kernel

/-! ## Names -/

def IsWord (word : String) : Prop :=
  word ≠ "" ∧ ∀ char ∈ word.toList, isWordChar char = true

def IsLabel (label : String) : Prop :=
  label ≠ "" ∧ ∀ char ∈ label.toList, isLabelChar char = true

structure Node.IsNamed (node : Node) : Prop where
  kind : IsWord node.kind
  keys : ∀ param ∈ node.params, IsWord param.1
  labels : ∀ label ∈ node.labels, IsLabel label
  outputs : node.outputs ≠ []

instance (word : String) : Decidable (IsWord word) :=
  @instDecidableAnd _ _ inferInstance (List.decidableBAll _ word.toList)

instance (label : String) : Decidable (IsLabel label) :=
  @instDecidableAnd _ _ inferInstance (List.decidableBAll _ label.toList)

instance (node : Node) : Decidable node.IsNamed :=
  decidable_of_iff
    (IsWord node.kind ∧ (∀ param ∈ node.params, IsWord param.1) ∧
      (∀ label ∈ node.labels, IsLabel label) ∧ node.outputs ≠ [])
    ⟨fun ⟨kind, keys, labels, outputs⟩ => ⟨kind, keys, labels, outputs⟩,
      fun named => ⟨named.kind, named.keys, named.labels, named.outputs⟩⟩

theorem isWordChar_of_mem_graphSigns : ∀ sign ∈ graphSigns, isWordChar sign = false := by
  -- All signs lie before the small letters, in the first runs.
  obtain ⟨rest, runs⟩ : ∃ rest, wordChars.runs = 48 :: 10 :: 7 :: 26 :: 4 :: rest := ⟨_, rfl⟩
  simp [graphSigns, isWordChar, CharSet.contains, CharSet.offset?, runs, CharSet.offsetIn?]

theorem IsWord.sign_not_mem {word : String} (isWord : IsWord word) {sign : Char}
    (isSign : sign ∈ graphSigns) : sign ∉ word.toList := by
  intro member
  have notOfWord := isWordChar_of_mem_graphSigns sign isSign
  rw [isWord.2 sign member] at notOfWord
  cases notOfWord

namespace Node.IsNamed

variable {node : Node}

theorem sign_not_mem_label (named : node.IsNamed) {label : String} (member : label ∈ node.labels)
    {sign : Char} (isSign : isLabelChar sign = false) : sign ∉ label.toList := by
  intro inLabel
  rw [(named.labels label member).2 sign inLabel] at isSign
  cases isSign

theorem isWritable (named : node.IsNamed) : node.IsWritable := by
  refine ⟨named.outputs, fun label member => ?_⟩
  rcases named.labels label member with ⟨some, chars⟩
  exact isLabel_of_all (by simpa using some) chars

end Node.IsNamed

/-! ## The marks of a graph -/

theorem mem_intercalate_iff {α : Type} {separator item : α} (other : item ≠ separator)
    (parts : List (List α)) :
    item ∈ [separator].intercalate parts ↔ ∃ part ∈ parts, item ∈ part := by
  induction parts with
  | nil => simp
  | cons part rest induction =>
      cases rest with
      | nil => simp
      | cons next rest =>
          rw [List.intercalate_cons_cons, List.mem_append, List.mem_append, induction]
          simp [other]

namespace Mark

def ofLabel (label : String) : List Mark :=
  .bare '[' :: label.toList.map .bare ++ [.bare ']']

def ofOption (param : String × String) : List Mark :=
  param.1.toList.map .bare ++ .bare '=' :: ofValue param.2.toList

def ofOptions (params : List (String × String)) : List Mark :=
  if params.isEmpty then [] else .bare '=' :: [.bare ':'].intercalate (params.map ofOption)

def ofNode (node : Node) : List Mark :=
  node.inputs.flatMap ofLabel ++ node.kind.toList.map .bare ++ ofOptions node.params ++
    node.outputs.flatMap ofLabel

theorem written_word {text : String} {isOfWord : Char → Bool}
    (chars : ∀ char ∈ text.toList, isOfWord char = true) (quote : isOfWord '\'' = false)
    (backslash : isOfWord '\\' = false) : Written text.toList (text.toList.map .bare) := by
  refine .ofUnquoted fun char member => ⟨?_, ?_⟩
  · rintro rfl
    exact absurd (chars _ member) (by simp [quote])
  · rintro rfl
    exact absurd (chars _ member) (by simp [backslash])

theorem written_sign {sign : Char} (isSign : sign ∈ ['[', ']', '=', ':', ';']) :
    Written [sign] [.bare sign] := by
  refine .bare ?_ ?_
  · rintro rfl
    exact absurd isSign (by decide)
  · rintro rfl
    exact absurd isSign (by decide)

theorem written_labelChars {label : String}
    (chars : ∀ char ∈ label.toList, isLabelChar char = true) :
    Written (Node.labelChars label) (ofLabel label) :=
  ((written_sign (by decide)).append (written_word chars (by decide) (by decide))).append
    (written_sign (by decide))

theorem written_option {param : String × String} (isWord : IsWord param.1) :
    Written (param.1.toList ++ '=' :: optionChars param.2.toList) (ofOption param) :=
  (written_word isWord.2 (isWordChar_of_mem_graphSigns _ (by decide))
    (isWordChar_of_mem_graphSigns _ (by decide))).append
    ((written_sign (by decide)).append (written_optionChars param.2.toList))

theorem optionsText_toList (params : List (String × String)) :
    (Node.optionsText params).toList = if params.isEmpty then [] else
      '=' :: [':'].intercalate
        (params.map fun param => param.1.toList ++ '=' :: optionChars param.2.toList) := by
  unfold Node.optionsText
  split
  · rfl
  · simp [String.toList_intercalate, optionText, Function.comp_def]

theorem written_optionsText {params : List (String × String)}
    (words : ∀ param ∈ params, IsWord param.1) :
    Written (Node.optionsText params).toList (ofOptions params) := by
  rw [optionsText_toList]
  unfold ofOptions
  split
  · exact .nil
  · exact (written_sign (by decide)).append
      (.intercalate (written_sign (by decide)) fun param member =>
        written_option (words param member))

theorem written_node {node : Node} (named : node.IsNamed) :
    Written node.text.toList (ofNode node) := by
  have labels {labels : List String} (some : labels ⊆ node.labels) :
      Written (labels.flatMap Node.labelChars) (labels.flatMap ofLabel) :=
    .flatMap fun label member => written_labelChars (named.labels label (some member)).2
  have kind := written_word named.kind.2 (isWordChar_of_mem_graphSigns _ (by decide))
    (isWordChar_of_mem_graphSigns _ (by decide))
  rw [node.text_toList]
  exact (((labels (List.subset_append_left _ _)).append kind).append
    (written_optionsText named.keys)).append (labels (List.subset_append_right _ _))

theorem written_graph {nodes : List Node} (named : ∀ node ∈ nodes, node.IsNamed) :
    Written (";".intercalate (nodes.map Node.text)).toList
      ([.bare ';'].intercalate (nodes.map ofNode)) := by
  rw [String.toList_intercalate, List.map_map]
  exact .intercalate (written_sign (by decide)) fun node member => written_node (named node member)

/-! ## Signs have one place each -/

theorem sign_not_mem_ofLabel {label : String} {sign : Char} (bracket : sign ∉ ['[', ']'])
    (notInLabel : sign ∉ label.toList) : .bare sign ∉ ofLabel label := by
  simp only [ofLabel, List.mem_append, List.mem_cons, List.mem_map, bare.injEq] at bracket ⊢
  grind

theorem sign_not_mem_ofOption {param : String × String} (isWord : IsWord param.1) {sign : Char}
    (isSign : sign ∈ graphSigns) (other : sign ≠ '=') : .bare sign ∉ ofOption param := by
  have notInKey := isWord.sign_not_mem isSign
  have notInValue := sign_not_mem_ofValue isSign param.2.toList
  simp only [ofOption, List.mem_append, List.mem_cons, List.mem_map, bare.injEq]
  grind

theorem mem_of_mem_intercalate {separator mark : Mark} {parts : List (List Mark)}
    (member : mark ∈ [separator].intercalate parts) :
    mark = separator ∨ ∃ part ∈ parts, mark ∈ part := by
  rcases eq_or_ne mark separator with same | other
  · exact .inl same
  · exact .inr ((mem_intercalate_iff other parts).mp member)

theorem sign_not_mem_ofOptions {params : List (String × String)}
    (words : ∀ param ∈ params, IsWord param.1) {sign : Char} (isSign : sign ∈ graphSigns)
    (notEquals : sign ≠ '=') (notColon : sign ≠ ':') : .bare sign ∉ ofOptions params := by
  unfold ofOptions
  split
  · exact List.not_mem_nil
  · intro member
    rcases List.mem_cons.mp member with same | member
    · exact notEquals (bare.inj same)
    · rcases mem_of_mem_intercalate member with same | ⟨part, partMember, inside⟩
      · exact notColon (bare.inj same)
      · rcases List.mem_map.mp partMember with ⟨param, paramMember, rfl⟩
        exact sign_not_mem_ofOption (words param paramMember) isSign notEquals inside

theorem semicolon_not_mem_ofNode {node : Node} (named : node.IsNamed) :
    .bare ';' ∉ ofNode node := by
  have notInLabels {labels : List String} (some : labels ⊆ node.labels) :
      .bare ';' ∉ labels.flatMap ofLabel := by
    intro member
    rcases List.mem_flatMap.mp member with ⟨label, labelMember, inside⟩
    exact sign_not_mem_ofLabel (by decide)
      (named.sign_not_mem_label (some labelMember) (by decide)) inside
  have notInKind : bare ';' ∉ node.kind.toList.map bare := by
    simpa using named.kind.sign_not_mem (by decide)
  have notInOptions : .bare ';' ∉ ofOptions node.params :=
    sign_not_mem_ofOptions named.keys (by decide) (by decide) (by decide)
  simp only [ofNode, List.mem_append, not_or]
  exact ⟨⟨⟨notInLabels (List.subset_append_left _ _), notInKind⟩, notInOptions⟩,
    notInLabels (List.subset_append_right _ _)⟩

end Mark

/-! ## Reading what was written -/

open Mark

theorem readLabels_open {chars : List Char} (closed : ']' ∉ chars) (label rest : List Mark) :
    readLabels (some label) (chars.map .bare ++ .bare ']' :: rest) =
      (readLabels none rest).map fun (labels, after) =>
        (textOf (label ++ chars.map .bare) :: labels, after) := by
  induction chars generalizing label with
  | nil => simp [readLabels]
  | cons first chars induction =>
      have notBracket : bare first ≠ bare ']' := by
        rintro ⟨⟩
        exact closed List.mem_cons_self
      have once (more : List Mark) : readLabels (some label) (bare first :: more) =
          readLabels (some (label ++ [bare first])) more := by
        rw [readLabels, if_neg notBracket]
      rw [List.map_cons, List.cons_append, once,
        induction fun member => closed (List.mem_cons_of_mem first member), List.append_assoc]
      rfl

theorem readLabels_ofLabels {labels : List String} (closed : ∀ label ∈ labels, ']' ∉ label.toList)
    {rest : List Mark} (other : rest.head? ≠ some (.bare '[')) :
    readLabels none (labels.flatMap ofLabel ++ rest) = some (labels, rest) := by
  induction labels with
  | nil =>
      rcases rest with _ | ⟨mark, rest⟩
      · rfl
      · simp only [List.head?_cons] at other
        unfold readLabels
        grind
  | cons label labels induction =>
      have restRead :=
        induction fun other member => closed other (List.mem_cons_of_mem label member)
      have here := closed label List.mem_cons_self
      simp only [List.flatMap_cons, ofLabel, List.cons_append, List.append_assoc, List.nil_append]
      rw [readLabels, readLabels_open here, restRead]
      simp [textOf_bare]

theorem readOption_ofOption {param : String × String} (isWord : IsWord param.1) :
    readOption (ofOption param) = some param := by
  have notEquals : ∀ mark ∈ param.1.toList.map Mark.bare, (mark != .bare '=') = true := by
    intro mark member
    rcases List.mem_map.mp member with ⟨char, inKey, rfl⟩
    have other : char ≠ '=' := fun same => isWord.sign_not_mem (by decide) (same ▸ inKey)
    simpa using other
  unfold readOption ofOption
  rw [List.dropWhile_append_of_pos notEquals, List.takeWhile_append_of_pos notEquals]
  simp [textOf_bare, textOf_ofValue]

theorem mapM_map_eq_some {α β : Type} {items : List α} {write : α → β} {read : β → Option α}
    (each : ∀ item ∈ items, read (write item) = some item) :
    (items.map write).mapM read = some items := by
  induction items with
  | nil => rfl
  | cons item rest induction =>
      rw [List.map_cons, List.mapM_cons, each item List.mem_cons_self,
        induction fun other member => each other (List.mem_cons_of_mem item member)]
      rfl

/-- What is written with separators between its parts is read part by part. -/
theorem mapM_splitOn_eq_some {α : Type} {items : List α} {write : α → List Mark}
    {read : List Mark → Option α} {separator : Mark} (nonempty : items ≠ [])
    (each : ∀ item ∈ items, read (write item) = some item)
    (apart : ∀ item ∈ items, separator ∉ write item) :
    (([separator].intercalate (items.map write)).splitOn separator).mapM read = some items := by
  rw [List.splitOn_intercalate, mapM_map_eq_some each]
  · exact List.forall_mem_map.mpr apart
  · simpa using nonempty

theorem readOptions_ofOptions {params : List (String × String)}
    (words : ∀ param ∈ params, IsWord param.1) (rest : List Mark) :
    readOptions (ofOptions params ++ bare '[' :: rest) = some (params, bare '[' :: rest) := by
  cases params with
  | nil => rfl
  | cons param params =>
      let written := [bare ':'].intercalate ((param :: params).map ofOption)
      have notBracket : ∀ mark ∈ written, (mark != bare '[') = true := by
        intro mark member
        have notInOptions : bare '[' ∉ ofOptions (param :: params) :=
          sign_not_mem_ofOptions words (by decide) (by decide) (by decide)
        refine bne_iff_ne.mpr fun same => notInOptions ?_
        exact List.mem_cons_of_mem _ (same ▸ member)
      have read : (written.splitOn (bare ':')).mapM readOption = some (param :: params) :=
        mapM_splitOn_eq_some (List.cons_ne_nil param params)
          (fun item member => readOption_ofOption (words item member))
          fun item member => sign_not_mem_ofOption (words item member) (by decide) (by decide)
      change readOptions (bare '=' :: (written ++ bare '[' :: rest)) = _
      rw [readOptions, List.takeWhile_append_of_pos notBracket,
        List.dropWhile_append_of_pos notBracket]
      simp [read]

theorem not_endsKind_of_word {kind : String} (isWord : IsWord kind) :
    ∀ mark ∈ kind.toList.map bare, (!endsKind mark) = true := by
  intro mark member
  rcases List.mem_map.mp member with ⟨char, inKind, rfl⟩
  have notEquals : char ≠ '=' := fun same => isWord.sign_not_mem (by decide) (same ▸ inKind)
  have notBracket : char ≠ '[' := fun same => isWord.sign_not_mem (by decide) (same ▸ inKind)
  simp [endsKind, notEquals, notBracket]

theorem readNode_ofNode {node : Node} (named : node.IsNamed) :
    readNode (ofNode node) = some node := by
  rcases node with ⟨kind, inputs, params, outputs⟩
  rcases outputs with _ | ⟨output, outputs⟩
  · exact absurd rfl named.outputs
  let made := (output :: outputs).flatMap ofLabel
  obtain ⟨more, opens⟩ : ∃ more, made = bare '[' :: more := ⟨_, rfl⟩
  obtain ⟨sign, tail, rest, ends⟩ : ∃ sign tail,
      ofOptions params ++ made = sign :: tail ∧ endsKind sign = true := by
    rw [opens]
    cases params <;> exact ⟨_, _, rfl, rfl⟩
  have whole : ofNode ⟨kind, inputs, params, output :: outputs⟩ =
      inputs.flatMap ofLabel ++ (kind.toList.map bare ++ sign :: tail) := by
    simp only [ofNode, List.append_assoc]
    rw [← rest]
  have closed (label : String) (member : label ∈ inputs ++ output :: outputs) :
      ']' ∉ label.toList := named.sign_not_mem_label member (by decide)
  have readInputs : readLabels none (ofNode ⟨kind, inputs, params, output :: outputs⟩) =
      some (inputs, kind.toList.map bare ++ sign :: tail) := by
    rw [whole]
    refine readLabels_ofLabels (fun label member => closed label (List.mem_append_left _ member)) ?_
    obtain ⟨first, chars, kindIs⟩ := List.exists_cons_of_ne_nil (l := kind.toList)
      (by simpa using named.kind.1)
    have notBracket : '[' ∉ kind.toList := named.kind.sign_not_mem (by decide)
    rw [kindIs] at notBracket ⊢
    rintro ⟨⟩
    exact notBracket List.mem_cons_self
  have readParams : readOptions (sign :: tail) = some (params, made) := by
    rw [← rest, opens]
    exact readOptions_ofOptions named.keys more
  have readOutputs : readLabels none made = some (output :: outputs, []) := by
    have read : readLabels none (made ++ []) = some (output :: outputs, []) :=
      readLabels_ofLabels (fun label member => closed label (List.mem_append_right _ member))
        (by simp)
    rwa [List.append_nil] at read
  have ofKind := not_endsKind_of_word named.kind
  simp [readNode, readInputs, List.takeWhile_append_of_pos ofKind,
    List.dropWhile_append_of_pos ofKind, ends, readParams, readOutputs, textOf_bare]

/-! ## The whole -/

theorem renderedNode_ne_empty {node : Node} (named : node.IsNamed) : node.text.toList ≠ [] := by
  intro nothing
  rw [node.text_toList] at nothing
  have noOutputs := (List.append_eq_nil_iff.mp nothing).2
  rw [List.flatMap_eq_nil_iff] at noOutputs
  obtain ⟨output, outputs, outputsAre⟩ := List.exists_cons_of_ne_nil named.outputs
  exact List.cons_ne_nil _ _ (noOutputs output (outputsAre ▸ List.mem_cons_self))

theorem isEmpty_intercalate {text : String} (nonempty : text.toList ≠ []) (rest : List String) :
    (";".intercalate (text :: rest)).isEmpty = false := by
  rw [String.isEmpty_eq_false_iff, ne_eq, ← String.toList_eq_nil_iff, String.toList_intercalate]
  cases rest with
  | nil => simpa using nonempty
  | cons next rest => simp [List.intercalate_cons_cons]

theorem readGraph_of_named {nodes : List Node} (named : ∀ node ∈ nodes, node.IsNamed) :
    readGraph (";".intercalate (nodes.map Node.text)) = some nodes := by
  unfold readGraph
  rw [(written_graph named).ofChars_eq]
  rcases nodes with _ | ⟨node, nodes⟩
  · rfl
  · have someText : (";".intercalate ((node :: nodes).map Node.text)).isEmpty = false :=
      isEmpty_intercalate (renderedNode_ne_empty (named node List.mem_cons_self)) _
    have semicolonApart (other : Node) (member : other ∈ node :: nodes) :
        bare ';' ∉ ofNode other := semicolon_not_mem_ofNode (named other member)
    have read := mapM_splitOn_eq_some (List.cons_ne_nil node nodes)
      (fun other member => readNode_ofNode (named other member)) semicolonApart
    rw [someText]
    exact read

/-- The text of a graph is read back as that graph, whatever the values of its options are. So
no other graph is written alike. -/
theorem readGraph_renderGraph (nodes : List Node) (named : ∀ node ∈ nodes, node.IsNamed) :
    ∃ text, renderGraph nodes = .ok text ∧ readGraph text = some nodes ∧
      ∀ others, (∀ node ∈ others, node.IsNamed) → renderGraph others = .ok text →
        others = nodes := by
  have renders {nodes : List Node} (named : ∀ node ∈ nodes, node.IsNamed) :=
    renderGraph_of_writable fun node member => (named node member).isWritable
  have reads := readGraph_of_named named
  refine ⟨_, renders named, reads, fun others othersNamed same => ?_⟩
  have othersRead := readGraph_of_named othersNamed
  rw [renders othersNamed] at same
  rw [Except.ok.inj same, reads] at othersRead
  exact (Option.some.inj othersRead).symm

/-- A value without any character, and one with every sign. -/
theorem readGraph_renderGraph_sample :
    let nodes : List Node := [
      ⟨"crop", ["0:v"], [("w", ""), ("x", "it's [a];b:c\\,\t=\n")], ["keep", "cut"]⟩,
      ⟨"null", ["cut"], [], ["video"]⟩]
    (∀ node ∈ nodes, node.IsNamed) ∧
    ∃ text, renderGraph nodes = .ok text ∧ readGraph text = some nodes ∧
      ∀ others, (∀ node ∈ others, node.IsNamed) → renderGraph others = .ok text →
        others = nodes := by
  intro nodes
  have named : ∀ node ∈ nodes, node.IsNamed := by decide +kernel
  exact ⟨named, readGraph_renderGraph nodes named⟩

end Montage
