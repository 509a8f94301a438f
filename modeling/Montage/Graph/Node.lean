import Montage.Text.Quoted

/-! Filter graphs and the text in which ffmpeg reads them: nodes separated by semicolons,
each a filter with its options between the labels of its inputs and of its outputs. -/

namespace Montage

/-! ## Option values -/

def graphSigns : List Char :=
  ['\\', '\'', '[', ']', ',', ';', ':', ' ', '\t', '\n', '=']

/-- A single quote cannot stand within quotes: they are closed, the quote is written
with a backslash, and they are opened again. -/
def closeAroundQuote (char : Char) : List Char :=
  if char = '\'' then ['\'', '\\', '\'', '\''] else [char]

def optionChars (value : List Char) : List Char :=
  if !value.isEmpty && !value.any graphSigns.contains then value
  else '\'' :: value.flatMap closeAroundQuote ++ ['\'']

def optionText (value : String) : String :=
  String.ofList (optionChars value.toList)

example : optionText "a:b" = "'a:b'" ∧ optionText "plain" = "plain" := by decide +kernel
example : optionText "it's" = "'it'\\''s'" := by decide +kernel

/-! ## Labels -/

def isLabelChar (char : Char) : Bool :=
  char.isAlphanum || char = '_' || char = ':' || char = '.'

/-- A label is one or more of its characters; a line feed may follow them. -/
def isLabel (label : List Char) : Bool :=
  let body := if label.getLast? = some '\n' then label.dropLast else label
  !body.isEmpty && body.all isLabelChar

example : isLabel "0:v".toList ∧ isLabel "a\n".toList ∧ ¬ isLabel "a b".toList := by decide

/-! ## Nodes -/

structure Node where
  kind : String
  inputs : List String
  params : List (String × String) := []
  outputs : List String
  deriving DecidableEq, Repr

inductive GraphFault where
  | noOutputs (kind : String)
  | badLabel (label : String)
  deriving DecidableEq, Repr

def GraphFault.message : GraphFault → String
  | .noOutputs kind => "Filter node " ++ quoted kind ++ " has no outputs"
  | .badLabel label => "Invalid filter graph label: " ++ quoted label

namespace Node

def labels (node : Node) : List String :=
  node.inputs ++ node.outputs

private def bracketed (labels : List String) : String :=
  String.join (labels.map fun label => "[" ++ label ++ "]")

def optionsText (params : List (String × String)) : String :=
  if params.isEmpty then ""
  else "=" ++ ":".intercalate (params.map fun (key, value) => key ++ "=" ++ optionText value)

def text (node : Node) : String :=
  bracketed node.inputs ++ node.kind ++ optionsText node.params ++ bracketed node.outputs

def labelChars (label : String) : List Char :=
  '[' :: label.toList ++ [']']

theorem text_toList (node : Node) :
    node.text.toList = node.inputs.flatMap labelChars ++ node.kind.toList ++
      (optionsText node.params).toList ++ node.outputs.flatMap labelChars := by
  have chars (labels : List String) :
      (bracketed labels).toList = labels.flatMap labelChars := by
    simp only [bracketed, String.toList_join, List.flatMap_map, String.toList_append]
    rfl
  simp only [text, String.toList_append, chars]

def badLabel? (node : Node) : Option String :=
  node.labels.find? fun label => !isLabel label.toList

def render (node : Node) : Except GraphFault String :=
  if node.outputs.isEmpty then .error (.noOutputs node.kind)
  else match node.badLabel? with
    | some label => .error (.badLabel label)
    | none => .ok node.text

end Node

def renderGraph (nodes : List Node) : Except GraphFault String := do
  return ";".intercalate (← nodes.mapM Node.render)

example :
    (renderGraph [⟨"scale", ["0:v"], [("w", "2")], ["a"]⟩,
      ⟨"null", ["a"], [], ["b"]⟩]).toOption =
    some "[0:v]scale=w=2[a];[a]null[b]" := by decide +kernel

end Montage
