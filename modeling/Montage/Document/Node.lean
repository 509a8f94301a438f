import Montage.Document.Tag
import Montage.Document.Token

/-! The tree of a document, made of its tokens one after the other. -/

namespace Montage.Document

inductive Node where
  | scalar (tag : Tag) (text : String)
  | sequence (tag : Tag) (items : List Node)
  | mapping (tag : Tag) (entries : List (Node × Node))

def Node.tag : Node → Tag
  | .scalar tag _ | .sequence tag _ | .mapping tag _ => tag

def Node.nothing : Node := .scalar .null ""

structure Properties where
  anchor : Option String := none
  tag : Option String := none
  deriving DecidableEq, Repr

namespace Properties

def isOpen (properties : Properties) : Bool :=
  properties.tag.all (· == "!")

def tagOr (properties : Properties) (otherwise : Tag) : Tag :=
  if properties.isOpen then otherwise else (properties.tag.map Tag.ofName).getD otherwise

def plainNode (properties : Properties) (text : String) : Node :=
  .scalar (properties.tagOr (.ofSpelling text.toList)) text

def quotedNode (properties : Properties) (text : String) : Node :=
  if properties.tag.isSome then properties.plainNode text else .scalar .text text

end Properties

inductive Shape where
  | blockSequence
  /-- Entries of a sequence in the column of the key that they belong to. -/
  | bareSequence
  | blockMapping
  | flowSequence
  | flowMapping
  /-- A single key with its value, as an item of a sequence in brackets. -/
  | pair
  deriving DecidableEq, Repr

def Shape.isMapping : Shape → Bool
  | .blockMapping | .flowMapping | .pair => true
  | _ => false

inductive Stand where
  /-- An entry or the end may come, and before an entry in brackets a comma. -/
  | between
  | fresh
  | item
  | key
  | keyed (key : Node)
  | value (key : Node)

structure Frame where
  shape : Shape
  properties : Properties
  stand : Stand
  items : List Node := []
  entries : List (Node × Node) := []

namespace Frame

def node (frame : Frame) : Node :=
  if frame.shape.isMapping then .mapping (frame.properties.tagOr .map) frame.entries.reverse
  else .sequence (frame.properties.tagOr .list) frame.items.reverse

def awaitsNode (frame : Frame) : Bool :=
  match frame.stand with
  | .item | .key | .value _ => true
  | _ => false

def takesNode (frame : Frame) : Bool :=
  frame.awaitsNode || frame.stand matches .fresh

def addEntry (frame : Frame) (key value : Node) : Frame :=
  { frame with entries := (key, value) :: frame.entries, stand := .between }

/-- The collection with one more part, where it stands. A part of a mapping in braces that
was not announced is a key without a value. -/
def add (frame : Frame) (node : Node) : Frame :=
  match frame.stand with
  | .key => { frame with stand := .keyed node }
  | .keyed key | .value key => frame.addEntry key node
  | .fresh | .between | .item =>
      if frame.shape.isMapping then frame.addEntry node .nothing
      else { frame with items := node :: frame.items, stand := .between }

end Frame

/-- A document that is being read: the collections around the present place, innermost
first; what has been said of the next part; the named parts, those without a node being
still read; what handles stand for; and the outermost part once it is there. -/
structure Draft where
  frames : List Frame := []
  properties : Properties := {}
  anchors : List (String × Option Node) := []
  handles : List (String × String)
  root : Option Node := none

namespace Draft

def takesNode (draft : Draft) : Bool :=
  match draft.frames with
  | frame :: _ => frame.takesNode
  | [] => draft.root.isNone

def awaitsNode (draft : Draft) : Bool :=
  match draft.frames with
  | frame :: _ => frame.awaitsNode || draft.properties != {}
  | [] => draft.root.isNone

/-- Whether a key or a value has been announced in a mapping by columns; the entries of a
sequence may then follow without further indentation. -/
def takesBareSequence (draft : Draft) : Bool :=
  draft.frames.head?.any fun frame => frame.shape = .blockMapping && frame.awaitsNode

def begins (draft : Draft) : Token → Bool
  | .alias _ | .anchor _ | .tag _ | .plain _ | .quoted _ => true
  | .sequenceStart | .mappingStart | .openBracket | .openBrace => true
  | .entry => draft.takesBareSequence
  | _ => false

def give (draft : Draft) (node : Node) : Draft :=
  match draft.frames with
  | [] => { draft with root := some node }
  | frame :: rest => { draft with frames := frame.add node :: rest }

def named (draft : Draft) (anchor : Option String) (node : Option Node) : Draft :=
  match anchor with
  | some name => { draft with anchors := (name, node) :: draft.anchors }
  | none => draft

def takeProperties (draft : Draft) : Except Fault (Properties × Draft) :=
  let isTaken := draft.properties.anchor.any fun name => (draft.anchors.lookup name).isSome
  if isTaken || !draft.takesNode then .error .unreadable
  else .ok (draft.properties, { draft with properties := {} })

def addScalar (draft : Draft) (node : Properties → Node) : Except Fault Draft := do
  let (properties, bare) ← draft.takeProperties
  let made := node properties
  return (bare.named properties.anchor (some made)).give made

def push (draft : Draft) (shape : Shape) (stand : Stand) : Except Fault Draft := do
  let (properties, bare) ← draft.takeProperties
  let opened := bare.named properties.anchor none
  return { opened with frames := ⟨shape, properties, stand, [], []⟩ :: opened.frames }

def pop (draft : Draft) : Draft :=
  match draft.frames with
  | [] => draft
  | frame :: rest =>
      let closed := { draft with frames := rest }
      (closed.named frame.properties.anchor (some frame.node)).give frame.node

def endsAt (draft : Draft) (shape : Shape) : Bool :=
  draft.frames.head?.any fun frame => frame.shape = shape && frame.stand matches .between

def fillNode (draft : Draft) (token : Token) : Except Fault Draft :=
  if draft.awaitsNode && !draft.begins token then draft.addScalar (·.plainNode "")
  else .ok draft

def fillValue (draft : Draft) (token : Token) : Draft :=
  match draft.frames with
  | frame :: rest =>
      match frame.stand with
      | .keyed key =>
          if token = .value then draft
          else { draft with frames := frame.addEntry key .nothing :: rest }
      | _ => draft
  | [] => draft

/-- Ends what no token ends: a pair after its value, and a bare sequence before anything
that is no entry. -/
def closeUnmarked (draft : Draft) (token : Token) : Draft :=
  if draft.endsAt .pair || (draft.endsAt .bareSequence && token ≠ .entry) then draft.pop
  else draft

def settle (draft : Draft) (token : Token) : Except Fault Draft := do
  let filled ← draft.fillNode token
  return ((filled.closeUnmarked token).fillValue token).closeUnmarked token

def aliased (draft : Draft) (name : String) : Except Fault Node :=
  match draft.anchors.lookup name with
  | some (some node) => .ok node
  | _ => .error .unreadable

def tagName (draft : Draft) (tag : TagText) : Except Fault String :=
  match tag.handle with
  | none => .ok tag.suffix
  | some handle =>
      match draft.handles.lookup handle with
      | some start => .ok (start ++ tag.suffix)
      | none => .error .unreadable

def stand (draft : Draft) (stand : Stand) : Except Fault Draft :=
  match draft.frames with
  | frame :: rest => .ok { draft with frames := { frame with stand } :: rest }
  | [] => .error .unreadable

def mark (draft : Draft) (token : Token) : Except Fault Draft :=
  match draft.frames with
  | [] => .error .unreadable
  | frame :: _ =>
      match frame.shape, frame.stand, token with
      | .blockSequence, .between, .entry | .bareSequence, .between, .entry => draft.stand .item
      | .blockMapping, .between, .key | .flowMapping, .fresh, .key => draft.stand .key
      | .flowSequence, .fresh, .key => draft.push .pair .key
      | .flowSequence, .between, .comma | .flowMapping, .between, .comma => draft.stand .fresh
      | _, .keyed key, .value => draft.stand (.value key)
      | .blockSequence, .between, .blockEnd | .blockMapping, .between, .blockEnd => .ok draft.pop
      | .flowSequence, .between, .closeBracket | .flowSequence, .fresh, .closeBracket =>
          .ok draft.pop
      | .flowMapping, .between, .closeBrace | .flowMapping, .fresh, .closeBrace => .ok draft.pop
      | _, _, _ => .error .unreadable

def feed (draft : Draft) (token : Token) : Except Fault Draft := do
  let settled ← draft.settle token
  match token with
  | .anchor name =>
      if settled.properties.anchor.isSome || !settled.takesNode then throw .unreadable
      return { settled with properties := { settled.properties with anchor := some name } }
  | .tag tag =>
      if settled.properties.tag.isSome || !settled.takesNode then throw .unreadable
      let name ← settled.tagName tag
      return { settled with properties := { settled.properties with tag := some name } }
  | .alias name =>
      if settled.properties != {} || !settled.takesNode then throw .unreadable
      return settled.give (← settled.aliased name)
  | .plain text => settled.addScalar (·.plainNode text)
  | .quoted text => settled.addScalar (·.quotedNode text)
  | .sequenceStart => settled.push .blockSequence .between
  | .mappingStart => settled.push .blockMapping .between
  | .openBracket => settled.push .flowSequence .fresh
  | .openBrace => settled.push .flowMapping .fresh
  | _ =>
      if token = .entry && settled.takesBareSequence then settled.push .bareSequence .item
      else settled.mark token

end Draft

/-! ## Whole documents -/

def standardHandles : List (String × String) :=
  [("!", "!"), ("!!", Tag.family)]

/-- What the directives before a document say: the handles. No two of them name a version
or the same handle, and the version is the first. -/
def handlesOf : (directives : List Directive) → (versioned : Bool) →
    (handles : List (String × String)) → Except Fault (List (String × String))
  | [], _, handles => .ok (handles ++ standardHandles)
  | .version major :: rest, versioned, handles =>
      if versioned || major ≠ 1 then .error .unreadable else handlesOf rest true handles
  | .handle name meaning :: rest, versioned, handles =>
      if (handles.lookup name).isSome then .error .unreadable
      else handlesOf rest versioned ((name, meaning) :: handles)
  | .other :: rest, versioned, handles => handlesOf rest versioned handles

def Token.isOutside : Token → Bool
  | .directive _ | .documentStart | .documentEnd => true
  | _ => false

def Token.directive? : Token → Option Directive
  | .directive said => some said
  | _ => none

def readBody (handles : List (String × String)) (tokens : List Token) : Except Fault Node := do
  let (body, after) := tokens.span (!·.isOutside)
  if !after.all (· = .documentEnd) then throw .unreadable
  let draft ← body.foldlM Draft.feed { handles }
  let whole ← draft.settle .documentEnd
  match whole.frames, whole.root with
  | [], some root => return root
  | _, _ => throw .unreadable

/-- The tree of the only document of a text, if there is one. A document without a mark of
its beginning has no directives and is not empty. -/
def tree? (tokens : List Token) : Except Fault (Option Node) := do
  let (directives, rest) := tokens.span fun token => token.directive?.isSome
  match directives, rest with
  | [], [] => return none
  | _, .documentStart :: body =>
      return some (← readBody (← handlesOf (directives.filterMap Token.directive?) false []) body)
  | [], .documentEnd :: _ => throw .unreadable
  | [], _ => return some (← readBody standardHandles rest)
  | _, _ => throw .unreadable

end Montage.Document
