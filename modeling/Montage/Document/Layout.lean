import Montage.Document.PlainScalar
import Montage.Document.Token

/-! The tokens of a text. Columns say where collections begin and end, and a colon may
make a key of what stands before it. -/

namespace Montage.Document

structure Cursor where
  rest : List Char
  column : Nat := 0
  line : Nat := 0
  passed : Nat := 0

namespace Cursor

def step (cursor : Cursor) : Cursor :=
  match cursor.rest with
  | [] => cursor
  | char :: rest =>
      let passed := cursor.passed + 1
      if isBreak char then ⟨rest, 0, cursor.line + 1, passed⟩
      else if char = '\ufeff' then ⟨rest, cursor.column, cursor.line, passed⟩
      else ⟨rest, cursor.column + 1, cursor.line, passed⟩

def advance : (count : Nat) → Cursor → Cursor
  | 0, cursor => cursor
  | count + 1, cursor => advance count cursor.step

def moveTo (cursor : Cursor) (rest : List Char) : Cursor :=
  cursor.advance (cursor.rest.length - rest.length)

end Cursor

/-- A place where a key has begun, if a colon shows that it is one: how deep inside of
brackets it is, the number of tokens before it, and whether nothing else can stand
there. -/
structure Candidate where
  depth : Nat
  tokensBefore : Nat
  isRequired : Bool
  start : Cursor

structure Layout where
  cursor : Cursor
  tokens : List Token := []
  depth : Nat := 0
  columns : List Nat := []
  allowsKey : Bool := true
  candidates : List Candidate := []

namespace Layout

/-- The greatest distance, in characters, of a colon from the beginning of its key. -/
def longestKey : Nat := 1024

def inFlow (layout : Layout) : Bool :=
  layout.depth != 0

def least (layout : Layout) : Nat :=
  (layout.columns.head?.map (· + 1)).getD 0

def addToken (layout : Layout) (token : Token) : Layout :=
  { layout with tokens := token :: layout.tokens }

def moveTo (layout : Layout) (rest : List Char) : Layout :=
  { layout with cursor := layout.cursor.moveTo rest }

def addMark (layout : Layout) (token : Token) : Layout :=
  { layout.addToken token with cursor := layout.cursor.step }

/-! ### Keys -/

def keepCandidates (layout : Layout) (stays : Candidate → Bool) : Except Fault Layout :=
  if layout.candidates.any fun candidate => !stays candidate && candidate.isRequired then
    .error .unreadable
  else .ok { layout with candidates := layout.candidates.filter stays }

def dropCandidate (layout : Layout) : Except Fault Layout :=
  layout.keepCandidates fun candidate => candidate.depth != layout.depth

/-- Drops the candidates that no colon can follow any more: keys stand in one line and are
not too long. -/
def dropStale (layout : Layout) : Except Fault Layout :=
  layout.keepCandidates fun candidate =>
    candidate.start.line = layout.cursor.line &&
      layout.cursor.passed - candidate.start.passed ≤ longestKey

def addCandidate (layout : Layout) : Except Fault Layout :=
  if layout.allowsKey then do
    let isRequired := !layout.inFlow && layout.columns.head? = some layout.cursor.column
    let cleared ← layout.dropCandidate
    let candidate := ⟨layout.depth, layout.tokens.length, isRequired, layout.cursor⟩
    return { cleared with candidates := candidate :: cleared.candidates }
  else .ok layout

/-! ### Collections by columns -/

def closeWhile (layout : Layout) (ends : Nat → Bool) : Layout :=
  if layout.inFlow then layout
  else
    let count := (layout.columns.takeWhile ends).length
    { layout with
      tokens := List.replicate count .blockEnd ++ layout.tokens
      columns := layout.columns.drop count }

def opensAt (layout : Layout) (column : Nat) : Bool :=
  !layout.inFlow && layout.columns.head?.all (· < column)

def openHere (layout : Layout) (token : Token) : Layout :=
  let column := layout.cursor.column
  if layout.opensAt column then
    { layout.addToken token with columns := column :: layout.columns }
  else layout

/-! ### Tokens -/

def passFiller (inComment broken : Bool) : List Char → List Char × Bool
  | [] => ([], broken)
  | char :: rest =>
      if isBreak char then passFiller false true rest
      else if inComment || char = ' ' then passFiller inComment broken rest
      else if char = '#' then passFiller true broken rest
      else (char :: rest, broken)

def prepare (layout : Layout) : Except Fault Layout := do
  let marked := if layout.cursor.passed = 0 && layout.cursor.rest.head? = some '\ufeff' then
    layout.cursor.step else layout.cursor
  let (rest, broken) := passFiller false false marked.rest
  let moved := { layout with
    cursor := marked.moveTo rest
    allowsKey := layout.allowsKey || (broken && !layout.inFlow) }
  let fresh ← moved.dropStale
  return fresh.closeWhile (moved.cursor.column < ·)

def leaveBlocks (layout : Layout) : Except Fault Layout := do
  let cleared ← (layout.closeWhile fun _ => true).dropCandidate
  return { cleared with allowsKey := false }

def addPart (layout : Layout) (token : Token) (rest : List Char) : Except Fault Layout := do
  let noted ← layout.addCandidate
  return { (noted.addToken token).moveTo rest with allowsKey := false }

def openFlow (layout : Layout) (token : Token) : Except Fault Layout := do
  let noted ← layout.addCandidate
  return { noted.addMark token with depth := layout.depth + 1, allowsKey := true }

def closeFlow (layout : Layout) (token : Token) : Except Fault Layout := do
  let cleared ← layout.dropCandidate
  if layout.depth = 0 then throw .unreadable
  return { cleared.addMark token with depth := layout.depth - 1, allowsKey := false }

def addComma (layout : Layout) : Except Fault Layout := do
  let cleared ← layout.dropCandidate
  return { cleared.addMark .comma with allowsKey := true }

/-- A hyphen. Inside of brackets it is let through, to be refused later. -/
def addEntry (layout : Layout) : Except Fault Layout := do
  if !layout.inFlow && !layout.allowsKey then throw .unreadable
  let cleared ← (layout.openHere .sequenceStart).dropCandidate
  return { cleared.addMark .entry with allowsKey := true }

def addKey (layout : Layout) : Except Fault Layout := do
  if !layout.inFlow && !layout.allowsKey then throw .unreadable
  let cleared ← (layout.openHere .mappingStart).dropCandidate
  return { cleared.addMark .key with allowsKey := !layout.inFlow }

def insertBefore (tokens : List Token) (candidate : Candidate) (added : List Token) :
    List Token :=
  let count := tokens.length - candidate.tokensBefore
  tokens.take count ++ added ++ tokens.drop count

/-- A colon. What stands before it in the same line is its key; without such a key it
begins a value on its own. -/
def addValue (layout : Layout) : Except Fault Layout := do
  match layout.candidates.find? (·.depth = layout.depth) with
  | some candidate =>
      let column := candidate.start.column
      let opens := layout.opensAt column
      let added := if opens then [Token.key, .mappingStart] else [.key]
      let keyed := { layout with
        tokens := insertBefore layout.tokens candidate added
        columns := if opens then column :: layout.columns else layout.columns
        candidates := layout.candidates.filter (·.depth != layout.depth)
        allowsKey := false }
      return keyed.addMark .value
  | none =>
      if !layout.inFlow && !layout.allowsKey then throw .unreadable
      return { (layout.openHere .mappingStart).addMark .value with allowsKey := !layout.inFlow }

def addBlock (layout : Layout) (folded : Bool) (rest : List Char) : Except Fault Layout := do
  let cleared ← layout.dropCandidate
  let (text, after) ← readBlock folded layout.least rest
  return { (cleared.addToken (.quoted text)).moveTo after with allowsKey := true }

def addPlain (layout : Layout) : Except Fault Layout := do
  let noted ← layout.addCandidate
  let plain := readPlain layout.inFlow layout.least 0 .nothing [] layout.cursor.rest
  return { (noted.addToken (.plain plain.text)).moveTo plain.rest with
    allowsKey := plain.isBroken }

def readToken (layout : Layout) (char : Char) (rest : List Char) : Except Fault Layout := do
  let atFront := layout.cursor.column = 0
  let isMark := layout.inFlow || startsGap rest
  if atFront && char = '%' then
    let (directive, after) ← readDirective rest
    return ((← layout.leaveBlocks).addToken (.directive directive)).moveTo after
  if atFront && startsMarker layout.cursor.rest then
    let token := if char = '-' then Token.documentStart else .documentEnd
    return ((← layout.leaveBlocks).addToken token).moveTo (layout.cursor.rest.drop 3)
  match char with
  | '[' => layout.openFlow .openBracket
  | '\x7b' => layout.openFlow .openBrace
  | ']' => layout.closeFlow .closeBracket
  | '\x7d' => layout.closeFlow .closeBrace
  | ',' => layout.addComma
  | '*' =>
      let (name, after) ← readAnchorName rest
      layout.addPart (.alias name) after
  | '&' =>
      let (name, after) ← readAnchorName rest
      layout.addPart (.anchor name) after
  | '!' =>
      let (tag, after) ← readTag rest
      layout.addPart (.tag tag) after
  | '\'' =>
      let (text, after) ← readSingleQuoted .nothing [] rest
      layout.addPart (.quoted text) after
  | '"' =>
      let (text, after) ← readDoubleQuoted .nothing [] rest
      layout.addPart (.quoted text) after
  | _ =>
      if char = '-' && startsGap rest then layout.addEntry
      else if char = '?' && isMark then layout.addKey
      else if char = ':' && isMark then layout.addValue
      else if !layout.inFlow && (char = '|' || char = '>') then
        layout.addBlock (char = '>') rest
      else if startsPlain layout.inFlow layout.cursor.rest then layout.addPlain
      else throw .unreadable

def readTokens (layout : Layout) : Except Fault (List Token) := do
  let ready ← layout.prepare
  match ready.cursor.rest with
  | [] => return (← ready.leaveBlocks).tokens
  | char :: rest =>
      let next ← ready.readToken char rest
      if next.cursor.rest.length < layout.cursor.rest.length then readTokens next
      else throw .unreadable
termination_by layout.cursor.rest.length

end Layout

def tokens (text : List Char) : Except Fault (List Token) := do
  return (← Layout.readTokens { cursor := { rest := text } }).reverse

end Montage.Document
