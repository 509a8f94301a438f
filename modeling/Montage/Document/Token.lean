import Montage.Document.BlockScalar
import Montage.Document.QuotedScalar

/-! The tokens of a document, and the texts of those that have one: the names of anchors,
tags, and directives. -/

namespace Montage.Document

structure TagText where
  handle : Option String
  suffix : String
  deriving DecidableEq, Repr

inductive Directive where
  /-- The version of the format, of which only the first number counts. -/
  | version (major : Nat)
  | handle (name prefixed : String)
  | other
  deriving DecidableEq, Repr

inductive Token where
  | directive (directive : Directive)
  | documentStart
  | documentEnd
  | sequenceStart
  | mappingStart
  | blockEnd
  | openBracket
  | closeBracket
  | openBrace
  | closeBrace
  | comma
  | entry
  | key
  | value
  | alias (name : String)
  | anchor (name : String)
  | tag (tag : TagText)
  | plain (text : String)
  | quoted (text : String)
  deriving DecidableEq, Repr

/-! ## Names and tags -/

def isNameChar (char : Char) : Bool :=
  char.isAlphanum || char = '-' || char = '_'

def readName (text : List Char) : Except Fault (String × List Char) :=
  match text.takeWhile isNameChar with
  | [] => .error .unreadable
  | name => .ok (String.ofList name, text.dropWhile isNameChar)

def readAnchorName (text : List Char) : Except Fault (String × List Char) := do
  let (name, rest) ← readName text
  if startsGap rest || rest.head?.any "?:,]\x7d%@`".toList.contains then return (name, rest)
  else throw .unreadable

def isTagChar (char : Char) : Bool :=
  char.isAlphanum || "-;/?:@&=+$,_.!~*'()[]%".toList.contains char

def textOfBytes (bytes : List UInt8) : Except Fault (List Char) :=
  match String.fromUTF8? ⟨bytes.toArray⟩ with
  | some text => .ok text.toList
  | none => .error .unreadable

def unescapeTag (bytes : List UInt8) : List Char → Except Fault (List Char)
  | [] => textOfBytes bytes
  | '%' :: a :: b :: rest =>
      match hexNumber? [a, b] with
      | some number => unescapeTag (bytes ++ [UInt8.ofNat number]) rest
      | none => .error .unreadable
  | '%' :: _ => .error .unreadable
  | char :: rest => do return (← textOfBytes bytes) ++ char :: (← unescapeTag [] rest)

def readTagChars (text : List Char) : Except Fault (String × List Char) :=
  match text.takeWhile isTagChar with
  | [] => .error .unreadable
  | chars => do
      return (String.ofList (← unescapeTag [] chars), text.dropWhile isTagChar)

/-- A handle: one exclamation mark before a space, otherwise two with a name, which may be
empty, between them. -/
def readHandle : List Char → Except Fault (String × List Char)
  | '!' :: ' ' :: rest => .ok ("!", ' ' :: rest)
  | '!' :: rest =>
      match rest.dropWhile isNameChar with
      | '!' :: after => .ok (String.ofList ('!' :: rest.takeWhile isNameChar ++ ['!']), after)
      | _ => .error .unreadable
  | _ => .error .unreadable

def hasSecondMark (rest : List Char) : Bool :=
  (rest.takeWhile fun char => char != ' ' && !isBreak char).contains '!'

def readTag (rest : List Char) : Except Fault (TagText × List Char) := do
  let (tag, after) ← match rest with
    | '<' :: inside => do
        match ← readTagChars inside with
        | (suffix, '>' :: after) => pure (⟨none, suffix⟩, after)
        | _ => throw .unreadable
    | _ =>
        if startsGap rest then pure (⟨none, "!"⟩, rest)
        else do
          let (handle, text) ←
            if hasSecondMark rest then readHandle ('!' :: rest) else pure ("!", rest)
          let (suffix, after) ← readTagChars text
          pure (⟨some handle, suffix⟩, after)
  if startsSpace after then return (tag, after) else throw .unreadable

example : (readTag "!str a".toList).toOption = some (⟨some "!!", "str"⟩, " a".toList) := by
  decide +kernel

/-! ## Directives -/

def passSpaces (text : List Char) : List Char :=
  text.dropWhile (· == ' ')

def readNumeral (text : List Char) : Except Fault (Nat × List Char) :=
  match text.takeWhile Char.isDigit with
  | [] => .error .unreadable
  | digits => .ok (digits.foldl (fun number digit => 10 * number + (digit.toNat - '0'.toNat)) 0,
      text.dropWhile Char.isDigit)

def readVersion (text : List Char) : Except Fault (Directive × List Char) := do
  match ← readNumeral (passSpaces text) with
  | (major, '.' :: rest) => do
      let (_, after) ← readNumeral rest
      if startsSpace after then return (.version major, after) else throw .unreadable
  | _ => throw .unreadable

def readHandleMeaning (text : List Char) : Except Fault (Directive × List Char) := do
  match ← readHandle (passSpaces text) with
  | (name, ' ' :: rest) => do
      let (prefixed, after) ← readTagChars (passSpaces rest)
      if startsSpace after then return (.handle name prefixed, after) else throw .unreadable
  | _ => throw .unreadable

def readDirective (text : List Char) : Except Fault (Directive × List Char) := do
  let (name, rest) ← readName text
  if !startsSpace rest then throw .unreadable
  let (directive, after) ← match name with
    | "YAML" => readVersion rest
    | "TAG" => readHandleMeaning rest
    | _ => pure (.other, rest.dropWhile (!isBreak ·))
  return (directive, ← passLine after)

end Montage.Document
