import Montage.Document.Fault
import Montage.Document.Gap

/-! Texts that stand as a block of lines below a bar or a greater sign. -/

namespace Montage.Document

inductive Ending where
  | stripped
  /-- One is kept. -/
  | clipped
  | kept
  deriving DecidableEq, Repr

structure BlockHeader where
  ending : Ending
  indentation : Option Nat
  deriving DecidableEq, Repr

def endingOf? (char : Char) : Option Ending :=
  if char = '+' then some .kept else if char = '-' then some .stripped else none

def indentationOf? (char : Char) : Option Nat :=
  if '1' ≤ char && char ≤ '9' then some (char.toNat - '0'.toNat) else none

def readHeaderSigns (text : List Char) : BlockHeader × List Char :=
  match text with
  | [] => (⟨.clipped, none⟩, [])
  | first :: rest =>
      match endingOf? first, indentationOf? first with
      | some ending, _ =>
          match rest.head?.bind indentationOf? with
          | some count => (⟨ending, some count⟩, rest.drop 1)
          | none => (⟨ending, none⟩, rest)
      | none, some count =>
          match rest.head?.bind endingOf? with
          | some ending => (⟨ending, some count⟩, rest.drop 1)
          | none => (⟨.clipped, some count⟩, rest)
      | none, none => (⟨.clipped, none⟩, text)

def passLine (text : List Char) : Except Fault (List Char) :=
  let bare := text.dropWhile (· == ' ')
  let passed := if bare.head? = some '#' then bare.dropWhile (!isBreak ·) else bare
  if startsBreak passed then .ok (passed.drop 1) else .error .unreadable

def readHeader (text : List Char) : Except Fault (BlockHeader × List Char) := do
  let (header, rest) := readHeaderSigns text
  if startsSpace rest then return (header, ← passLine rest) else throw .unreadable

def deepestColumn (column : Nat) : List Char → Nat
  | [] => column
  | char :: rest =>
      if char = ' ' then deepestColumn (column + 1) rest
      else if isBreak char then max column (deepestColumn 0 rest)
      else column

structure BlockLines where
  read : List Char := []
  lastBreak : List Char := []
  empty : List Char := []
  isSpaced : Bool := false

namespace BlockLines

/-- What comes between the last line and one that begins with `char`. In a folded block a
newline between two lines becomes a space, unless empty lines follow it or one of the two
lines begins with spacing. -/
def between (lines : BlockLines) (folded : Bool) (char : Char) : List Char :=
  let first :=
    if folded && lines.lastBreak == ['\n'] && !lines.isSpaced && !isSpacing char then
      if lines.empty.isEmpty then [' '] else []
    else lines.lastBreak
  first ++ lines.empty

def text (lines : BlockLines) (ending : Ending) : String :=
  let last := match ending with
    | .stripped => []
    | .clipped => lines.lastBreak
    | .kept => lines.lastBreak ++ lines.empty
  String.ofList (lines.read.reverse ++ last)

end BlockLines

/-- Reads the lines that are indented by `indentation` columns. `column` is the number of
spaces at the front of the present line, or nothing inside of a line. -/
def readLines (folded : Bool) (indentation : Nat) (column : Option Nat) (lines : BlockLines) :
    List Char → BlockLines × List Char
  | [] => (lines, [])
  | char :: rest =>
      match column with
      | none =>
          if isBreak char then
            readLines folded indentation (some 0)
              { lines with lastBreak := [brokenBy char], empty := [] } rest
          else readLines folded indentation none { lines with read := char :: lines.read } rest
      | some count =>
          if char = ' ' && count < indentation then
            readLines folded indentation (some (count + 1)) lines rest
          else if isBreak char then
            readLines folded indentation (some 0)
              { lines with empty := lines.empty ++ [brokenBy char] } rest
          else if count = indentation then
            readLines folded indentation none
              { read := char :: ((lines.between folded char).reverse ++ lines.read)
                isSpaced := isSpacing char } rest
          else (lines, char :: rest)

def readBlock (folded : Bool) (least : Nat) (text : List Char) :
    Except Fault (String × List Char) := do
  let (header, rest) ← readHeader text
  let least := max least 1
  let indentation := match header.indentation with
    | some count => least + count - 1
    | none => max least (deepestColumn 0 rest)
  let (lines, after) := readLines folded indentation (some 0) {} rest
  return (lines.text header.ending, after)

example : (readBlock true 1 "-\n  a\n  b\n\n  c\nd".toList).toOption =
    some ("a b\nc", ['d']) := by decide +kernel
example : (readBlock false 1 " # note\n  a\n   b\n\n".toList).toOption =
    some ("a\n b\n", []) := by decide +kernel

end Montage.Document
