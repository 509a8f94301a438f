import Montage.Document.Gap

/-! Texts without quotes. -/

namespace Montage.Document

def isReserved (char : Char) : Bool :=
  "-?:,[]\x7b\x7d#&*!|>'\"%@`".toList.contains char

def isFlowMark (char : Char) : Bool :=
  ",[]\x7b\x7d".toList.contains char

/-- Whether a plain text begins here. A hyphen begins one when no gap follows it, and so
do, outside of brackets, a question mark and a colon. -/
def startsPlain (inFlow : Bool) : List Char → Bool
  | [] => false
  | char :: rest =>
      (!isGap char && !isReserved char) ||
        (!startsGap rest && (char = '-' || (!inFlow && (char = '?' || char = ':'))))

def endsPlain (inFlow : Bool) (char : Char) (rest : List Char) : Bool :=
  (char = ':' && (startsGap rest || (inFlow && rest.head?.any isFlowMark))) ||
    (inFlow && (isFlowMark char || char = '?'))

structure PlainRead where
  text : String
  rest : List Char
  isBroken : Bool

/-- Reads a plain text. `least` is the least column of a further line outside of brackets,
`column` the number of spaces that the present line begins with, and `read` what has been
read, last first. The gap after the text is passed and not part of it; so are line breaks
up to the mark of a document. -/
def readPlain (inFlow : Bool) (least column : Nat) (gap : Gap) (read : List Char) :
    List Char → PlainRead
  | [] => ⟨String.ofList read.reverse, [], gap.isBroken⟩
  | char :: rest =>
      let ended (rest : List Char) (gap : Gap) : PlainRead :=
        ⟨String.ofList read.reverse, rest, gap.isBroken⟩
      if char = ' ' then readPlain inFlow least (column + 1) (gap.space char) read rest
      else if isBreak char then
        if startsMarker rest then ended rest (gap.newLine char)
        else readPlain inFlow least 0 (gap.newLine char) read rest
      else if char = '\t' || endsPlain inFlow char rest || (gap != .nothing && char = '#') ||
          (gap.isBroken && !inFlow && column < least) then
        ended (char :: rest) gap
      else readPlain inFlow least column .nothing (char :: (gap.folded.reverse ++ read)) rest

example : (readPlain false 1 0 .nothing [] "a b\n c: d".toList).text = "a b c" := by
  decide +kernel

end Montage.Document
