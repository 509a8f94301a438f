/-! The gaps in a text: blanks, line breaks, and what they become when a text that runs
over several lines is put into one. -/

namespace Montage.Document

def isBreak (char : Char) : Bool :=
  char = '\n' || char = '\u0085' || char = '\u2028' || char = '\u2029'

def isSpacing (char : Char) : Bool :=
  char = ' ' || char = '\t'

def isGap (char : Char) : Bool :=
  isSpacing char || isBreak char

def startsGap (text : List Char) : Bool :=
  text.head?.all isGap

def startsBreak (text : List Char) : Bool :=
  text.head?.all isBreak

def startsSpace (text : List Char) : Bool :=
  text.head?.all fun char => char = ' ' || isBreak char

def brokenBy (char : Char) : Char :=
  if char = '\u0085' then '\n' else char

def startsMarker : List Char → Bool
  | '-' :: '-' :: '-' :: rest | '.' :: '.' :: '.' :: rest => startsGap rest
  | _ => false

example : startsMarker "--- a".toList ∧ startsMarker "...".toList ∧
    ¬ startsMarker "---a".toList := by
  decide

inductive Gap where
  | nothing
  | spacing (chars : List Char)
  | breaks (first : Char) (others : List Char)
  /-- Line breaks of which the first does not count. -/
  | joined (others : List Char)
  deriving DecidableEq, Repr

namespace Gap

def space (char : Char) : Gap → Gap
  | .nothing => .spacing [char]
  | .spacing chars => .spacing (chars ++ [char])
  | gap => gap

def newLine (char : Char) : Gap → Gap
  | .nothing | .spacing _ => .breaks (brokenBy char) []
  | .breaks first others => .breaks first (others ++ [brokenBy char])
  | .joined others => .joined (others ++ [brokenBy char])

/-- What a gap becomes in the text: a single newline a space, and several one less. -/
def folded : Gap → List Char
  | .nothing => []
  | .spacing chars => chars
  | .breaks '\n' [] => [' ']
  | .breaks '\n' others => others
  | .breaks first others => first :: others
  | .joined others => others

def isBroken : Gap → Bool
  | .breaks .. | .joined _ => true
  | _ => false

example : ((Gap.nothing.space ' ').newLine '\n').folded = [' '] := by decide
example : (((Gap.nothing.newLine '\n').space ' ').newLine '\n').folded = ['\n'] := by decide

end Gap

end Montage.Document
