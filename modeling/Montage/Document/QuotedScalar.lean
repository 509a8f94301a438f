import Montage.Document.Fault
import Montage.Document.Gap

/-! Texts in quotes, single or double. -/

namespace Montage.Document

def escaped? (char : Char) : Option Char :=
  [('0', '\x00'), ('a', '\x07'), ('b', '\x08'), ('t', '\t'), ('\t', '\t'), ('n', '\n'),
    ('v', '\x0b'), ('f', '\x0c'), ('r', '\r'), ('e', '\x1b'), (' ', ' '), ('"', '"'),
    ('\\', '\\'), ('/', '/'), ('N', '\u0085'), ('_', '\u00a0'), ('L', '\u2028'),
    ('P', '\u2029')].lookup char

def hexValue? (char : Char) : Option Nat :=
  if char.isDigit then some (char.toNat - '0'.toNat)
  else if 'a' ≤ char && char ≤ 'f' then some (char.toNat - 'a'.toNat + 10)
  else if 'A' ≤ char && char ≤ 'F' then some (char.toNat - 'A'.toNat + 10)
  else none

def hexNumber? (digits : List Char) : Option Nat :=
  digits.foldlM (fun number digit => (16 * number + ·) <$> hexValue? digit) 0

example : hexNumber? ['2', 'F'] = some 47 ∧ hexNumber? ['g'] = none := by decide

def greatestCode : Nat := 0x7fffffff

/-- The character that hexadecimal digits name. Half of a pair of codes is shown as the
character for what cannot be shown. -/
def namedChar (digits : List Char) : Except Fault Char :=
  match hexNumber? digits with
  | none => .error .unreadable
  | some code =>
      if greatestCode < code then .error (.misfit .unbounded)
      else if 0x10ffff < code then .error (.misfit .noSuchCharacter)
      else if 0xd800 ≤ code && code < 0xe000 then .ok '\ufffd'
      else .ok (Char.ofNat code)

private def fill (gap : Gap) (read : List Char) : List Char :=
  gap.folded.reverse ++ read

def readSingleQuoted (gap : Gap) (read : List Char) :
    List Char → Except Fault (String × List Char)
  | [] => .error .unreadable
  | '\'' :: '\'' :: rest => readSingleQuoted .nothing ('\'' :: fill gap read) rest
  | '\'' :: rest => .ok (String.ofList (fill gap read).reverse, rest)
  | char :: rest =>
      if isBreak char then
        if startsMarker rest then .error .unreadable
        else readSingleQuoted (gap.newLine char) read rest
      else if isSpacing char then readSingleQuoted (gap.space char) read rest
      else readSingleQuoted .nothing (char :: fill gap read) rest

def readDoubleQuoted (gap : Gap) (read : List Char) :
    List Char → Except Fault (String × List Char)
  | [] => .error .unreadable
  | '"' :: rest => .ok (String.ofList (fill gap read).reverse, rest)
  | '\\' :: 'x' :: a :: b :: rest => do
      let char ← namedChar [a, b]
      readDoubleQuoted .nothing (char :: fill gap read) rest
  | '\\' :: 'u' :: a :: b :: c :: d :: rest => do
      let char ← namedChar [a, b, c, d]
      readDoubleQuoted .nothing (char :: fill gap read) rest
  | '\\' :: 'U' :: a :: b :: c :: d :: e :: f :: g :: h :: rest => do
      let char ← namedChar [a, b, c, d, e, f, g, h]
      readDoubleQuoted .nothing (char :: fill gap read) rest
  | '\\' :: char :: rest =>
      match escaped? char with
      | some meant => readDoubleQuoted .nothing (meant :: fill gap read) rest
      | none =>
          if isBreak char && !startsMarker rest then
            readDoubleQuoted (.joined []) (fill gap read) rest
          else .error .unreadable
  | char :: rest =>
      if isBreak char then
        if startsMarker rest then .error .unreadable
        else readDoubleQuoted (gap.newLine char) read rest
      else if isSpacing char then readDoubleQuoted (gap.space char) read rest
      else readDoubleQuoted .nothing (char :: fill gap read) rest

example : (readSingleQuoted .nothing [] "it''s'x".toList).toOption = some ("it's", ['x']) := by
  decide +kernel
example : (readDoubleQuoted .nothing [] "a\\x41 \n b\" ".toList).toOption =
    some ("aA b", [' ']) := by decide +kernel

end Montage.Document
