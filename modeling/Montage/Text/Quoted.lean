import Montage.Text.Printable

/-! Texts in quotes, as messages show them. -/

namespace Montage

def hexDigit (value : Nat) : Char :=
  Nat.digitChar (value % 16)

def hexDigits : (width : Nat) → Nat → List Char
  | 0, _ => []
  | width + 1, number => hexDigits width (number / 16) ++ [hexDigit number]

example : String.ofList (hexDigits 4 0x200b) = "200b" := by decide

def escapedChar (char : Char) : List Char :=
  match char with
  | '\t' => ['\\', 't']
  | '\n' => ['\\', 'n']
  | '\r' => ['\\', 'r']
  | _ =>
      let point := char.toNat
      if point < 0x100 then '\\' :: 'x' :: hexDigits 2 point
      else if point < 0x10000 then '\\' :: 'u' :: hexDigits 4 point
      else '\\' :: 'U' :: hexDigits 8 point

/-- The quote around a text: single, unless the text has a single quote and no double
one. -/
def quoteFor (text : List Char) : Char :=
  if text.contains '\'' && !text.contains '"' then '"' else '\''

def quotedChar (quote char : Char) : List Char :=
  if char = quote || char = '\\' then ['\\', char]
  else if isPrintable char then [char]
  else escapedChar char

def quotedChars (text : List Char) : List Char :=
  let quote := quoteFor text
  quote :: text.flatMap (quotedChar quote) ++ [quote]

def quoted (text : String) : String :=
  String.ofList (quotedChars text.toList)

example : quoted "it's\n" = "\"it's\\n\"" := by decide +kernel

def quotedBytes (bytes : List UInt8) : String :=
  let chars := bytes.map fun byte => Char.ofNat byte.toNat
  let quote := quoteFor chars
  let shown (char : Char) : List Char :=
    if char.toNat < 0x7f then quotedChar quote char else escapedChar char
  String.ofList ('b' :: quote :: chars.flatMap shown ++ [quote])

example : quotedBytes [97, 39, 0, 255] = "b\"a'\\x00\\xff\"" := by decide +kernel

end Montage
