import Montage.Document.Node

/-! The values of texts that are tagged. -/

namespace Montage.Document

/-! ## Integers -/

def digitIn? (base : Nat) (digit : Char) : Option Nat :=
  match hexValue? digit with
  | some value => if value < base then some value else none
  | none => none

def letterOf? (base : Nat) : Option Char :=
  [(2, 'b'), (8, 'o'), (16, 'x')].lookup base

def readInBase? (base : Nat) (text : List Char) : Option Int :=
  let (negative, body) := takeSign (numeralBody text)
  let digits := match body with
    | '0' :: letter :: rest => if letterOf? base = some letter.toLower then rest else body
    | _ => body
  if digits.isEmpty then none
  else
    let magnitude :=
      digits.foldlM (fun number digit => (base * number + ·) <$> digitIn? base digit) 0
    magnitude.map fun number => if negative then -(number : Int) else number

def sixtieths (parts : List Int) : Int :=
  parts.foldl (fun number part => 60 * number + part) 0

def spelled (number : Option α) : Except Misfit α :=
  number.elim (.error .notANumeral) .ok

/-- The integer of a text: in base two or sixteen after `0b` and `0x`, in base eight after
another zero, otherwise in decimal or in sixtieths. Underscores do not count. -/
def integerOf (text : List Char) : Except Misfit Int := do
  let (negative, body) := takeSign (text.filter (· != '_'))
  let magnitude ← match body with
    | [] => throw .noCharacters
    | ['0'] => pure 0
    | '0' :: 'b' :: digits => spelled (readInBase? 2 digits)
    | '0' :: 'x' :: digits => spelled (readInBase? 16 digits)
    | '0' :: _ => spelled (readInBase? 8 body)
    | _ =>
        if body.contains ':' then
          sixtieths <$> (Tag.betweenColons body).mapM fun part => spelled (readInteger? part)
        else spelled (readInteger? body)
  return if negative then -magnitude else magnitude

example : (integerOf "-1:30".toList).toOption = some (-90) ∧
    (integerOf "0x_1F".toList).toOption = some 31 ∧ (integerOf "010".toList).toOption = some 8 := by
  decide +kernel

/-! ## Doubles -/

def floatSixtieths (parts : List Float) : Except Misfit Float :=
  (parts.reverse.zipIdx).foldlM (fun sum (part, index) =>
    match Binary64.ofInt? (Nat.pow 60 index) with
    | some weight => .ok (sum + part * weight)
    | none => .error .unbounded) 0.0

def floatOf (text : List Char) : Except Misfit Float := do
  let body := (text.filter (· != '_')).map Char.toLower
  if body.isEmpty then throw .noCharacters
  let (negative, body) := takeSign body
  if body = ".inf".toList then return Binary64.infinity negative
  if body = ".nan".toList then return Binary64.nan
  let magnitude ←
    if body.contains ':' then do
      floatSixtieths (← (Tag.betweenColons body).mapM fun part => spelled (readFloat? part))
    else spelled (readFloat? body)
  return if negative then -magnitude else magnitude

/-! ## Bytes -/

def sixBits? (char : Char) : Option Nat :=
  if 'A' ≤ char && char ≤ 'Z' then some (char.toNat - 'A'.toNat)
  else if 'a' ≤ char && char ≤ 'z' then some (char.toNat - 'a'.toNat + 26)
  else if char.isDigit then some (char.toNat - '0'.toNat + 52)
  else if char = '+' then some 62
  else if char = '/' then some 63
  else none

/-- The bytes of a text in base sixty-four. Four characters make three bytes, and equals
signs fill up the last four; what stands for nothing is passed over. `held` are the six-bit
values of a group that is not full yet, and `fills` the equals signs right before. -/
def bytesOf? (held : List Nat) (fills : Nat) (bytes : List UInt8) : List Char → Option (List UInt8)
  | [] => if held.isEmpty then some bytes else none
  | char :: rest =>
      if char = '=' then
        if 2 ≤ held.length then
          if 4 ≤ held.length + fills + 1 then some bytes
          else bytesOf? held (fills + 1) bytes rest
        else bytesOf? held fills bytes rest
      else
        match sixBits? char, held with
        | none, _ => bytesOf? held fills bytes rest
        | some bits, [] => bytesOf? [bits] 0 bytes rest
        | some bits, [first] =>
            bytesOf? [first, bits] 0 (bytes ++ [UInt8.ofNat (first * 4 + bits / 16)]) rest
        | some bits, [first, second] =>
            bytesOf? [first, second, bits] 0 (bytes ++ [UInt8.ofNat (second * 16 + bits / 4)]) rest
        | some bits, _ :: _ :: third :: _ =>
            bytesOf? [] 0 (bytes ++ [UInt8.ofNat (third * 64 + bits)]) rest

example : bytesOf? [] 0 [] "aGk=".toList = some [104, 105] := by decide +kernel

/-! ## All texts -/

def truthOf? (word : String) : Option Bool :=
  [("yes", true), ("no", false), ("true", true), ("false", false), ("on", true),
    ("off", false)].lookup word

def dateOf (text : List Char) : Except Misfit Value :=
  let body := if text.getLast? = some '\n' then text.dropLast else text
  match readDate? body with
  | none => .error .notADate
  | some date => (existing? date).elim (.error .noSuchMoment) .ok

def scalarValue (tag : Tag) (text : String) : Except Fault Value :=
  let chars := text.toList
  match tag with
  | .null => .ok .null
  | .bool =>
      match truthOf? (String.ofList (chars.map Char.toLower)) with
      | some truth => .ok (.bool truth)
      | none => .error (.misfit .notATruth)
  | .int => ((integerOf chars).map Value.int).mapError .misfit
  | .float => ((floatOf chars).map Value.float).mapError .misfit
  | .text => .ok (.text text)
  | .binary =>
      match chars.all (·.toNat < 128), bytesOf? [] 0 [] chars with
      | true, some bytes => .ok (.bytes bytes)
      | _, _ => .error .unreadable
  | .moment => (dateOf chars).mapError .misfit
  | _ => .error .unreadable

end Montage.Document
