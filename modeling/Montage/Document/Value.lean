import Montage.Document.Moment
import Montage.Misfit
import Montage.Number.Reading
import Montage.Number.Shortest
import Montage.Text.Quoted

/-! Values of a document, how they are shown, and the numbers they stand for. -/

namespace Montage

/-- A value of a document. A `tuple` is a fixed group, such as a pair or an ordered
entry; a `map` keeps its entries in the order in which their keys first came. -/
inductive Value where
  | null
  | bool (truth : Bool)
  | int (number : Int)
  | float (number : Float)
  | text (chars : String)
  | bytes (content : List UInt8)
  | day (date : Day)
  | moment (time : Moment)
  | list (items : List Value)
  | tuple (items : List Value)
  | set (members : List Value)
  | map (entries : List (Value × Value))
  deriving Inhabited

namespace Value

/-! ## How a value is shown -/

mutual
def literal : Value → String
  | .null => "None"
  | .bool true => "True"
  | .bool false => "False"
  | .int number => integerText number
  | .float number => shortestText number
  | .text chars => quoted chars
  | .bytes content => quotedBytes content
  | .day date => date.literal
  | .moment time => time.literal
  | .list items => "[" ++ ", ".intercalate (literals items) ++ "]"
  | .tuple [item] => "(" ++ item.literal ++ ",)"
  | .tuple items => "(" ++ ", ".intercalate (literals items) ++ ")"
  | .set [] => "set()"
  | .set members => "\x7b" ++ ", ".intercalate (literals members) ++ "\x7d"
  | .map entries => "\x7b" ++ ", ".intercalate (entryLiterals entries) ++ "\x7d"

def literals : List Value → List String
  | [] => []
  | item :: rest => item.literal :: literals rest

def entryLiterals : List (Value × Value) → List String
  | [] => []
  | (key, value) :: rest => (key.literal ++ ": " ++ value.literal) :: entryLiterals rest
end

def plain : Value → String
  | .text chars => chars
  | .day date => date.text
  | .moment time => time.text
  | value => value.literal

mutual
def isWritable : Value → Bool
  | .int number => hasFewDigits number
  | .list items | .tuple items | .set items => areWritable items
  | .map entries => entriesAreWritable entries
  | _ => true

def areWritable : List Value → Bool
  | [] => true
  | item :: rest => item.isWritable && areWritable rest

def entriesAreWritable : List (Value × Value) → Bool
  | [] => true
  | (key, value) :: rest => key.isWritable && value.isWritable && entriesAreWritable rest
end

def write (value : Value) : Except Misfit String :=
  if value.isWritable then .ok value.plain else .error .tooManyDigits

theorem write_eq_ok {value : Value} (writable : value.isWritable = true) :
    value.write = .ok value.plain :=
  if_pos writable

theorem write_eq_ok_iff {value : Value} {written : String} :
    value.write = .ok written ↔ value.isWritable = true ∧ value.plain = written := by
  unfold write
  cases value.isWritable <;> simp

theorem write_eq_error {value : Value} (unwritable : value.isWritable = false) :
    value.write = .error .tooManyDigits :=
  if_neg (ne_true_of_eq_false unwritable)

theorem write_int {number : Int} (few : hasFewDigits number = true) :
    (Value.int number).write = .ok (integerText number) :=
  if_pos few

/-! ## Numbers that a value stands for -/

def integerOfFloat (number : Float) : Except Misfit Int :=
  match Binary64.ofFloat number with
  | .undefined => .error .notANumeral
  | .infinite _ => .error .unbounded
  | .finite negative significand exponent =>
      .ok (Binary64.truncated negative significand exponent)

private def numeralOfBytes (content : List UInt8) : List Char :=
  content.map fun byte => if byte.toNat < 128 then Char.ofNat byte.toNat else '?'

def toInteger : Value → Except Misfit Int
  | .int number => .ok number
  | .bool truth => .ok truth.toInt
  | .float number => integerOfFloat number
  | .text chars => (readInteger? chars.toList).elim (.error .notANumeral) .ok
  | .bytes content => (readInteger? (numeralOfBytes content)).elim (.error .notANumeral) .ok
  | _ => .error .wrongKind

def toFloat : Value → Except Misfit Float
  | .int number => (Binary64.ofInt? number).elim (.error .unbounded) .ok
  | .bool truth => .ok (if truth then 1.0 else 0.0)
  | .float number => .ok number
  | .text chars => (readFloat? chars.toList).elim (.error .notANumeral) .ok
  | .bytes content => (readFloat? (numeralOfBytes content)).elim (.error .notANumeral) .ok
  | _ => .error .wrongKind

/-- Whether a number lies at or below zero; other kinds have no order with numbers. The
undefined number does not. -/
def isAtMostZero : Value → Except Misfit Bool
  | .int number => .ok (number ≤ 0)
  | .bool truth => .ok !truth
  | .float number => .ok (number ≤ 0.0)
  | _ => .error .wrongKind

/-! ## Equality and look-up -/

private def fraction? : Value → Option (Int × Nat)
  | .int number => some (number, 1)
  | .bool truth => some (truth.toInt, 1)
  | .float number =>
      match Binary64.ofFloat number with
      | .finite negative significand exponent =>
          let (numerator, denominator) := Binary64.ratio significand exponent
          some (if negative then -(numerator : Int) else numerator, denominator)
      | _ => none
  | _ => none

/-- Whether two values are the same key. Numbers of different kinds are the same when they
are equal as numbers, and the undefined number is the same as nothing. -/
def sameKey : Value → Value → Bool
  | .null, .null => true
  | .text left, .text right => left == right
  | .bytes left, .bytes right => left == right
  | .day left, .day right => left == right
  | .moment left, .moment right => left == right
  | .float left, .float right => left == right
  | left, right =>
      match fraction? left, fraction? right with
      | some (leftTop, leftBottom), some (rightTop, rightBottom) =>
          leftTop * rightBottom == rightTop * leftBottom
      | _, _ => false

def isFixed : Value → Bool
  | .list _ | .set _ | .map _ => false
  | _ => true

def isGiven : Value → Bool
  | .null => false
  | .bool truth => truth
  | .int number => number != 0
  | .float number => number != 0.0
  | .text chars => !chars.isEmpty
  | .bytes content => !content.isEmpty
  | .list items | .tuple items | .set items => !items.isEmpty
  | .map entries => !entries.isEmpty
  | .day _ | .moment _ => true

def lookup? (key : Value) : List (Value × Value) → Option Value
  | [] => none
  | (other, value) :: rest => if other.sameKey key then some value else lookup? key rest

def put (key value : Value) : List (Value × Value) → List (Value × Value)
  | [] => [(key, value)]
  | (other, old) :: rest =>
      if other.sameKey key then (other, value) :: rest else (other, old) :: put key value rest

def occursIn (part : List Char) : List Char → Bool
  | [] => part.isEmpty
  | char :: rest => part.isPrefixOf (char :: rest) || occursIn part rest

def holds (name : String) : Value → Except Misfit Bool
  | .map entries => .ok (lookup? (.text name) entries).isSome
  | .list items | .tuple items | .set items => .ok (items.any (sameKey (.text name)))
  | .text chars => .ok (occursIn name.toList chars.toList)
  | _ => .error .wrongKind

def under (name : String) : Value → Except Misfit Value
  | .map entries => (lookup? (.text name) entries).elim (.error .wrongKind) .ok
  | _ => .error .wrongKind

def field? (name : String) : Value → Except Misfit (Option Value)
  | .map entries => .ok (lookup? (.text name) entries)
  | _ => .error .noFields

end Value

def pairOf (first second : Int) : List Value :=
  [.int first, .int second]

def twoOf (given : List α) : Except Misfit (α × α) :=
  match given with
  | [first, second] => .ok (first, second)
  | _ => .error .notAPair

def twoIntegers (given : List Value) : Except Misfit (Int × Int) := do
  let (first, second) ← twoOf given
  return (← first.toInteger, ← second.toInteger)

end Montage
