/-! Sets of characters given by runs of code points. -/

namespace Montage

/-- A set of characters, as the lengths of the runs of code points that lie alternately
outside and inside of it. The first run lies outside; what follows the last run lies
outside too. -/
structure CharSet where
  runs : List Nat

namespace CharSet

/-- How far into its run the code point lies when that run lies inside. -/
def offsetIn? : (runs : List Nat) → (inside : Bool) → (point : Nat) → Option Nat
  | [], _, _ => none
  | run :: rest, inside, point =>
      if point < run then if inside then some point else none
      else offsetIn? rest (!inside) (point - run)

def offset? (set : CharSet) (char : Char) : Option Nat :=
  offsetIn? set.runs false char.toNat

def contains (set : CharSet) (char : Char) : Bool :=
  (set.offset? char).isSome

/-- The letters `b`, `c` and `d` and the letter `x`. -/
example : let set : CharSet := ⟨[98, 3, 19, 1]⟩
    "abcdexy".toList.filter set.contains = ['b', 'c', 'd', 'x'] := by decide

end CharSet

end Montage
