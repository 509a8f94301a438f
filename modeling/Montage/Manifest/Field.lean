import Montage.Problem

/-! The fields of a manifest that hold numbers. -/

namespace Montage

/-- Both values of a pair read as numbers. A value that is no number is a fault of the
field; a number without bounds is none of the field's. -/
def readPair {number : Type} (read : Value → Except Misfit number) (field : String)
    (given : Value) : Except Problem (number × number) :=
  let readBoth (first second : Value) : Except Problem (number × number) :=
    let both : Except Misfit (number × number) := do return (← read first, ← read second)
    both.mapError fun
      | .unbounded => .misfit .unbounded
      | _ => .ofFault (.notNumbers field given)
  match given with
  | .list [first, second] | .tuple [first, second] => readBoth first second
  | _ => .error (.ofFault (.notAPair field given))

def readNumber (field : String) (given : Value) : Except Problem Float :=
  match given with
  | .int number => (Binary64.ofInt? number).elim (.error (.misfit .unbounded)) .ok
  | .float number =>
      if number.isFinite then .ok number else .error (.ofFault (.notFinite field given))
  | _ => .error (.ofFault (.notANumber field given))

end Montage
