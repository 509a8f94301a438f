import Montage.Problem
import Montage.Text.Word

/-! Texts with path variables: `$`, then a name in braces. One pass from left to right puts
in the values, which are not looked at again. -/

namespace Montage

inductive Piece where
  | literal (char : Char)
  | placeholder (name : List Char)
  deriving DecidableEq, Repr

namespace Piece

def name? : List Char → Option (List Char × List Char)
  | '\x7b' :: rest =>
      match rest.takeWhile isWordChar, rest.dropWhile isWordChar with
      | [], _ => none
      | name, '\x7d' :: after => some (name, after)
      | _, _ => none
  | _ => none

theorem length_dropWhile_le (keep : Char → Bool) (text : List Char) :
    (text.dropWhile keep).length ≤ text.length :=
  (List.dropWhile_suffix keep).sublist.length_le

theorem name?_shorter {text name after : List Char} (found : name? text = some (name, after)) :
    after.length < text.length := by
  unfold name? at found
  split at found
  · rename_i rest
    have bound := length_dropWhile_le isWordChar rest
    split at found
    · contradiction
    · rename_i tail equal _
      cases found
      rw [equal] at bound
      simp only [List.length_cons] at bound ⊢
      omega
    · contradiction
  · contradiction

def ofText (text : List Char) : List Piece :=
  match text with
  | [] => []
  | char :: rest =>
      if char = '$' then
        match found : name? rest with
        | some (name, after) =>
            have : after.length < rest.length := name?_shorter found
            .placeholder name :: ofText after
        | none => .literal char :: ofText rest
      else .literal char :: ofText rest
termination_by text.length

example : ofText "a$\x7bb\x7d".toList = [.literal 'a', .placeholder ['b']] := by decide +kernel

def expand (values : Value) : Piece → Except Problem (List Char)
  | .literal char => .ok [char]
  | .placeholder chars => do
      let name := String.ofList chars
      if ← (values.holds name).mapError Problem.misfit then
        let value ← (values.under name).mapError Problem.misfit
        return (← value.write.mapError Problem.misfit).toList
      else throw (.ofFault (.unknownVariable name))

end Piece

def expandVariables (values : Value) (text : String) : Except Problem String := do
  let parts ← (Piece.ofText text.toList).mapM (Piece.expand values)
  return String.ofList parts.flatten

end Montage
