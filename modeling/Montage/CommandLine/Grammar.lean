import Montage.CommandLine.Usage
import Montage.Text.Digit

/-! Options on a command line, and how words are read as them. An option may be shortened
to a beginning that no other option has, and its value is the next word or follows an
equals sign. -/

namespace Montage

inductive OptionEffect (σ : Type) where
  | flag (set : σ → σ)
  | valued (set : String → σ → Except UsageFault σ)

structure CommandOption (σ : Type) where
  name : String
  effect : OptionEffect σ

structure Grammar (σ : Type) where
  options : List (CommandOption σ)
  operand : Option (String → σ → σ) := none

inductive Word (σ : Type) where
  | plain (text : String)
  | divider
  | option (option : CommandOption σ) (value : Option String)
  | unknown (text : String)

def splitAtEquals (word : List Char) : List Char × Option String :=
  let name := word.takeWhile (· != '=')
  match word.drop name.length with
  | [] => (name, none)
  | _ :: value => (name, some (String.ofList value))

def isNegativeNumeral (word : List Char) : Bool :=
  let isDigit (char : Char) := (digitValue? char).isSome
  let isNumeral (digits : List Char) := !digits.isEmpty && digits.all isDigit
  match if word.getLast? = some '\n' then word.dropLast else word with
  | '-' :: body =>
      isNumeral body ||
        match body.dropWhile isDigit with
        | '.' :: fraction => isNumeral fraction
        | _ => false
  | _ => false

example : isNegativeNumeral "-.5".toList ∧ ¬ isNegativeNumeral "-1e3".toList := by
  decide +kernel

namespace Grammar

variable {σ : Type}

/-- The options that a word names: the one with this name, or else all that begin with
it. -/
def matching (grammar : Grammar σ) (name : List Char) : List (CommandOption σ) :=
  match grammar.options.filter fun option => option.name.toList == name with
  | [] =>
      if ['-', '-'].isPrefixOf name then
        grammar.options.filter fun option => name.isPrefixOf option.name.toList
      else []
  | exact => exact

def understand (grammar : Grammar σ) (word : String) : Except UsageFault (Word σ) :=
  let chars := word.toList
  if chars.head? ≠ some '-' || chars = ['-'] then .ok (.plain word)
  else
    let (name, value) := splitAtEquals chars
    match grammar.matching name with
    | [option] => .ok (.option option value)
    | [] =>
        if isNegativeNumeral chars || chars.contains ' ' then .ok (.plain word)
        else .ok (.unknown word)
    | several => .error (.ambiguous word (several.map CommandOption.name))

def understandAll (grammar : Grammar σ) : List String → Except UsageFault (List (Word σ))
  | [] => .ok []
  | "--" :: rest => .ok (.divider :: rest.map .plain)
  | word :: rest => do
      let first ← grammar.understand word
      return first :: (← grammar.understandAll rest)

/-- Makes the choices that the words name, one after the other. The first plain word is the
operand, if there is to be one, and a divider beside it belongs to it. The words that are
left over come with the choices. -/
def choose (operand : Option (String → σ → σ)) (choices : σ) :
    List (Word σ) → Except UsageFault (σ × List String)
  | [] => .ok (choices, [])
  | .option ⟨name, .flag _⟩ (some value) :: _ => .error (.valueUnused name value)
  | .option ⟨_, .flag set⟩ none :: rest => choose operand (set choices) rest
  | .option ⟨_, .valued set⟩ (some value) :: rest => do
      choose operand (← set value choices) rest
  | .option ⟨_, .valued set⟩ none :: .plain value :: rest => do
      choose operand (← set value choices) rest
  | .option ⟨name, .valued _⟩ none :: _ => .error (.valueMissing name)
  | .unknown text :: rest => do
      let (chosen, left) ← choose operand choices rest
      return (chosen, text :: left)
  | .divider :: rest =>
      match operand, rest with
      | some _, [] => .ok (choices, [])
      | some set, .plain text :: rest => choose none (set text choices) rest
      | _, rest => do
          let (chosen, left) ← choose operand choices rest
          return (chosen, "--" :: left)
  | .plain text :: rest =>
      match operand, rest with
      | some set, .divider :: rest => choose none (set text choices) rest
      | some set, rest => choose none (set text choices) rest
      | none, rest => do
          let (chosen, left) ← choose operand choices rest
          return (chosen, text :: left)

def read (grammar : Grammar σ) (words : List String) (choices : σ) : Except UsageFault σ := do
  let (chosen, left) ← choose grammar.operand choices (← grammar.understandAll words)
  if left.isEmpty then return chosen else throw (.unrecognized left)

end Grammar

end Montage
