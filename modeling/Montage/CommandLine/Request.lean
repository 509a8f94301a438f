import Montage.CommandLine.Grammar
import Montage.Number.Reading

/-! What a command line asks for. -/

namespace Montage

structure ExportChoices where
  source : Option String := none
  start : Option Float := none
  stop : Option Float := none
  manifest : Option String := none
  output : Option String := none
  validateOnly : Bool := false
  gpu : Bool := false
  streamCopy : Bool := false
  workers : Int := 1
  timeout : Float := 3600.0
  ffmpeg : Option String := none
  workspaceRoot : Option String := none
  verbose : Bool := false

structure CheckChoices where
  ffmpeg : Option String := none

/-! ## Options -/

namespace CommandOption

variable {σ : Type}

def ofFlag (name : String) (set : σ → σ) : CommandOption σ :=
  ⟨name, .flag set⟩

def ofText (name : String) (set : String → σ → σ) : CommandOption σ :=
  ⟨name, .valued fun text choices => .ok (set text choices)⟩

def ofNumber (name : String) (set : Float → σ → σ) : CommandOption σ :=
  ⟨name, .valued fun text choices =>
    match readFloat? text.toList with
    | some number => .ok (set number choices)
    | none => .error (.notANumber name text)⟩

def ofInteger (name : String) (set : Int → σ → σ) : CommandOption σ :=
  ⟨name, .valued fun text choices =>
    match readInteger? text.toList with
    | some number => .ok (set number choices)
    | none => .error (.notAnInteger name text)⟩

end CommandOption

def exportGrammar : Grammar ExportChoices where
  options := [
    .ofNumber "--start" fun number choices => { choices with start := some number },
    .ofNumber "--end" fun number choices => { choices with stop := some number },
    .ofText "--manifest" fun text choices => { choices with manifest := some text },
    .ofText "--output" fun text choices => { choices with output := some text },
    .ofFlag "--validate" fun choices => { choices with validateOnly := true },
    .ofFlag "--gpu" fun choices => { choices with gpu := true },
    .ofFlag "--copy" fun choices => { choices with streamCopy := true },
    .ofInteger "--workers" fun number choices => { choices with workers := number },
    .ofNumber "--timeout" fun number choices => { choices with timeout := number },
    .ofText "--ffmpeg" fun text choices => { choices with ffmpeg := some text },
    .ofText "--workspace-root" fun text choices => { choices with workspaceRoot := some text },
    .ofFlag "--verbose" fun choices => { choices with verbose := true }]
  operand := some fun text choices => { choices with source := some text }

def checkGrammar : Grammar CheckChoices where
  options := [.ofText "--ffmpeg" fun text choices => { choices with ffmpeg := some text }]

/-! ## Help -/

inductive HelpWord where
  | proper
  | withValue (value : String)
  deriving DecidableEq, Repr

/-- What follows `-h` in the same word: it may be repeated, and what is no hyphen does not
matter. -/
def helpTail : List Char → HelpWord
  | [] => .proper
  | 'h' :: '=' :: value => .withValue (String.ofList value)
  | 'h' :: rest => helpTail rest
  | '-' :: rest => .withValue (String.ofList ('-' :: rest))
  | _ => .proper

def helpWord? (word : String) : Option HelpWord :=
  let (name, value) := splitAtEquals word.toList
  let asked := (value.map HelpWord.withValue).getD .proper
  if name = ['-', 'h'] then some asked
  else if ['-', '-'].isPrefixOf name && name.isPrefixOf "--help".toList then some asked
  else match word.toList with
    | '-' :: 'h' :: tail => some (helpTail tail)
    | _ => none

/-! ## Requests -/

inductive Request where
  | help (exitCode : Nat)
  | exportVideo (choices : ExportChoices)
  | checkFfmpeg (choices : CheckChoices)

structure UsageError where
  program : String
  fault : UsageFault

def UsageError.text (error : UsageError) : String :=
  error.program ++ ": error: " ++ error.fault.message

def programName : String :=
  "cliptrack"

def giveHelp (program : String) (word : HelpWord) : Except UsageError Request :=
  match word with
  | .proper => .ok (.help 0)
  | .withValue value => .error ⟨program, .valueUnused "-h/--help" value⟩

def findHelp (words : List String) : Option HelpWord :=
  (words.takeWhile (· != "--")).findSome? helpWord?

def readCommand (name : String) (words : List String) : Except UsageError Request :=
  match findHelp words with
  | some word => giveHelp (programName ++ " " ++ name) word
  | none =>
      (if name = "export" then Request.exportVideo <$> exportGrammar.read words {}
      else Request.checkFfmpeg <$> checkGrammar.read words {}).mapError (⟨programName, ·⟩)

def outerGrammar : Grammar Unit where
  options := []

def readRequest (leading : List String) : List String → Except UsageError Request
  | [] => .ok (.help 1)
  | ["--"] => .ok (.help 1)
  | word :: rest =>
      match word, helpWord? word, outerGrammar.understand word with
      | "--", _, _ => .error ⟨programName, .unknownCommand word⟩
      | _, some help, _ => giveHelp programName help
      | _, none, .ok (.unknown _) => readRequest (leading ++ [word]) rest
      | _, none, _ =>
          if commandNames.contains word then readCommand word (leading ++ rest)
          else .error ⟨programName, .unknownCommand word⟩

end Montage
