import Montage.Text.Quoted

/-! What is wrong with the words of a command line. -/

namespace Montage

inductive UsageFault where
  | ambiguous (word : String) (names : List String)
  | valueMissing (option : String)
  | valueUnused (option value : String)
  | notAnInteger (option value : String)
  | notANumber (option value : String)
  | unknownCommand (word : String)
  | unrecognized (words : List String)
  | mixedModes
  | nothingToExport
  | incompleteClip
  | noWorkers
  | outputMissing
  deriving DecidableEq, Repr

def commandNames : List String :=
  ["export", "check"]

namespace UsageFault

private def ofOption (option message : String) : String :=
  "argument " ++ option ++ ": " ++ message

def message : UsageFault → String
  | .ambiguous word names =>
      "ambiguous option: " ++ word ++ " could match " ++ ", ".intercalate names
  | .valueMissing option => ofOption option "expected one argument"
  | .valueUnused option value => ofOption option ("ignored explicit argument " ++ quoted value)
  | .notAnInteger option value => ofOption option ("invalid int value: " ++ quoted value)
  | .notANumber option value => ofOption option ("invalid float value: " ++ quoted value)
  | .unknownCommand word =>
      ofOption "command" ("invalid choice: " ++ quoted word ++ " (choose from " ++
        ", ".intercalate (commandNames.map quoted) ++ ")")
  | .unrecognized words => "unrecognized arguments: " ++ " ".intercalate words
  | .mixedModes => "Cannot mix single-clip args (source/--start/--end) with --manifest"
  | .nothingToExport => "Specify either --manifest or a source with --start/--end"
  | .incompleteClip => "Single-clip mode requires a source, --start and --end"
  | .noWorkers => "--workers must be >= 1"
  | .outputMissing => "--output is required (unless using --validate)"

end UsageFault

end Montage
