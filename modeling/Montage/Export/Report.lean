import Montage.Workspace

/-! What an export came to. -/

namespace Montage

structure ExportResult where
  exportId : Option String := none
  outputPath : Option String := none
  failure : Option Failure := none
  warnings : List CleanupWarning := []

namespace ExportResult

def isOk (result : ExportResult) : Bool :=
  result.failure.isNone && result.outputPath.isSome

def report (result : ExportResult) : String :=
  match result.failure with
  | some failure => failure.message
  | none => "Video exported successfully to: " ++ result.outputPath.getD "None"

end ExportResult

end Montage
