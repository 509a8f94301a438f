import Montage.Failure
import Montage.Files.Tree
import Montage.Graph.Node
import Montage.Manifest.Fault
import Montage.Timeline.Check

/-! Everything that can stop a step. -/

namespace Montage

inductive Problem where
  | failure (failure : Failure)
  | misfit (cause : Misfit)
  | graph (fault : GraphFault)
  | manifest (fault : ManifestFault)
  | file (fault : FileFault)
  | missingSources (sources : List String)
  | unreadableDocument
  | crash (text : String)
  | interrupted

variable {τ : Type} [Quantity τ]

/-- A violation is a failure of the check, but for a size that cannot be compared and a message
that cannot be written. -/
def Problem.ofViolation : Violation τ → Problem
  | .misfit cause => .misfit cause
  | violation =>
      if violation.isWritable then .failure { kind := .validation, message := violation.message }
      else .misfit .tooManyDigits

def Problem.ofFault (fault : ManifestFault) : Problem :=
  if fault.shown?.all Value.isWritable then .manifest fault else .misfit .tooManyDigits

def missingSourcesText (sources : List String) : String :=
  s!"Missing {sources.length} source file(s):\n" ++
    String.join (sources.map fun source => "  - " ++ source ++ "\n")

def Problem.text : Problem → String
  | .failure cause => cause.message
  | .misfit _ => "A value does not fit where it stands"
  | .graph cause => cause.message
  | .manifest cause => cause.message
  | .file _ => "A file or directory cannot be used"
  | .missingSources sources => missingSourcesText sources
  | .unreadableDocument => "The document cannot be read"
  | .crash text => text
  | .interrupted => "Interrupted"

end Montage
