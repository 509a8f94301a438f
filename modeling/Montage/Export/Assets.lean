import Montage.Export.Extraction
import Montage.Export.Pool

/-! The pictures of all clips that play, each in a file of the workspace. -/

namespace Montage

variable {τ : Type} [Quantity τ]

def extractionJobs {item : Type} (clipOf : item → Clip τ) (items : List item)
    (timeline : Timeline τ) (workspace : Workspace) (settings : Settings) :
    List (Act (Option (Asset item τ))) :=
  let ordinals := trackOrdinals (items.map fun item => (clipOf item).track)
  (items.zip ordinals).map fun (item, ordinal) => do
    let extraction ← extract (clipOf item) .video timeline workspace settings ordinal
    return extraction.map fun extraction =>
      { item, window := extraction.window, path := extraction.output.text }

/-- Extracts the pictures of some items. Those that play nothing are left out; the others
keep their order, however many workers there are. -/
def extractAll {item : Type} (clipOf : item → Clip τ) (items : List item)
    (timeline : Timeline τ) (workspace : Workspace) (settings : Settings) :
    Act (List (Asset item τ)) := do
  let results ← runJobs settings.workers
    (extractionJobs clipOf items timeline workspace settings)
  return results.filterMap id

def extractMain (checked : CheckedTimeline τ) (workspace : Workspace) (settings : Settings) :
    Act (List (Asset (Clip τ) τ)) :=
  extractAll id checked.mainClips checked.timeline workspace settings

def extractLayers (checked : CheckedTimeline τ) (workspace : Workspace)
    (settings : Settings) : Act (List (Asset (Layer τ) τ)) :=
  extractAll Layer.clip checked.layers checked.timeline workspace settings

end Montage
