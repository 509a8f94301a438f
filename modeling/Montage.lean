import Montage.Export.Exporter
import Montage.Manifest.Basic
import Montage.Timeline.Overrun
import Montage.Timeline.Sources
import Montage.Document.BlockScalar
import Montage.Document.PlainScalar
import Montage.Document.QuotedScalar
import Montage.Document.Layout
import Montage.Document.Date
import Montage.Document.Node
import Montage.CommandLine.Grammar
import Montage.CommandLine.Request
import Montage.CommandLine.Commands
import Montage.Main
import Montage.Proofs.Export.Additions
import Montage.Proofs.Export.Always
import Montage.Proofs.Export.CallPlan
import Montage.Proofs.Export.Cancellation
import Montage.Proofs.Export.CleanUp
import Montage.Proofs.Export.Composition
import Montage.Proofs.Export.Crew
import Montage.Proofs.Export.FirstFailure
import Montage.Proofs.Export.Hearing
import Montage.Proofs.Export.Parallel
import Montage.Proofs.Export.Picture
import Montage.Proofs.Export.Reordering
import Montage.Proofs.Export.Shifting
import Montage.Proofs.Export.Omission
import Montage.Proofs.Export.Reuse
import Montage.Proofs.Export.StageMachine
import Montage.Proofs.Export.StepLaw
import Montage.Proofs.Export.Sync
import Montage.Proofs.Manifest.Output
import Montage.Proofs.Manifest.Planning
import Montage.Proofs.Number.Rational
import Montage.Proofs.Tool.History
import Montage.Proofs.Tool.Sharing
import Montage.Proofs.Graph.ReadingBack
import Montage.Proofs.Isolation
import Montage.Proofs.Manifest.Stumbling
import Montage.Proofs.CommandLine.Checking
import Montage.Proofs.Graph.Extent
import Montage.Proofs.Graph.Sizing
import Montage.Proofs.Graph.SizedDrawing
import Montage.Proofs.Number.Thousandths
import Montage.Proofs.Number.Defined
import Montage.Proofs.Number.Seconds
import Montage.Proofs.Export.Slivers
import Montage.Proofs.Number.Amount
import Montage.Proofs.Timeline.WellFormed
import Montage.Proofs.Timeline.Partition
import Montage.Proofs.Timeline.Playing
import Montage.Proofs.Graph.Readable
import Montage.Proofs.Export.Gates
import Montage.Proofs.Timeline.Tiling
import Montage.Proofs.Timeline.Shifting
import Montage.Proofs.Timeline.Omission
import Montage.Proofs.Graph.Pixel
import Montage.Proofs.Graph.Blending
import Montage.Proofs.Graph.BuildLaw
import Montage.Proofs.Graph.Usable
import Montage.Proofs.Graph.Paths
import Montage.Proofs.Export.Closing
import Montage.Proofs.Export.SoundList
import Montage.Proofs.Graph.Labelling
import Montage.Proofs.Graph.FreshLabels
import Montage.Proofs.Manifest.Variables
import Montage.Proofs.Number.ShortNumeral
import Montage.Proofs.Export.LastCall
import Montage.Proofs.Export.Instruction
import Montage.Proofs.Export.Dataflow
import Montage.Proofs.Graph.Options
import Montage.Proofs.Graph.Overlong
