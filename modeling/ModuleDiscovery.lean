import ModuleDiscovery.Main
import ModuleDiscovery.Proofs.Distinct
import ModuleDiscovery.Proofs.Clustering.Run
import ModuleDiscovery.Proofs.Extraction.Repair
import ModuleDiscovery.Proofs.Extraction.Partition
import ModuleDiscovery.Proofs.Extraction.ThresholdCut
import ModuleDiscovery.Proofs.Clustering.Descent
import ModuleDiscovery.Proofs.Analysis.Findings
import ModuleDiscovery.Proofs.Clustering.Activation
import ModuleDiscovery.Proofs.Clustering.Replay
import ModuleDiscovery.Proofs.Extraction.Overshoot
import ModuleDiscovery.Proofs.Extraction.SmallJoins
import ModuleDiscovery.Proofs.Graph.CallCounts
import ModuleDiscovery.Proofs.Graph.Shares
import ModuleDiscovery.Proofs.Clustering.CallShares
import ModuleDiscovery.Proofs.Clustering.Accounting
import ModuleDiscovery.Proofs.Clustering.Components
import ModuleDiscovery.Proofs.Graph.Groups
import ModuleDiscovery.Proofs.Extraction.Acceptance
import ModuleDiscovery.Proofs.Extraction.Averages
import ModuleDiscovery.Proofs.Graph.Renaming
import ModuleDiscovery.Proofs.Clustering.Renaming
import ModuleDiscovery.Proofs.Extraction.Renaming
import ModuleDiscovery.Proofs.Clustering.Reordering
import ModuleDiscovery.Proofs.Number.Rounding
import ModuleDiscovery.Proofs.Report.Places
import ModuleDiscovery.Proofs.Report.Ranking
import ModuleDiscovery.Proofs.Settings.Accepted
import ModuleDiscovery.Proofs.Analysis.Reportable
import ModuleDiscovery.Proofs.Report.Unrefused
import ModuleDiscovery.Proofs.CommandLine.Output
import ModuleDiscovery.Proofs.Results
import ModuleDiscovery.Proofs.Graph.Arrival
import ModuleDiscovery.Proofs.Graph.Merging
import ModuleDiscovery.Proofs.Graph.Restriction
import ModuleDiscovery.Proofs.CommandLine.Export
import ModuleDiscovery.Proofs.Files.NullCharacter
import ModuleDiscovery.Proofs.Text.Utf8
import ModuleDiscovery.Proofs.Json.Limits
import ModuleDiscovery.Proofs.EdgeFile.Outcome
import ModuleDiscovery.Proofs.EdgeFile.Idle
import ModuleDiscovery.Proofs.Report.DotReader
import ModuleDiscovery.Proofs.Report.Dot
import ModuleDiscovery.Proofs.Analysis.Units
import ModuleDiscovery.Proofs.Settings.Priority
import ModuleDiscovery.Proofs.Number.Finite
import ModuleDiscovery.Proofs.Settings.Nesting
import ModuleDiscovery.Proofs.Settings.Threshold
import ModuleDiscovery.Proofs.Toml.Excess
import ModuleDiscovery.Proofs.Toml.Dotted
import ModuleDiscovery.Proofs.Toml.Limits
import ModuleDiscovery.Proofs.Settings.Outcome
import ModuleDiscovery.Proofs.Settings.Undocumented
import ModuleDiscovery.Proofs.EdgeFile.Forms
import ModuleDiscovery.Proofs.Report.Csv
import ModuleDiscovery.Proofs.Report.Listing
import ModuleDiscovery.Proofs.Number.Nonnegative
import ModuleDiscovery.Proofs.Clustering.FirstBest
import ModuleDiscovery.Proofs.Graph.Ownership
import ModuleDiscovery.Proofs.Report.Text
import ModuleDiscovery.Proofs.Number.Figures
import ModuleDiscovery.Proofs.Console.Picture
import ModuleDiscovery.Proofs.Console.Markup
import ModuleDiscovery.Proofs.Console.Label
import ModuleDiscovery.Proofs.Console.Wrap
import ModuleDiscovery.Proofs.Report.Display
import ModuleDiscovery.Proofs.CommandLine.Refused
import ModuleDiscovery.Proofs.Number.Value
import ModuleDiscovery.Proofs.Number.ExactArithmetic
import ModuleDiscovery.Proofs.Number.Grouping
import ModuleDiscovery.Proofs.Number.Regular
import ModuleDiscovery.Proofs.Clustering.MeanOrder
import ModuleDiscovery.Proofs.Graph.Retry
import ModuleDiscovery.Proofs.Extraction.SmallestPair
import ModuleDiscovery.Proofs.Clustering.Walk
