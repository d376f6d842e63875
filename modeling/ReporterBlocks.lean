import ReporterBlocks.Command.Run
import ReporterBlocks.Main
import ReporterBlocks.Proofs.Block.Placeholder
import ReporterBlocks.Proofs.Reporter.Serial
import ReporterBlocks.Proofs.Reporter.Supersede
import ReporterBlocks.Proofs.Reporter.Trigger
import ReporterBlocks.Proofs.Session.Binding
import ReporterBlocks.Proofs.Session.Isolation
import ReporterBlocks.Proofs.Session.Refusal
import ReporterBlocks.Proofs.Session.Waiting
import ReporterBlocks.Proofs.Specifier.Anomaly
import ReporterBlocks.Proofs.Specifier.Tiling
import ReporterBlocks.Reporter.Run
import ReporterBlocks.Session.Run
import ReporterBlocks.Settings.Json
import ReporterBlocks.Proofs.Reporter.Arguments
import ReporterBlocks.Proofs.Reporter.Consistency
import ReporterBlocks.Proofs.Specifier.Automaton
import ReporterBlocks.Proofs.Specifier.Joining
import ReporterBlocks.Proofs.Session.Showing
import ReporterBlocks.Proofs.Scenario.Troupe
import ReporterBlocks.Proofs.Scenario.Verdict
import ReporterBlocks.Proofs.Session.Publication
import ReporterBlocks.Proofs.Specifier.Displaying
import ReporterBlocks.Proofs.Definition.SafeName
import ReporterBlocks.Proofs.Session.Listing
import ReporterBlocks.Proofs.Scenario.Front
import ReporterBlocks.Proofs.Scenario.Collection
import ReporterBlocks.Proofs.Specifier.Mending
import ReporterBlocks.Proofs.Specifier.Repair
import ReporterBlocks.Proofs.Command.Test
import ReporterBlocks.Proofs.Session.Loading
import ReporterBlocks.Proofs.Scenario.Delimiter
import ReporterBlocks.Proofs.Definition.Signature
