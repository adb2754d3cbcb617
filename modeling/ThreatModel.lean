import ThreatModel.Analysis.Basic
import ThreatModel.CallGraph.Load
import ThreatModel.Command.Paths
import ThreatModel.Command.Perform
import ThreatModel.Diagram.Builder
import ThreatModel.Diagram.Output
import ThreatModel.Files.Change
import ThreatModel.Ledger.Source
import ThreatModel.Main
import ThreatModel.Proofs.Analysis.Findings
import ThreatModel.Proofs.Analysis.Grouping
import ThreatModel.Proofs.Analysis.Index
import ThreatModel.Proofs.Analysis.Order
import ThreatModel.Proofs.Analysis.Shown
import ThreatModel.Proofs.CallGraph.Edits
import ThreatModel.Proofs.CallGraph.Grouping
import ThreatModel.Proofs.CallGraph.Lines
import ThreatModel.Proofs.CallGraph.Names
import ThreatModel.Proofs.CallGraph.RoundTrip
import ThreatModel.Proofs.CallGraph.Shape
import ThreatModel.Proofs.Command.Delivery
import ThreatModel.Proofs.Command.Loading
import ThreatModel.Proofs.Command.Options
import ThreatModel.Proofs.Command.Outputs
import ThreatModel.Proofs.Command.Routes
import ThreatModel.Proofs.Command.Verbosity
import ThreatModel.Proofs.Diagram.Agreement
import ThreatModel.Proofs.Diagram.DotLabels
import ThreatModel.Proofs.Diagram.DotStatements
import ThreatModel.Proofs.Diagram.DotTokens
import ThreatModel.Proofs.Diagram.Drawing
import ThreatModel.Proofs.Diagram.Drawn
import ThreatModel.Proofs.Diagram.EdgeLabels
import ThreatModel.Proofs.Diagram.Edges
import ThreatModel.Proofs.Diagram.Extension
import ThreatModel.Proofs.Diagram.Growth
import ThreatModel.Proofs.Diagram.Identifiers
import ThreatModel.Proofs.Diagram.Identity
import ThreatModel.Proofs.Diagram.Labels
import ThreatModel.Proofs.Diagram.Members
import ThreatModel.Proofs.Diagram.MermaidLines
import ThreatModel.Proofs.Diagram.MermaidText
import ThreatModel.Proofs.Diagram.Nodes
import ThreatModel.Proofs.Diagram.Order
import ThreatModel.Proofs.Diagram.Outline
import ThreatModel.Proofs.Diagram.WellFormed
import ThreatModel.Proofs.Entry.Grammar
import ThreatModel.Proofs.Entry.Header
import ThreatModel.Proofs.Entry.Kinds
import ThreatModel.Proofs.Entry.Layout
import ThreatModel.Proofs.Entry.Printer
import ThreatModel.Proofs.Entry.Reference
import ThreatModel.Proofs.Entry.Shape
import ThreatModel.Proofs.Entry.Signature
import ThreatModel.Proofs.Files.Written
import ThreatModel.Proofs.Interaction.Edges
import ThreatModel.Proofs.Interaction.Order
import ThreatModel.Proofs.Interaction.Tallies
import ThreatModel.Proofs.Ledger.Accounts
import ThreatModel.Proofs.Ledger.Counters
import ThreatModel.Proofs.Ledger.Headers
import ThreatModel.Proofs.Ledger.Interleaving
import ThreatModel.Proofs.Ledger.LineEnds
import ThreatModel.Proofs.Ledger.Lines
import ThreatModel.Proofs.Ledger.Listing
import ThreatModel.Proofs.Ledger.Named
import ThreatModel.Proofs.Ledger.Names
import ThreatModel.Proofs.Ledger.Notices
import ThreatModel.Proofs.Ledger.OneLine
import ThreatModel.Proofs.Ledger.Owners
import ThreatModel.Proofs.Ledger.Reading
import ThreatModel.Proofs.Ledger.RoundTrip
import ThreatModel.Proofs.Ledger.Segments
import ThreatModel.Proofs.Ledger.Shown
import ThreatModel.Proofs.Ledger.Silent
import ThreatModel.Proofs.Ledger.Sources
import ThreatModel.Proofs.Numeric.Marks
import ThreatModel.Proofs.OrderedMap.Collect
import ThreatModel.Proofs.OrderedMap.Growth
import ThreatModel.Proofs.OrderedMap.Rows
import ThreatModel.Proofs.OrderedMap.Sums
import ThreatModel.Proofs.Report.Findings
import ThreatModel.Proofs.Report.Lines
import ThreatModel.Proofs.Report.Markdown
import ThreatModel.Proofs.Report.Tags
import ThreatModel.Proofs.Settings.Validation
import ThreatModel.Proofs.Text.LineEnds
import ThreatModel.Proofs.Text.Lines
import ThreatModel.Proofs.Text.Marks
import ThreatModel.Proofs.Text.Markup
import ThreatModel.Proofs.Text.Parentheses
import ThreatModel.Proofs.Text.Pieces
import ThreatModel.Proofs.Text.Tags
import ThreatModel.Report.Format
import ThreatModel.Report.Output
import ThreatModel.Settings.Load
import ThreatModel.Yaml.Read
