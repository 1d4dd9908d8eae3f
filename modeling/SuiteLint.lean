import SuiteLint.Analysis.Sources
import SuiteLint.Decimal.Shortest
import SuiteLint.Main
import SuiteLint.Walk.Script
import SuiteLint.Proofs.Tree.Height
import SuiteLint.Proofs.Tree.Unlimited
import SuiteLint.Proofs.Tree.NestingLimit
import SuiteLint.Proofs.Tree.Compositional
import SuiteLint.Proofs.Walk.Balance
import SuiteLint.Proofs.Walk.Effect
import SuiteLint.Proofs.Walk.ScopeHistory
import SuiteLint.Proofs.Walk.Contribution
import SuiteLint.Proofs.Tree.Preorder
import SuiteLint.Proofs.Rule.SuiteBody
import SuiteLint.Proofs.Walk.Isolation
import SuiteLint.Proofs.Rule.Siblings
import SuiteLint.Proofs.Walk.Traversal
import SuiteLint.Proofs.Rule.Statelessness
import SuiteLint.Proofs.Tree.Admission
import SuiteLint.Proofs.Rule.Loosening
import SuiteLint.Proofs.Path.Place
import SuiteLint.Proofs.Disk.Lookup
import SuiteLint.Proofs.Config.Lookup
import SuiteLint.Proofs.Outcome.Success
import SuiteLint.Proofs.Path.Order
import SuiteLint.Proofs.Report.Order
import SuiteLint.Proofs.Rule.Located
import SuiteLint.Proofs.Analysis.Files
import SuiteLint.Proofs.Analysis.FileOrder
import SuiteLint.Proofs.Analysis.Discovered
import SuiteLint.Proofs.Cli.Location
import SuiteLint.Proofs.Text.Pieces
import SuiteLint.Proofs.Source.Directive
import SuiteLint.Proofs.Report.Suppression
import SuiteLint.Proofs.Tree.SettingsFilter
import SuiteLint.Proofs.Analysis.SeverityOverride
import SuiteLint.Proofs.Tree.Nesting
import SuiteLint.Proofs.Tree.SourceOrder
import SuiteLint.Proofs.Rule.SourceOrder
import SuiteLint.Proofs.Glob.Matching
import SuiteLint.Proofs.Glob.Reading
import SuiteLint.Proofs.Glob.Boundary
import SuiteLint.Proofs.Analysis.Exclusion
import SuiteLint.Proofs.Text.Position
import SuiteLint.Proofs.Report.Reason
import SuiteLint.Proofs.Text.Fragment
import SuiteLint.Proofs.Report.Compact
import SuiteLint.Proofs.Rule.Selection
import SuiteLint.Proofs.Source.LineNumber
import SuiteLint.Proofs.Disk.Descent
import SuiteLint.Proofs.Rule.Options
import SuiteLint.Proofs.Glob.SourcePattern
import SuiteLint.Proofs.Analysis.Sources
