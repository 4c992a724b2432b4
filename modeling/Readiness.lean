import Readiness.Main
import Readiness.Proofs.Analysis.Growth
import Readiness.Proofs.Analysis.Modes
import Readiness.Proofs.Analysis.Noninterference
import Readiness.Proofs.Analysis.SafeRules
import Readiness.Proofs.Command.Outcome
import Readiness.Proofs.Dependency.Allowlist
import Readiness.Proofs.Dependency.Append
import Readiness.Proofs.Inventory.Exclusion
import Readiness.Proofs.Report.Colour
import Readiness.Proofs.Report.RoundTrip
import Readiness.Proofs.ReservedPath.Segments
import Readiness.Proofs.Rule.Blocking
import Readiness.Proofs.Rule.Literal
import Readiness.Proofs.Rule.WordEdge
import Readiness.Proofs.Settings.Folder
import Readiness.Proofs.Settings.Search
import Readiness.Proofs.Text.Lines
