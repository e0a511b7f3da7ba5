import ExtensionAudit.Main
import ExtensionAudit.Proofs.Audit
import ExtensionAudit.Proofs.Comments
import ExtensionAudit.Proofs.Grouped
import ExtensionAudit.Proofs.Interference
import ExtensionAudit.Proofs.Json.RoundTrip
import ExtensionAudit.Proofs.Layout
import ExtensionAudit.Proofs.Lifecycle.Faults
import ExtensionAudit.Proofs.Lifecycle.Timeouts
import ExtensionAudit.Proofs.Lifecycle.Widgets
import ExtensionAudit.Proofs.Manifest.Entries
import ExtensionAudit.Proofs.Manifest.Faults
import ExtensionAudit.Proofs.Manifest.Majors
import ExtensionAudit.Proofs.Packaging
import ExtensionAudit.Proofs.Places
import ExtensionAudit.Proofs.Protocol
import ExtensionAudit.Proofs.Quality.Constructor
import ExtensionAudit.Proofs.Quality.Handlers
import ExtensionAudit.Proofs.Reach
import ExtensionAudit.Proofs.Report
import ExtensionAudit.Proofs.Resource.Account
import ExtensionAudit.Proofs.Resource.Cleanup
import ExtensionAudit.Proofs.Resource.Depth
import ExtensionAudit.Proofs.Resource.Masking
import ExtensionAudit.Proofs.Resource.Orphan
import ExtensionAudit.Proofs.Resource.Ownership
import ExtensionAudit.Proofs.Resource.Reported
import ExtensionAudit.Proofs.Rule.Blocks
import ExtensionAudit.Proofs.Rule.Gathered
import ExtensionAudit.Proofs.Rule.Layout
import ExtensionAudit.Proofs.Rule.Placement
import ExtensionAudit.Proofs.Rule.Range
import ExtensionAudit.Proofs.Rule.RoundTrip
import ExtensionAudit.Proofs.Rule.Scripts
import ExtensionAudit.Proofs.Rule.Validated
import ExtensionAudit.Proofs.Schemas
import ExtensionAudit.Proofs.Segregation
import ExtensionAudit.Proofs.Source.Closing
import ExtensionAudit.Proofs.Source.Imports
import ExtensionAudit.Proofs.Source.Pieces
import ExtensionAudit.Proofs.Source.Scope
import ExtensionAudit.Proofs.Source.TopLevel
import ExtensionAudit.Proofs.Suggestion
import ExtensionAudit.Proofs.Suppression
import ExtensionAudit.Proofs.Table
import ExtensionAudit.Proofs.Verdict.Families
import ExtensionAudit.Proofs.Volume
import ExtensionAudit.Proofs.Volume.Alone
import ExtensionAudit.Proofs.Volume.Down
import ExtensionAudit.Proofs.Volume.Walk
import ExtensionAudit.Proofs.Waiting
