import RowAccess.Diagnostics
import RowAccess.Record.Decisions
import RowAccess.Record.Moments
import RowAccess.Record.Settings
import RowAccess.Resolver
import RowAccess.Rules.Field
import RowAccess.Rules.Situation
import RowAccess.Scope
import RowAccess.Settings.Layers
import RowAccess.Settings.Location
import RowAccess.Value.Reader
import RowAccess.Proofs.Ranking
import RowAccess.Proofs.Registration
import RowAccess.Proofs.Decisions
import RowAccess.Proofs.Filters
import RowAccess.Proofs.Reads
import RowAccess.Proofs.Revision
import RowAccess.Proofs.Outages
import RowAccess.Proofs.Validation
import RowAccess.Proofs.FailClosed
import RowAccess.Proofs.Writes
import RowAccess.Proofs.Identifiers
import RowAccess.Proofs.Queries
import RowAccess.Proofs.Clauses
import RowAccess.Proofs.Rendering
import RowAccess.Proofs.Qualification
import RowAccess.Proofs.Guards
import RowAccess.Proofs.Irrelevance
import RowAccess.Proofs.Crashes
import RowAccess.Proofs.Containment
import RowAccess.Proofs.Refusals
import RowAccess.Proofs.Reordering
import RowAccess.Proofs.Insertion
import RowAccess.Proofs.AuditTrail
import RowAccess.Proofs.Bypass
import RowAccess.Proofs.Relabelling
import RowAccess.Proofs.Columns
import RowAccess.Proofs.HiddenColumns
import RowAccess.Proofs.Intake
import RowAccess.Proofs.RegistryRuns
import RowAccess.Proofs.Loading
import RowAccess.Proofs.FieldRegistration
import RowAccess.Proofs.Construction
import RowAccess.Proofs.Nesting
import RowAccess.Proofs.ResolverRuns
import RowAccess.Proofs.Decimals
import RowAccess.Proofs.Conversion
import RowAccess.Proofs.Merging
import RowAccess.Proofs.Variables
import RowAccess.Proofs.Layering
import RowAccess.Proofs.Parameters
import RowAccess.Proofs.MergeOrder
import RowAccess.Proofs.Documents
import RowAccess.Proofs.Literals
import RowAccess.Proofs.FloatLiterals
import RowAccess.Proofs.DocumentTexts
import RowAccess.Proofs.RuleTexts
import RowAccess.Proofs.Traces
import RowAccess.Proofs.SingleRuns
import RowAccess.Proofs.Restrictions
import RowAccess.Proofs.Appending
import RowAccess.Proofs.Numbering
import RowAccess.Proofs.Recovery
import RowAccess.Proofs.Settable
import RowAccess.Proofs.KeptColumns
import RowAccess.Proofs.Redaction
import RowAccess.Proofs.Disclosure
import RowAccess.Proofs.Remasking
import RowAccess.Proofs.Fingerprints
import RowAccess.Proofs.Injections
import RowAccess.Proofs.FieldRegistryRuns
import RowAccess.Proofs.NumericIds
