import SchemaBridge.Proofs.Scanning
import SchemaBridge.Schema.Document
import SchemaBridge.Validation.Registry
import SchemaBridge.Proofs.Comments
import SchemaBridge.Proofs.Stubs
import SchemaBridge.Proofs.References
import SchemaBridge.Proofs.Reports
import SchemaBridge.Proofs.Evaluation
import SchemaBridge.Proofs.Meaning
import SchemaBridge.Proofs.Transformation
import SchemaBridge.Proofs.Definitions
import SchemaBridge.Proofs.Unions
import SchemaBridge.Proofs.Conformance
import SchemaBridge.Proofs.Decisions
import SchemaBridge.Proofs.Correctness
import SchemaBridge.Proofs.Histories
import SchemaBridge.Proofs.Envelope
import SchemaBridge.Proofs.Totality
import SchemaBridge.Proofs.Completion
import SchemaBridge.Proofs.Parsing
import SchemaBridge.Proofs.Emission
import SchemaBridge.Proofs.Leads
import SchemaBridge.Proofs.Interruption
import SchemaBridge.Proofs.Steadiness
import SchemaBridge.Proofs.Strictness
import SchemaBridge.Proofs.Extension
import SchemaBridge.Proofs.Roots
import SchemaBridge.Proofs.Refinement
import SchemaBridge.Proofs.Narrowing
import SchemaBridge.Proofs.Occurrences
import SchemaBridge.Proofs.Emptiness
import SchemaBridge.Proofs.Contents
import SchemaBridge.Proofs.PlainData
import SchemaBridge.Proofs.Closure
import SchemaBridge.Proofs.Reachability
import SchemaBridge.Proofs.Requirements
import SchemaBridge.Proofs.TextArguments
import SchemaBridge.Proofs.Rearrangement
import SchemaBridge.Proofs.Additions
import SchemaBridge.Proofs.TypeSchemas
import SchemaBridge.Proofs.Halves
import SchemaBridge.Proofs.Bounds
import SchemaBridge.Proofs.DecimalText
import SchemaBridge.Proofs.Addresses
import SchemaBridge.Proofs.HostNames
import SchemaBridge.Proofs.Overlaps
import SchemaBridge.Proofs.FirstViolations
import SchemaBridge.Proofs.Repeats
