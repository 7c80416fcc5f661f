import Blueprint.Main
import Blueprint.Proofs.Schema.Circles
import Blueprint.Proofs.Schema.Extension
import Blueprint.Proofs.Schema.Freezing
import Blueprint.Proofs.Document.Content
import Blueprint.Proofs.Document.Contribution
import Blueprint.Proofs.Document.Merging
import Blueprint.Proofs.Document.Traversal
import Blueprint.Proofs.Instance.Building
import Blueprint.Proofs.Instance.Conformance
import Blueprint.Proofs.Schema.Activation
import Blueprint.Proofs.Instance.Obligations
import Blueprint.Proofs.Plan.Emission
import Blueprint.Proofs.Schema.Links
import Blueprint.Proofs.Plan.References
import Blueprint.Proofs.Document.Collecting
import Blueprint.Proofs.Document.MainName
import Blueprint.Proofs.Files.Opening
import Blueprint.Proofs.Files.Location
import Blueprint.Proofs.Plan.Reparsing
import Blueprint.Proofs.Schema.OptionalField
import Blueprint.Proofs.Plan.OptionalField
import Blueprint.Proofs.Schema.Content
import Blueprint.Proofs.Schema.Effect
import Blueprint.Proofs.Schema.Replay
import Blueprint.Proofs.Schema.Independence
import Blueprint.Proofs.Schema.Session
import Blueprint.Proofs.Instance.Shapes
import Blueprint.Proofs.Schema.Rules
import Blueprint.Proofs.Plan.Rules
import Blueprint.Proofs.Document.Regrouping
import Blueprint.Proofs.Document.Reordering
import Blueprint.Proofs.Schema.Records
import Blueprint.Proofs.Schema.Traces
import Blueprint.Proofs.Schema.Reloading
import Blueprint.Proofs.Placement.Derivation
import Blueprint.Proofs.Text.Split
import Blueprint.Proofs.Instance.Faults
import Blueprint.Proofs.Placement.Assembly
import Blueprint.Proofs.Placement.Hosts
import Blueprint.Proofs.Placement.Installation
import Blueprint.Proofs.Placement.Plugins
import Blueprint.Proofs.Plan.Sections
import Blueprint.Proofs.Instance.FirstFailure
import Blueprint.Proofs.Instance.Surroundings
import Blueprint.Proofs.Document.Blame
import Blueprint.Proofs.Instance.Fragments
import Blueprint.Proofs.Instance.Unrolling
import Blueprint.Proofs.Instance.Termination
import Blueprint.Proofs.Instance.Offences
import Blueprint.Proofs.Plan.Digest
import Blueprint.Proofs.Schema.Stacking
import Blueprint.Proofs.Placement.Ancestry
import Blueprint.Proofs.Plan.LookUps
import Blueprint.Proofs.Decimal.Rounding
import Blueprint.Proofs.Decimal.Reading
import Blueprint.Proofs.Plan.CanonicalText
import Blueprint.Proofs.Files.Ordering
import Blueprint.Proofs.Schema.Defaults
