import ModelTagging.Proofs.Command.Grammar
import ModelTagging.Proofs.Command.Rejected
import ModelTagging.Proofs.Model.Slots
import ModelTagging.Proofs.Registry.Documents
import ModelTagging.Proofs.Registry.Extension
import ModelTagging.Proofs.Registry.OneByOne
import ModelTagging.Proofs.Registry.TypeNames
import ModelTagging.Proofs.Session.Decoration
import ModelTagging.Proofs.Session.Handlers
import ModelTagging.Proofs.Session.Spans
import ModelTagging.Proofs.Tagging.Composition
import ModelTagging.Proofs.Tagging.Conservation
import ModelTagging.Proofs.Tagging.Dangling
import ModelTagging.Proofs.Tagging.Enumeration
import ModelTagging.Proofs.Tagging.Exported
import ModelTagging.Proofs.Tagging.Frame
import ModelTagging.Proofs.Tagging.Interchange
import ModelTagging.Proofs.Tagging.Named
import ModelTagging.Proofs.Tagging.Outcome
import ModelTagging.Proofs.Tagging.References
import ModelTagging.Proofs.Tagging.Reorder
import ModelTagging.Proofs.Tagging.Repeat
import ModelTagging.Proofs.Tagging.Settled
import ModelTagging.Proofs.Tagging.Sources
import ModelTagging.Session.Program
import ModelTagging.Settings.Lookup
