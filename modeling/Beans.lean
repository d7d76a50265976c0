import Beans.Declaration.Schema
import Beans.Gallery.Names
import Beans.Hash.Through
import Beans.Manifest
import Beans.Operations.Copy
import Beans.Operations.Equality
import Beans.Operations.Query
import Beans.Proofs.Acceptance
import Beans.Proofs.Binding
import Beans.Proofs.BuilderTyping
import Beans.Proofs.Cells
import Beans.Proofs.Coherence
import Beans.Proofs.DeclaredAccess
import Beans.Proofs.DeclaredDescriptor
import Beans.Proofs.DeclaredSchema
import Beans.Proofs.Descriptor
import Beans.Proofs.Indistinguishable
import Beans.Proofs.Layout
import Beans.Proofs.Run
import Beans.Proofs.Stateful
import Beans.Row
import Beans.Serialization.Json
import Beans.Value.View
import Beans.Proofs.Lens
import Beans.Proofs.Assembly
import Beans.Proofs.DeclaredBuilder
import Beans.Proofs.Required
import Beans.Proofs.BuildRead
import Beans.Proofs.Describable
import Beans.Proofs.Entries
import Beans.Proofs.Copy
import Beans.Proofs.Assignments
import Beans.Proofs.Handles
import Beans.Proofs.Routes
import Beans.Proofs.Parts
import Beans.Proofs.Scalars
import Beans.Proofs.Collections
import Beans.Proofs.ValueEquality
import Beans.Proofs.Histories
import Beans.Proofs.ValueOrder
import Beans.Proofs.Readers
import Beans.Proofs.BeanEquality
import Beans.Proofs.Members
import Beans.Proofs.ReadTypes
import Beans.Proofs.Agreement
import Beans.Proofs.Validity
import Beans.Proofs.OptionLayers
import Beans.Proofs.Comparisons
import Beans.Proofs.Documents
import Beans.Proofs.Emission
import Beans.Proofs.AcceptedLayers
import Beans.Proofs.Paths
import Beans.Proofs.Constructors
import Beans.Proofs.DeclaredNames
import Beans.Proofs.Queries
import Beans.Proofs.IgnoredProperties
import Beans.Proofs.Texts
import Beans.Proofs.Inheritance
import Beans.Proofs.ByteRuns
import Beans.Proofs.Extraction
import Beans.Proofs.Regrouping
import Beans.Proofs.PackagePaths
