import Bindwright.Text.Case
import Bindwright.Text.Affix
import Bindwright.Text.Quoted
import Bindwright.Text.Identifier
import Bindwright.Naming.Native
import Bindwright.Declaration.Token
import Bindwright.Declaration.Snippet
import Bindwright.Diagnostic
import Bindwright.Binding.Member
import Bindwright.Registry.Header
import Bindwright.Member.Classified
import Bindwright.Emit.ImportTable
import Bindwright.Emit.Code
import Bindwright.Emit.MemberCode
import Bindwright.Emit.ConstantsFile
import Bindwright.Emit.StructureFile
import Bindwright.Emit.Index
import Bindwright.Run.Population
import Bindwright.Run.Rendering
import Bindwright.Source.NativeBindings
import Bindwright.Source.Existing
import Bindwright.Source.Mapped
import Bindwright.Run.Generation
import Bindwright.Memory.Fault
import Bindwright.Memory.Scalar
import Bindwright.Memory.Arena
import Bindwright.Memory.Segment
import Bindwright.Memory.Enumeration
import Bindwright.Memory.Chain
import Bindwright.Memory.Record
import Bindwright.Vulkan.Enumerations
import Bindwright.Vulkan.Geometry
import Bindwright.Vulkan.Device
import Bindwright.Vulkan.Chained
import Bindwright.Vulkan.Extension
import Bindwright.Vulkan.Catalogue
import Bindwright.Text.Character
import Bindwright.Proofs.Memory.Footprint
import Bindwright.Proofs.Traversal
import Bindwright.Proofs.Chain.Walk
import Bindwright.Proofs.Chain.Linking
import Bindwright.Proofs.Table
import Bindwright.Proofs.Registry.Change
import Bindwright.Proofs.Registry.Run
import Bindwright.Proofs.Registry.Rejection
import Bindwright.Proofs.Registry.Alike
import Bindwright.Proofs.Registry.Grouping
import Bindwright.Proofs.Registry.Fates
import Bindwright.Proofs.Registry.Conflicts
import Bindwright.Proofs.Member.Redirection
import Bindwright.Proofs.Registry.Founded
import Bindwright.Proofs.Run.Population
import Bindwright.Proofs.Run.Entries
import Bindwright.Proofs.Run.Destinations
import Bindwright.Proofs.Member.FieldName
import Bindwright.Proofs.Member.Classification
import Bindwright.Proofs.Emit.Calls
import Bindwright.Proofs.Emit.Fields
import Bindwright.Proofs.Run.Exports
import Bindwright.Proofs.Files.Path
import Bindwright.Proofs.Naming.Casing
import Bindwright.Proofs.Run.Outputs
import Bindwright.Proofs.Run.Outcome
import Bindwright.Proofs.Run.References
import Bindwright.Proofs.Emit.Imports
import Bindwright.Proofs.Emit.Prelude
import Bindwright.Proofs.Naming.Legality
import Bindwright.Proofs.Run.Identifiers
import Bindwright.Proofs.Memory.Slot
import Bindwright.Proofs.Memory.Elements
import Bindwright.Proofs.Memory.Record
import Bindwright.Proofs.Vulkan.Plain
import Bindwright.Proofs.Chain.Items
import Bindwright.Proofs.Chain.Part
import Bindwright.Proofs.Vulkan.Chained
import Bindwright.Proofs.Vulkan.Linked
import Bindwright.Proofs.Vulkan.RoundTrip
import Bindwright.Proofs.Vulkan.Rewriting
import Bindwright.Proofs.Vulkan.Refusal
import Bindwright.Proofs.Declaration.Declarators
import Bindwright.Proofs.Declaration.Scanning
import Bindwright.Proofs.Declaration.Bodies
import Bindwright.Proofs.Declaration.Printing
import Bindwright.Proofs.Sorting
import Bindwright.Proofs.Declaration.Locality
import Bindwright.Proofs.Declaration.Sequence
import Bindwright.Proofs.Declaration.Positions
import Bindwright.Proofs.Run.Accounts
import Bindwright.Proofs.Emit.Resolution
import Bindwright.Proofs.Emit.UseBlock
import Bindwright.Proofs.Member.Correspondence
import Bindwright.Proofs.Member.DecisionTable
import Bindwright.Proofs.Text.Position
import Bindwright.Proofs.Declaration.Extraction
import Bindwright.Proofs.Declaration.Cutting
import Bindwright.Proofs.Member.Accessors
import Bindwright.Proofs.Registry.Overrides
import Bindwright.Proofs.Memory.Arrays
import Bindwright.Proofs.Memory.Windows
import Bindwright.Proofs.Memory.Operations
import Bindwright.Proofs.Memory.Flags
import Bindwright.Proofs.Memory.Buffers
import Bindwright.Proofs.Text.Case
import Bindwright.Proofs.Naming.Constants
import Bindwright.Proofs.Memory.Structures
import Bindwright.Proofs.Text.Pieces
import Bindwright.Proofs.Naming.Cardinals
import Bindwright.Proofs.Naming.NumberNames
import Bindwright.Proofs.Naming.Separators
import Bindwright.Proofs.Source.PathText
import Bindwright.Proofs.Source.Imports
import Bindwright.Proofs.Source.Declarations
import Bindwright.Proofs.Source.Documentation
import Bindwright.Proofs.Source.Meaning
import Bindwright.Proofs.Source.Accessors
