import ProtocolTypes.CommandLine.Run
import ProtocolTypes.Files.Tree
import ProtocolTypes.Main
import ProtocolTypes.Proofs.Target.Containment
import ProtocolTypes.Proofs.Target.Boxing
import ProtocolTypes.Proofs.Text.ByteOrder
import ProtocolTypes.Proofs.Target.Shape
import ProtocolTypes.Proofs.Mapping.Registry
import ProtocolTypes.Proofs.Mapping.Simulation
import ProtocolTypes.Proofs.Model.Declared
import ProtocolTypes.Proofs.Mapping.Parts
import ProtocolTypes.Proofs.Mapping.Translation
import ProtocolTypes.Proofs.Mapping.Declarations
import ProtocolTypes.Proofs.Mapping.Output
import ProtocolTypes.Proofs.Mapping.SymbolTable
import ProtocolTypes.Proofs.Mapping.Flattening
import ProtocolTypes.Proofs.Mapping.Success
import ProtocolTypes.Proofs.Mapping.Meaning
import ProtocolTypes.Proofs.Mapping.Replay
import ProtocolTypes.Proofs.Mapping.Documentation
import ProtocolTypes.Proofs.Mapping.Reordering
import ProtocolTypes.Proofs.Model.Lineage
import ProtocolTypes.Proofs.Mapping.Remapping
import ProtocolTypes.Proofs.Mapping.Registration
import ProtocolTypes.Proofs.Mapping.Keeping
import ProtocolTypes.Proofs.Mapping.Origin
import ProtocolTypes.Proofs.Target.Optional
import ProtocolTypes.Proofs.Mapping.Optionality
import ProtocolTypes.Proofs.Identifier.Casing
import ProtocolTypes.Proofs.Identifier.Spelling
import ProtocolTypes.Proofs.Mapping.AsciiNames
import ProtocolTypes.Proofs.Source.MemberNames
import ProtocolTypes.Proofs.Source.TypeNames
import ProtocolTypes.Proofs.Target.Gather
import ProtocolTypes.Proofs.Target.Mention
import ProtocolTypes.Proofs.Mapping.Gathering
import ProtocolTypes.Proofs.Mapping.Rooting
import ProtocolTypes.Proofs.Mapping.Defects
import ProtocolTypes.Proofs.Mapping.Constants
import ProtocolTypes.Proofs.Mapping.Synonyms
import ProtocolTypes.Proofs.Model.Annotations
import ProtocolTypes.Proofs.Mapping.Congruence
import ProtocolTypes.Proofs.Mapping.Shadowing
import ProtocolTypes.Proofs.Decoding.Variation
import ProtocolTypes.Proofs.Decoding.RoundTrip
import ProtocolTypes.Proofs.Decoding.KindTags
import ProtocolTypes.Proofs.Source.Header
import ProtocolTypes.Proofs.Files.Changes
import ProtocolTypes.Proofs.CommandLine.Effects
import ProtocolTypes.Proofs.Binary64.Finite
import ProtocolTypes.Proofs.Json.FiniteNumbers
import ProtocolTypes.Proofs.Decoding.FiniteNumbers
import ProtocolTypes.Proofs.Source.Rendering
import ProtocolTypes.Proofs.Mapping.WrittenNames
import ProtocolTypes.Proofs.Generation
import ProtocolTypes.Proofs.Target.Arrangement
import ProtocolTypes.Proofs.Target.DistinctMembers
import ProtocolTypes.Proofs.Binary64.Truncation
import ProtocolTypes.Proofs.Mapping.IntegerConstants
import ProtocolTypes.Proofs.Mapping.VariantNames
import ProtocolTypes.Proofs.Identifier.SnakeCase
import ProtocolTypes.Proofs.Target.Limits
import ProtocolTypes.Proofs.Mapping.Limits
import ProtocolTypes.Proofs.Source.ValueNotes
