import LateBinding.Bytes.Reader
import LateBinding.Bytes.Word
import LateBinding.Calling.Call
import LateBinding.Calling.Dispatch
import LateBinding.Calling.Error
import LateBinding.Calling.Machine
import LateBinding.CommandLine.Arguments
import LateBinding.CommandLine.Execution
import LateBinding.CommandLine.Invocation
import LateBinding.CommandLine.Options
import LateBinding.Decimal.Binary64
import LateBinding.Decimal.Notation
import LateBinding.Decimal.Reader
import LateBinding.Decimal.Shortest
import LateBinding.Descriptor.Basic
import LateBinding.Descriptor.Constructor
import LateBinding.Descriptor.Error
import LateBinding.Descriptor.Name
import LateBinding.Engine
import LateBinding.Json.Basic
import LateBinding.Json.Printer
import LateBinding.Json.Reader
import LateBinding.Loading.Error
import LateBinding.Loading.LoadedType
import LateBinding.Loading.MethodTable
import LateBinding.Loading.World
import LateBinding.Lowering
import LateBinding.Main
import LateBinding.Module.Container
import LateBinding.Module.Directory
import LateBinding.Module.Error
import LateBinding.Module.Header
import LateBinding.Module.Image
import LateBinding.Module.Instruction
import LateBinding.Module.StringPool
import LateBinding.Module.Summary
import LateBinding.Report
import LateBinding.Sample
import LateBinding.Settings.Basic
import LateBinding.Settings.Overrides
import LateBinding.Settings.Printer
import LateBinding.Settings.Reader
import LateBinding.Snippet.Basic
import LateBinding.Snippet.Parser
import LateBinding.Snippet.Statement
import LateBinding.Snippet.Token
import LateBinding.Storage.Disk
import LateBinding.Storage.Error
import LateBinding.Storage.Files
import LateBinding.Storage.Memory
import LateBinding.Storage.Path
import LateBinding.Storage.Store
import LateBinding.Text.Alphabetic
import LateBinding.Text.CodePoints
import LateBinding.Text.Escaped
import LateBinding.Text.Hexadecimal
import LateBinding.Text.Identifier
import LateBinding.Text.Numeric
import LateBinding.Text.Quoted
import LateBinding.Text.Split
import LateBinding.Text.WhiteSpace
import LateBinding.Value.Argument
import LateBinding.Value.Basic
import LateBinding.Value.Field
import LateBinding.Value.Type
import LateBinding.Value.Visibility
import LateBinding.Proofs.Bytes.Reading
import LateBinding.Proofs.Bytes.Text
import LateBinding.Proofs.Module.StringPool
import LateBinding.Proofs.Module.Code
import LateBinding.Proofs.Module.Container
import LateBinding.Proofs.Module.Pooled
import LateBinding.Proofs.Module.Tables
import LateBinding.Proofs.Module.Verification
import LateBinding.Proofs.Module.ClosedImage
import LateBinding.Proofs.Module.Decoded
import LateBinding.Proofs.Module.RoundTrip
import LateBinding.Proofs.Calling.Dispatch
import LateBinding.Proofs.Calling.Machine
import LateBinding.Proofs.Calling.Call
import LateBinding.Proofs.Calling.Safety
import LateBinding.Proofs.Descriptor.Interpretation
import LateBinding.Proofs.Lowering.Code
import LateBinding.Proofs.Lowering.Execution
import LateBinding.Proofs.Descriptor.Steps
import LateBinding.Proofs.Lowering.Image
import LateBinding.Proofs.Loading.FirstLoad
import LateBinding.Proofs.Lookup
import LateBinding.Proofs.Storage.Contract
import LateBinding.Proofs.Storage.Memory
import LateBinding.Proofs.Storage.Atomicity
import LateBinding.Proofs.Pipeline
import LateBinding.Proofs.Lowering.Typing
import LateBinding.Proofs.TypeSoundness
import LateBinding.Proofs.Calling.Values
import LateBinding.Proofs.Loading.Load
import LateBinding.Proofs.Client.Basic
import LateBinding.Proofs.Client.Isolation
import LateBinding.Proofs.Client.LifeCycle
import LateBinding.Proofs.Calling.Mirroring
import LateBinding.Proofs.Client.NonInterference
import LateBinding.Proofs.Descriptor.Repetition
import LateBinding.Proofs.RepeatedCalls
import LateBinding.Proofs.Storage.Paths
import LateBinding.Proofs.Storage.LastWrite
import LateBinding.Proofs.Descriptor.InPlace
import LateBinding.Proofs.Descriptor.Coherence
import LateBinding.Proofs.Storage.Separation
import LateBinding.Proofs.Calling.Overloads
import LateBinding.Proofs.Descriptor.ConstructorCheck
import LateBinding.Proofs.Construction
import LateBinding.Proofs.Bytes.Access
import LateBinding.Proofs.Module.StoredPool
import LateBinding.Proofs.Module.ContainerAccess
import LateBinding.Proofs.Module.CodeAccess
import LateBinding.Proofs.Module.ImageAccess
import LateBinding.Proofs.Lowering.Acceptance
import LateBinding.Proofs.Text.Characters
import LateBinding.Proofs.Snippet.Grammar
import LateBinding.Proofs.Snippet.Spelling
import LateBinding.Proofs.Snippet.Writing
import LateBinding.Proofs.Module.ContainerWriting
import LateBinding.Proofs.Bytes.Consumption
import LateBinding.Proofs.Module.PoolLayout
import LateBinding.Proofs.Client.OneGoCalls
import LateBinding.Proofs.SettledFields
import LateBinding.Proofs.Snippet.FieldNames
import LateBinding.Proofs.Storage.Listing
import LateBinding.Proofs.Loading.Inspection
import LateBinding.Proofs.Value.Argument
import LateBinding.Proofs.CommandLine.Run
import LateBinding.Proofs.Settings.Quiet
import LateBinding.Proofs.Loading.MethodSearch
import LateBinding.Proofs.Module.PoolIndices
import LateBinding.Proofs.Text.Slices
import LateBinding.Proofs.Snippet.Relocation
import LateBinding.Proofs.Snippet.ReportedPiece
