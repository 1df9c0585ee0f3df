import Introspection.Metadata.Builder
import Introspection.Emission.Build
import Introspection.Emission.Session
import Introspection.Main
import Introspection.Proofs.Json.Reading
import Introspection.Proofs.Metadata.Meaning
import Introspection.Proofs.Recovery.Description
import Introspection.Proofs.Recovery.Unfolding
import Introspection.Proofs.Stub.CallingConvention
import Introspection.Proofs.Recovery.Loading
import Introspection.Proofs.Emission.Runs
import Introspection.Proofs.Declaration.Tree
import Introspection.Proofs.Declaration.Loading
import Introspection.Proofs.Emission.Description
import Introspection.Proofs.RoundTrip
import Introspection.Proofs.Recovery.Coverage
import Introspection.Proofs.Api.Tree
import Introspection.Proofs.Path.Parts
import Introspection.Proofs.Stub.Layout
import Introspection.Proofs.Disk.Frame
import Introspection.Proofs.Stub.Confinement
import Introspection.Proofs.Metadata.Characters
import Introspection.Proofs.Text.Lines
import Introspection.Proofs.Metadata.Operands
import Introspection.Proofs.Emission.Source
import Introspection.Proofs.Emission.Scope
import Introspection.Proofs.Json.Grammar
import Introspection.Proofs.Json.Exactness
import Introspection.Proofs.Recovery.Documents
import Introspection.Proofs.Recovery.Order
import Introspection.Proofs.Metadata.Building
import Introspection.Proofs.Json.Literal
import Introspection.Proofs.Metadata.Expression
import Introspection.Proofs.Emission.Sessions
import Introspection.Proofs.Emission.ClosedForm
import Introspection.Proofs.Emission.Outcome
import Introspection.Proofs.Recovery.Signatures
import Introspection.Proofs.Datum
import Introspection.Proofs.Identity.Inputs
import Introspection.Proofs.Emission.Parameters
import Introspection.Proofs.Recovery.Duplicates
import Introspection.Proofs.Metadata.Places
import Introspection.Proofs.Api.KindLanguage
import Introspection.Proofs.Stub.Markers
import Introspection.Proofs.Rust.Types
import Introspection.Proofs.Rust.Erasure
import Introspection.Proofs.Rust.Nameless
import Introspection.Proofs.Disk.Deposit
import Introspection.Proofs.Log.Runs
import Introspection.Proofs.Command.Effects
import Introspection.Proofs.Config.Loading
