import Telemetry.Json.Basic
import Telemetry.Json.Read
import Telemetry.Json.Write
import Telemetry.Json.Literal
import Telemetry.Json.Equal
import Telemetry.Binary64.Basic
import Telemetry.Binary64.Decimal
import Telemetry.Text.Printable
import Telemetry.Text.Digit
import Telemetry.Text.Blank
import Telemetry.Text.Percent
import Telemetry.Text.Case
import Telemetry.Schema.Issue
import Telemetry.Schema.Scalar
import Telemetry.Schema.Record
import Telemetry.Text.Order
import Telemetry.Model.Component
import Telemetry.Model.Limits
import Telemetry.Model.Resource
import Telemetry.Model.Propagation
import Telemetry.Model.Signals
import Telemetry.Capability
import Telemetry.Fault
import Telemetry.Json.Mapping
import Telemetry.Sorting.Search
import Telemetry.Sorting.Merge
import Telemetry.Sorting.Runs
import Telemetry.Json.Order
import Telemetry.Report
import Telemetry.FileFormat
import Telemetry.KeyValue
import Telemetry.Model.Document
import Telemetry.Model.Coerce
import Telemetry.Options
import Telemetry.Ledger.Basic
import Telemetry.Ledger.Script
import Telemetry.Registry
import Telemetry.Pipeline.Attributes
import Telemetry.Pipeline.Resource
import Telemetry.Pipeline.Instance
import Telemetry.Pipeline.Bench
import Telemetry.Pipeline.Lifecycle
import Telemetry.Components.Settings
import Telemetry.Components.Discipline
import Telemetry.Net.Address
import Telemetry.Net.Url
import Telemetry.FileSystem
import Telemetry.Http.Headers
import Telemetry.Http.Session
import Telemetry.Components.Exporters
import Telemetry.Components.Builtin
import Telemetry.Components.Scripted
import Telemetry.Components.Factory
import Telemetry.Assembly.Stage
import Telemetry.Assembly.Signal
import Telemetry.Assembly.Propagation
import Telemetry.Assembly.Resource
import Telemetry.Assembly.Tracing
import Telemetry.Assembly.Logging
import Telemetry.Assembly.Metering
import Telemetry.Assembly.Assembled
import Telemetry.Assembly.Create
import Telemetry.Proofs.ReleaseWalk
import Telemetry.Proofs.LedgerLaws
import Telemetry.Proofs.Factories
import Telemetry.Proofs.BenchLaws
import Telemetry.Proofs.StageRecords
import Telemetry.Proofs.Loops
import Telemetry.Proofs.AssemblyRecords
import Telemetry.Proofs.AllOrNothing
import Telemetry.Proofs.HandedLedger
import Telemetry.Proofs.DocumentDump
import Telemetry.Proofs.RegistryTable
import Telemetry.Proofs.StageOrder
import Telemetry.Proofs.ResourceLayers
import Telemetry.Proofs.FormatGate
import Telemetry.Proofs.ComponentForms
import Telemetry.Proofs.KeyValueLists
import Telemetry.Proofs.PropagatorOrder
import Telemetry.Proofs.AttributeCoercion
import Telemetry.Proofs.EntryPoints
import Telemetry.Proofs.SignalLimits
import Telemetry.Proofs.RuntimeLifecycle
