import Telemetry.Assembly.Signal
import Telemetry.Model.Signals
import Telemetry.Model.Limits

/-!
The logger provider.

Its processors are resolved in order, each with its exporter. The provider itself takes no
attribute limits, so when the merged limits bound the count or the length of attributes, every
processor is wrapped in a limiting processor that bounds a record's attributes before handing
the record on. The provider owns the processors it was given, wrapped or not.
-/

namespace Telemetry.Assembly

open Pipeline Components Model

/-- The nesting of a log record processor: its exporter. --/
def logProcessorNesting : List (String × Capability) := [("exporter", .logRecordExporter)]

/-- Wrap a processor in one that bounds attributes first. --/
def limitProcessor (maxCount maxLength : Option Int) (s : Slot) : Build Slot := do
  match s with
  | .part d =>
    let b ← get
    let view : Json := .obj [("object", .str "LimitingLogRecordProcessor"), ("delegate", b.describe s),
      ("max_attributes", optInt maxCount), ("max_attribute_length", optInt maxLength)]
    return .part (← addPart "LimitingLogRecordProcessor" view
      (.limiting d (maxCount.map Int.toNat) (maxLength.map Int.toNat)))
  | .data v => throw (.failure (Failure.noAttribute v.kindName "emit"))

/-- The processors a logger provider is given: wrapped when the limits bound anything. --/
def limitProcessors (maxCount maxLength : Option Int) (ps : List Slot) : Build (List Slot) :=
  if maxCount.isSome || maxLength.isSome then ps.mapM (limitProcessor maxCount maxLength)
  else pure ps

/-- Build the logger provider and the processors it owns. --/
def buildLogging (ctx : Context) (sec : LoggerSection) (limits : List (String × Int)) :
    Build (PartId × List Slot) := do
  let processors ← sec.processors.mapM fun c => resolveComponent ctx .logRecordProcessor c logProcessorNesting
  let given ← limitProcessors (boundOf limits "attribute_count_limit")
    (boundOf limits "attribute_value_length_limit") processors
  let b ← get
  let view : Json := .obj [("new", .str "LoggerProvider"), ("args", .arr []),
    ("kwargs", .obj [("resource", runtimeResource), ("shutdown_on_exit", .bool false)]),
    ("log_record_processors", .arr (given.map b.describe))]
  let provider ← addPart "LoggerProvider" view (.loggerProvider (partsOf given))
  pure (provider, processors)

theorem limitProcessors_unbounded (ps : List Slot) (b : Bench) :
    (limitProcessors none none ps).run b = (.ok ps, b) := rfl

end Telemetry.Assembly
