import Telemetry.Components.Exporters
import Telemetry.Pipeline.Bench
import Telemetry.Json.Order
import Telemetry.Net.Url

/-!
The built-in components, one factory each, registered under their document names.

A factory reads its settings from the configuration it is given, checks them, and puts the
component on the bench with its description, which records the class it builds and the
arguments it builds it with. Propagators and the process detector take no configuration at
all. Processors and the periodic reader need an exporter; the pull reader needs an exporter that
is itself a metric reader, and is that exporter. A batch processor checks its queue and batch
sizes with their defaults filled in; its delay must be a number of milliseconds a double can
hold and its queue size a machine-sized integer. A periodic reader takes its exporter's
preferences, so an exporter without them cannot be read periodically. A gRPC exporter splits
its endpoint as a URL (`Net.check`).
-/

namespace Telemetry.Components

open Pipeline Schema

/-- A built-in component factory. --/
inductive Builtin where
  | tracecontext
  | baggage
  | b3
  | b3multi
  | noPropagation
  | processDetector
  | alwaysOn
  | alwaysOff
  | traceIdRatio
  | parentBased
  | httpSpans
  | grpcSpans
  | consoleSpans
  | httpLogs
  | grpcLogs
  | consoleLogs
  | httpMetrics
  | grpcMetrics
  | consoleMetrics
  | batchSpans
  | simpleSpans
  | batchLogs
  | simpleLogs
  | periodic
  | pull
  | defaultAggregation
  | dropAggregation
  | sumAggregation
  | lastValueAggregation
  | explicitHistogram
  | exponentialHistogram
  deriving DecidableEq, Repr, Inhabited

namespace Builtin

/-- The built-in components by extension point and name, in the order they are registered. --/
def table : List (Capability × String × Builtin) :=
  [(.propagator, "tracecontext", .tracecontext), (.propagator, "baggage", .baggage),
   (.propagator, "b3", .b3), (.propagator, "b3multi", .b3multi), (.propagator, "none", .noPropagation),
   (.resourceDetector, "process", .processDetector),
   (.sampler, "always_on", .alwaysOn), (.sampler, "always_off", .alwaysOff),
   (.sampler, "trace_id_ratio_based", .traceIdRatio), (.sampler, "parent_based", .parentBased),
   (.spanExporter, "otlp_http", .httpSpans), (.spanExporter, "otlp_grpc", .grpcSpans),
   (.spanExporter, "console", .consoleSpans),
   (.logRecordExporter, "otlp_http", .httpLogs), (.logRecordExporter, "otlp_grpc", .grpcLogs),
   (.logRecordExporter, "console", .consoleLogs),
   (.metricExporter, "otlp_http", .httpMetrics), (.metricExporter, "otlp_grpc", .grpcMetrics),
   (.metricExporter, "console", .consoleMetrics),
   (.spanProcessor, "batch", .batchSpans), (.spanProcessor, "simple", .simpleSpans),
   (.logRecordProcessor, "batch", .batchLogs), (.logRecordProcessor, "simple", .simpleLogs),
   (.metricReader, "periodic", .periodic), (.metricReader, "pull", .pull),
   (.aggregation, "default", .defaultAggregation), (.aggregation, "drop", .dropAggregation),
   (.aggregation, "sum", .sumAggregation), (.aggregation, "last_value", .lastValueAggregation),
   (.aggregation, "explicit_bucket_histogram", .explicitHistogram),
   (.aggregation, "base2_exponential_bucket_histogram", .exponentialHistogram)]

/-- The name of the function that is the factory. --/
def functionName : Builtin → String
  | .tracecontext => "create_tracecontext"
  | .baggage => "create_baggage"
  | .b3 => "create_b3"
  | .b3multi => "create_b3multi"
  | .noPropagation => "create_none"
  | .processDetector => "create_process_detector"
  | .alwaysOn => "create_always_on"
  | .alwaysOff => "create_always_off"
  | .traceIdRatio => "create_trace_id_ratio_based"
  | .parentBased => "create_parent_based"
  | .httpSpans => "create_otlp_http_span_exporter"
  | .grpcSpans => "create_otlp_grpc_span_exporter"
  | .consoleSpans => "create_console_span_exporter"
  | .httpLogs => "create_otlp_http_log_exporter"
  | .grpcLogs => "create_otlp_grpc_log_exporter"
  | .consoleLogs => "create_console_log_exporter"
  | .httpMetrics => "create_otlp_http_metric_exporter"
  | .grpcMetrics => "create_otlp_grpc_metric_exporter"
  | .consoleMetrics => "create_console_metric_exporter"
  | .batchSpans => "create_batch_span_processor"
  | .simpleSpans => "create_simple_span_processor"
  | .batchLogs => "create_batch_log_record_processor"
  | .simpleLogs => "create_simple_log_record_processor"
  | .periodic => "create_periodic_reader"
  | .pull => "create_pull_reader"
  | .defaultAggregation => "create_default_aggregation"
  | .dropAggregation => "create_drop_aggregation"
  | .sumAggregation => "create_sum_aggregation"
  | .lastValueAggregation => "create_last_value_aggregation"
  | .explicitHistogram => "create_explicit_bucket_histogram"
  | .exponentialHistogram => "create_base2_exponential_histogram"

/-- The module the factory is defined in. --/
def home : Builtin → String
  | .tracecontext | .baggage | .b3 | .b3multi | .noPropagation => "telemetry_assembly.components.propagators"
  | .processDetector => "telemetry_assembly.components.detectors"
  | .alwaysOn | .alwaysOff | .traceIdRatio | .parentBased => "telemetry_assembly.components.samplers"
  | .httpSpans | .grpcSpans | .consoleSpans | .httpLogs | .grpcLogs | .consoleLogs | .httpMetrics
  | .grpcMetrics | .consoleMetrics => "telemetry_assembly.components.exporters"
  | .batchSpans | .simpleSpans | .batchLogs | .simpleLogs => "telemetry_assembly.components.processors"
  | _ => "telemetry_assembly.components.metrics"

/-- The factory as it is shown. --/
def display (b : Builtin) : String := "<function " ++ b.functionName ++ ">"

example : table.length = 31 := rfl

end Builtin

/-! ### Shared steps -/

/-- Refuse a configuration that sets anything, quoting its keys in ascending order; keys that
have no order between them fail the sort instead. --/
def takesNothing (what : String) (c : Config) : Build Unit :=
  if c.isEmpty then pure ()
  else match Json.sortKeys (c.map (·.1)) with
    | .ok keys => throw (.rejected (what ++ " takes no configuration, got " ++ Json.literal (.arr keys)))
    | .error f => throw (.failure f)

/-- The exporter a processor or reader needs. --/
def requireExporter (what : String) : Option Slot → Build Slot
  | some s => pure s
  | none => throw (.rejected (what ++ " requires an exporter"))

/-- Read settings, a failure naming them. --/
def readSettings {α : Type} (title : String) (c : Checked α) : Build α :=
  Build.ofExcept (settingsOf title c)

/-- Put a component that only has a description on the bench. --/
def addInert (cls : String) (view : Json) : Build Slot := do
  return .part (← addPart cls view .inert)

/-! ### Samplers -/

/-- The sampler that samples everything, as it is described. --/
def alwaysOnView : Json := .obj [("sampler", .str "AlwaysOnSampler")]

/-- The sampler that samples nothing, as it is described. --/
def alwaysOffView : Json := .obj [("sampler", .str "AlwaysOffSampler")]

/-- A parent-based sampler: each delegate that is set must be a sampler; the root defaults to
the sampler that samples everything. --/
def buildParentBased (c : Config) : Build Slot := do
  let delegates ← readSettings "ParentBasedConfig" (readParentBased c)
  let b ← get
  for (k, d) in delegates do
    match d with
    | some s =>
      if !((b.roleOf s).map Role.isSampler).getD false then
        throw (.rejected ("parent_based." ++ k ++ " must reference a sampler, got " ++ b.className s))
    | none => pure ()
  let set := delegates.filterMap (fun d => d.2.map (fun s => (d.1, s)))
  let root := match set.find? (·.1 == "root") with
    | some r => b.describe r.2
    | none => alwaysOnView
  let others := (set.filter (·.1 != "root")).map (fun d => (d.1, b.describe d.2))
  return .part (← addPart "ParentBased" (newView "ParentBased" [root] others) .sampler)

/-! ### Exporters -/

/-- An exporter sending over HTTP. --/
def buildHttpExporter (form : ExporterForm) (cls name : String) (c : Config) : Build Slot := do
  let s ← readSettings form.title (form.read c)
  let kwargs ← Build.ofExcept (httpKwargs s.otlp false)
  let kwargs := kwargs ++ (if form.isMetric then preferenceKwargs s.preference else [])
  return .part (← addPart cls (newView name [] kwargs) (.remote form.isMetric))

/-- An exporter sending over gRPC. --/
def buildGrpcExporter (files : FileSystem) (form : ExporterForm) (cls name : String) (c : Config) : Build Slot := do
  let s ← readSettings form.title (form.read c)
  let kwargs ← Build.ofExcept (grpcKwargs files s)
  let kwargs := kwargs ++ (if form.isMetric then preferenceKwargs s.preference else [])
  match s.otlp.endpoint with
  | some e => if !e.isEmpty then Build.ofExcept ((Net.check e).mapError Fault.failure)
  | none => pure ()
  return .part (← addPart cls (newView name [] kwargs) (.remote form.isMetric))

/-- An exporter writing to the console. --/
def buildConsoleExporter (form : ExporterForm) (cls : String) (c : Config) : Build Slot := do
  let s ← readSettings form.title (form.read c)
  let kwargs := if form.isMetric then preferenceKwargs s.preference else []
  return .part (← addPart cls (newView cls [] kwargs) (.remote form.isMetric))

/-! ### Processors and readers -/

/-- The checks of a batch processor's sizes, with the defaults filled in: a queue of 2048, a delay
of 5000 ms and batches of 512. The sizes must be positive, a batch no larger than the queue, the
delay within the range of a double and the queue below `2^63`. --/
def batchChecks (s : BatchSettings) : Build Unit := do
  let queue := s.maxQueueSize.getD 2048
  let delay := s.scheduleDelay.getD 5000
  let batch := s.maxExportBatchSize.getD 512
  if queue ≤ 0 then throw (.failure ⟨.valueError, "max_queue_size must be a positive integer."⟩)
  if delay ≤ 0 then throw (.failure ⟨.valueError, "schedule_delay_millis must be positive."⟩)
  if batch ≤ 0 then throw (.failure ⟨.valueError, "max_export_batch_size must be a positive integer."⟩)
  if batch > queue then
    throw (.failure ⟨.valueError, "max_export_batch_size must be less than or equal to max_queue_size."⟩)
  if (Binary64.ofInt? delay).isNone then throw (.failure ⟨.overflowError, "int too large to convert to float"⟩)
  if queue ≥ Int.pow 2 63 then
    throw (.failure ⟨.overflowError, "Python int too large to convert to C ssize_t"⟩)

/-- A batch processor. --/
def buildBatch (cls : String) (c : Config) : Build Slot := do
  let s ← readSettings "BatchProcessorConfig" (BatchSettings.read c)
  let ex ← requireExporter "batch processor" s.exporter
  batchChecks s
  let exView ← describeSlot ex
  let kwargs : Members :=
    [("max_queue_size", optInt s.maxQueueSize), ("schedule_delay_millis", optInt s.scheduleDelay),
     ("max_export_batch_size", optInt s.maxExportBatchSize), ("export_timeout_millis", optInt s.exportTimeout)]
  return .part (← addPart cls (newView cls [exView] kwargs) (.batch ex false []))

/-- A simple processor. --/
def buildSimple (cls : String) (c : Config) : Build Slot := do
  let ex ← requireExporter "simple processor" (← readSettings "SimpleProcessorConfig" (readExporterOnly c))
  let exView ← describeSlot ex
  return .part (← addPart cls (newView cls [exView] []) (.simple ex false))

/-- A periodic reader, which takes its exporter's preferences. --/
def buildPeriodic (c : Config) : Build Slot := do
  let s ← readSettings "PeriodicReaderConfig" (PeriodicSettings.read c)
  let ex ← requireExporter "periodic reader" s.exporter
  let b ← get
  if !(((b.roleOf ex).map Role.statesPreferences).getD false) then
    throw (.failure (Failure.noAttribute (b.className ex) "_preferred_temporality"))
  let kwargs : Members := [("export_interval_millis", optInt s.interval), ("export_timeout_millis", optInt s.timeout)]
  let cls := "PeriodicExportingMetricReader"
  return .part (← addPart cls (newView cls [b.describe ex] kwargs) (.periodic ex false))

/-- A pull reader: its exporter, which must be a metric reader itself. --/
def buildPull (c : Config) : Build Slot := do
  let ex ← readSettings "PullReaderConfig" (readExporterOnly c)
  let b ← get
  match ex with
  | some s =>
    if ((b.roleOf s).map Role.isReader).getD false then pure s
    else throw (.rejected ("pull reader requires an exporter that is a MetricReader, got " ++ b.className s))
  | none => throw (.rejected "pull reader requires an exporter that is a MetricReader, got NoneType")

/-! ### Aggregations -/

/-- An aggregation that takes no settings. --/
def buildPlainAggregation (cls : String) (c : Config) : Build Slot := do
  readSettings "EmptyConfig" (readEmpty c)
  addInert cls (newView cls [] [])

/-- An explicit bucket histogram. --/
def buildExplicitHistogram (c : Config) : Build Slot := do
  let s ← readSettings "ExplicitBucketHistogramConfig" (ExplicitHistogramSettings.read c)
  let cls := "ExplicitBucketHistogramAggregation"
  let bounds : Members := match s.boundaries with
    | some bs => [("boundaries", .arr (bs.map .float))]
    | none => []
  addInert cls (newView cls [] (bounds ++ [("record_min_max", .bool s.recordMinMax)]))

/-- An exponential bucket histogram. --/
def buildExponentialHistogram (c : Config) : Build Slot := do
  let s ← readSettings "Base2ExponentialHistogramConfig" (ExponentialHistogramSettings.read c)
  let cls := "ExponentialBucketHistogramAggregation"
  addInert cls (newView cls [] [("max_size", .int s.maxSize), ("max_scale", .int s.maxScale)])

/-! ### Factories -/

/-- A propagator that takes no configuration. --/
def buildPropagator (name cls : String) (args : List Json) (c : Config) : Build Slot := do
  takesNothing ("Propagator '" ++ name ++ "'") c
  addInert cls (newView cls args [])

/-- Build a built-in component from its configuration; `files` is what certificate paths name. --/
def Builtin.build (files : FileSystem) : Builtin → Config → Build Slot
  | .tracecontext, c => buildPropagator "tracecontext" "TraceContextTextMapPropagator" [] c
  | .baggage, c => buildPropagator "baggage" "W3CBaggagePropagator" [] c
  | .b3, c => buildPropagator "b3" "B3SingleFormat" [] c
  | .b3multi, c => buildPropagator "b3multi" "B3MultiFormat" [] c
  | .noPropagation, c => buildPropagator "none" "CompositePropagator" [.arr []] c
  | .processDetector, c => do
    takesNothing "Resource detector 'process'" c
    let cls := "ProcessResourceDetector"
    return .part (← addPart cls (newView cls [] []) .processDetector)
  | .alwaysOn, c => do
    readSettings "EmptyConfig" (readEmpty c)
    return .part (← addPart "StaticSampler" alwaysOnView .sampler)
  | .alwaysOff, c => do
    readSettings "EmptyConfig" (readEmpty c)
    return .part (← addPart "StaticSampler" alwaysOffView .sampler)
  | .traceIdRatio, c => do
    let r ← readSettings "TraceIdRatioBasedConfig" (readRatio c)
    return .part (← addPart "TraceIdRatioBased" (newView "TraceIdRatioBased" [.float r] []) .sampler)
  | .parentBased, c => buildParentBased c
  | .httpSpans, c => buildHttpExporter .otlpHttp "OTLPSpanExporter" "HttpSpanExporter" c
  | .grpcSpans, c => buildGrpcExporter files .otlpGrpc "OTLPSpanExporter" "GrpcSpanExporter" c
  | .consoleSpans, c => buildConsoleExporter .console "ConsoleSpanExporter" c
  | .httpLogs, c => buildHttpExporter .otlpHttp "OTLPLogExporter" "HttpLogExporter" c
  | .grpcLogs, c => buildGrpcExporter files .otlpGrpc "OTLPLogExporter" "GrpcLogExporter" c
  | .consoleLogs, c => buildConsoleExporter .console "ConsoleLogExporter" c
  | .httpMetrics, c => buildHttpExporter .otlpHttpMetric "OTLPMetricExporter" "HttpMetricExporter" c
  | .grpcMetrics, c => buildGrpcExporter files .otlpGrpcMetric "OTLPMetricExporter" "GrpcMetricExporter" c
  | .consoleMetrics, c => buildConsoleExporter .consoleMetric "ConsoleMetricExporter" c
  | .batchSpans, c => buildBatch "BatchSpanProcessor" c
  | .simpleSpans, c => buildSimple "SimpleSpanProcessor" c
  | .batchLogs, c => buildBatch "BatchLogRecordProcessor" c
  | .simpleLogs, c => buildSimple "SimpleLogRecordProcessor" c
  | .periodic, c => buildPeriodic c
  | .pull, c => buildPull c
  | .defaultAggregation, c => buildPlainAggregation "DefaultAggregation" c
  | .dropAggregation, c => buildPlainAggregation "DropAggregation" c
  | .sumAggregation, c => buildPlainAggregation "SumAggregation" c
  | .lastValueAggregation, c => buildPlainAggregation "LastValueAggregation" c
  | .explicitHistogram, c => buildExplicitHistogram c
  | .exponentialHistogram, c => buildExponentialHistogram c

end Telemetry.Components
