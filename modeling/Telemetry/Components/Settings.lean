import Telemetry.Schema.Record
import Telemetry.Pipeline.Instance
import Telemetry.KeyValue
import Telemetry.Binary64.Basic

/-!
The settings of the built-in components, read from their configurations the way document
sections are read: each field by its key, unknown keys refused, and a rule over several fields
checked once every field was read.

A configuration may hold components built before (an exporter, or the samplers of a
parent-based sampler); the fields that take them accept anything, and no other field ever meets
one. Every setting is an optional field, so an empty configuration takes every default.

The exporters sending over the network share most of their settings. Their constant headers come
from `headers_list`, overridden by every `headers` entry that has a value, and their timeout is
written in milliseconds and handed on in seconds.
-/

namespace Telemetry.Components

open Schema Checked Pipeline

/-- Read a field that takes plain data; a component stands where no such field is. --/
def onData {α : Type} (r : Json → Checked α) : Slot → Checked α
  | .data v => r v
  | .part _ => fail .modelType

/-- Read a field that takes anything: unset or `null` is nothing. --/
def readAny : Slot → Checked (Option Slot)
  | .data .null => ok none
  | s => ok (some s)

/-- A configuration's settings, or the validation error naming the settings. --/
def settingsOf {α : Type} (title : String) : Checked α → Except Fault α
  | .ok a => .ok a
  | .failed is => .error (.invalid ⟨title, is⟩)

/-- Where a key that is not text is reported: an integer within 64 bits, or a boolean as `0` or
`1`, as a number, and any other value as its literal. --/
def keyStep : Json → Step
  | .str s => .key s
  | .bool b => .number (if b then 1 else 0)
  | .int i => if -(Int.pow 2 63) ≤ i && i < Int.pow 2 63 then .number i else .key (toString i)
  | k => .key (Json.literal k)

/-- Report, after what the fields reported, every key of a configuration in order that no field
used: a text key as not defined, and any other key as not text. --/
def closedConfig {α : Type} (c : Config) (fields : List (List String)) (r : Checked α) : Checked α :=
  let used := fields.filterMap (fun keys => (lookup c.texts keys).map (·.1))
  r.alsoFailing (c.filterMap fun m => match m.1 with
    | .str k => if used.contains k then none else some ⟨[.key k], .extraForbidden⟩
    | k => some ⟨[keyStep k], .invalidKey⟩)

/-- Read settings that take no field at all. --/
def readEmpty (c : Config) : Checked Unit := closedConfig c [] (ok ())

/-! ### Choices -/

/-- How an exporter compresses what it sends. --/
inductive Compression where
  | gzip
  | deflate
  | none
  deriving DecidableEq, Inhabited

/-- The compressions by the names configurations write them with. --/
def Compression.table : List (String × Compression) :=
  [("gzip", .gzip), ("deflate", .deflate), ("none", .none)]

/-- The name of a compression. --/
def Compression.name : Compression → String
  | .gzip => "gzip"
  | .deflate => "deflate"
  | .none => "none"

/-- The compression as the exporters' own enumeration writes it. --/
def Compression.member : Compression → String
  | .gzip => "Compression.Gzip"
  | .deflate => "Compression.Deflate"
  | .none => "Compression.NoCompression"

/-- Which metrics an exporter wants reported as deltas rather than running totals. --/
inductive Temporality where
  | cumulative
  | delta
  | lowMemory
  deriving DecidableEq, Inhabited

/-- The temporality preferences by name. --/
def Temporality.table : List (String × Temporality) :=
  [("cumulative", .cumulative), ("delta", .delta), ("low_memory", .lowMemory)]

/-- The name of a temporality preference. --/
def Temporality.name : Temporality → String
  | .cumulative => "cumulative"
  | .delta => "delta"
  | .lowMemory => "low_memory"

/-- The aggregation an exporter prefers for histograms. --/
inductive HistogramChoice where
  | explicitBuckets
  | exponentialBuckets
  deriving DecidableEq, Inhabited

/-- The histogram aggregations by name. --/
def HistogramChoice.table : List (String × HistogramChoice) :=
  [("explicit_bucket_histogram", .explicitBuckets),
   ("base2_exponential_bucket_histogram", .exponentialBuckets)]

/-- The name of a histogram aggregation. --/
def HistogramChoice.name : HistogramChoice → String
  | .explicitBuckets => "explicit_bucket_histogram"
  | .exponentialBuckets => "base2_exponential_bucket_histogram"

/-- What a metric exporter prefers. --/
structure MetricPreference where
  temporality : Option Temporality
  histogram : Option HistogramChoice
  deriving Inhabited

/-- The preference for nothing. --/
def MetricPreference.none : MetricPreference := ⟨Option.none, Option.none⟩

/-- A choice looked up by its name; other values choose nothing. --/
def choiceOf? {α : Type} (table : List (String × α)) : Json → Option α
  | .str s => (table.find? (·.1 == s)).map (·.2)
  | _ => none

/-! ### Exporters -/

/-- A constant header, set only when it has a value. --/
structure NameValue where
  name : String
  value : Option String
  deriving Inhabited

/-- Read a header entry. --/
def NameValue.read : Json → Checked NameValue :=
  readSection fun ms =>
    closed ms [["name"], ["value"]]
      (NameValue.mk <$> requiredField ms ["name"] readText
        <*> optionalField ms ["value"] (readOptional readText) none)

/-- The settings shared by the exporters sending over the network. --/
structure OtlpSettings where
  endpoint : Option String
  certificateFile : Option String
  clientKeyFile : Option String
  clientCertificateFile : Option String
  headers : List NameValue
  headersList : Option String
  compression : Option Compression
  /-- Milliseconds. --/
  timeout : Option Int
  deriving Inhabited

/-- The exporters whose settings are read, each with its own fields. --/
inductive ExporterForm where
  | otlpHttp
  | otlpGrpc
  | otlpHttpMetric
  | otlpGrpcMetric
  | console
  | consoleMetric
  deriving DecidableEq, Inhabited

/-- An exporter's settings; the fields its form does not have keep their defaults. --/
structure ExporterSettings where
  otlp : OtlpSettings
  insecure : Option Bool
  preference : MetricPreference
  deriving Inhabited

namespace ExporterForm

/-- The name of the settings of a form. --/
def title : ExporterForm → String
  | .otlpHttp => "OtlpHttpExporterConfig"
  | .otlpGrpc => "OtlpGrpcExporterConfig"
  | .otlpHttpMetric => "OtlpHttpMetricExporterConfig"
  | .otlpGrpcMetric => "OtlpGrpcMetricExporterConfig"
  | .console => "ConsoleExporterConfig"
  | .consoleMetric => "ConsoleMetricExporterConfig"

/-- Whether the form sends over the network. --/
def isOtlp : ExporterForm → Bool
  | .console | .consoleMetric => false
  | _ => true

/-- Whether the form sends over HTTP. --/
def isHttp : ExporterForm → Bool
  | .otlpHttp | .otlpHttpMetric => true
  | _ => false

/-- Whether the form sends over gRPC. --/
def isGrpc : ExporterForm → Bool
  | .otlpGrpc | .otlpGrpcMetric => true
  | _ => false

/-- Whether the form exports metrics and takes metric preferences. --/
def isMetric : ExporterForm → Bool
  | .otlpHttpMetric | .otlpGrpcMetric | .consoleMetric => true
  | _ => false

/-- The keys of the network settings. --/
def otlpKeys : List String :=
  ["endpoint", "certificate_file", "client_key_file", "client_certificate_file", "headers",
   "headers_list", "compression", "timeout"]

/-- The keys of a form's fields, in order. --/
def keys (f : ExporterForm) : List String :=
  (if f.isOtlp then otlpKeys else []) ++ (if f.isHttp then ["encoding", "headers_supplier"] else []) ++
    (if f.isGrpc then ["insecure"] else []) ++
    (if f.isMetric then ["temporality_preference", "default_histogram_aggregation"] else [])

end ExporterForm

/-- The network settings that nothing sets. --/
def OtlpSettings.defaults : OtlpSettings := ⟨none, none, none, none, [], none, none, none⟩

/-- Read the network settings. --/
def readOtlp (c : Config) : Checked OtlpSettings :=
  OtlpSettings.mk
    <$> optionalField c.texts ["endpoint"] (onData (readOptional readText)) none
    <*> optionalField c.texts ["certificate_file"] (onData (readOptional readText)) none
    <*> optionalField c.texts ["client_key_file"] (onData (readOptional readText)) none
    <*> optionalField c.texts ["client_certificate_file"] (onData (readOptional readText)) none
    <*> optionalField c.texts ["headers"] (onData (readList NameValue.read)) []
    <*> optionalField c.texts ["headers_list"] (onData (readOptional readText)) none
    <*> optionalField c.texts ["compression"] (onData (readOptional (readChoice Compression.table))) none
    <*> optionalField c.texts ["timeout"] (onData (readOptional (readIntWithin [.atLeast 0]))) none

/-- Read the fields only the HTTP exporters have: the one encoding, and a header supplier, which
only a program can give and a configuration can only leave unset. --/
def readHttpExtras (c : Config) : Checked Unit :=
  (fun _ _ => ()) <$> optionalField c.texts ["encoding"] (onData (readChoice [("protobuf", ())])) ()
    <*> optionalField c.texts ["headers_supplier"] (onData fun v =>
      match v with
      | .null => ok ()
      | _ => fail .callableType) ()

/-- Read the metric preferences. --/
def readPreference (c : Config) : Checked MetricPreference :=
  MetricPreference.mk
    <$> optionalField c.texts ["temporality_preference"] (onData (readOptional (readChoice Temporality.table))) none
    <*> optionalField c.texts ["default_histogram_aggregation"]
      (onData (readOptional (readChoice HistogramChoice.table))) none

/-- The rule tying the client certificate to its key: both set or neither. --/
def clientPairRule (s : ExporterSettings) : Option String :=
  let set (o : Option String) : Bool := match o with
    | some t => !t.isEmpty
    | none => false
  if set s.otlp.clientKeyFile != set s.otlp.clientCertificateFile then
    some "client_key_file and client_certificate_file must be set together"
  else none

/-- Read the settings of an exporter of a form. --/
def ExporterForm.read (f : ExporterForm) (c : Config) : Checked ExporterSettings :=
  let fields : Checked ExporterSettings :=
    (fun o _ ins p => ExporterSettings.mk o ins p)
      <$> (if f.isOtlp then readOtlp c else ok OtlpSettings.defaults)
      <*> (if f.isHttp then readHttpExtras c else ok ())
      <*> (if f.isGrpc then optionalField c.texts ["insecure"] (onData (readOptional readBool)) none else ok none)
      <*> (if f.isMetric then readPreference c else ok MetricPreference.none)
  let read := closedConfig c (f.keys.map (fun k => [k])) fields
  if f.isOtlp then read.ensure clientPairRule else read

/-- An optional text as a dump shows it. --/
def optStr : Option String → Json
  | some s => .str s
  | none => .null

/-- The settings of an exporter of a form, as a dump shows them. --/
def ExporterSettings.dump (f : ExporterForm) (s : ExporterSettings) : Json :=
  let o := s.otlp
  let otlp : Members :=
    [("endpoint", optStr o.endpoint), ("certificate_file", optStr o.certificateFile),
     ("client_key_file", optStr o.clientKeyFile), ("client_certificate_file", optStr o.clientCertificateFile),
     ("headers", .arr (o.headers.map (fun h => .obj [("name", .str h.name), ("value", optStr h.value)]))),
     ("headers_list", optStr o.headersList), ("compression", optStr (o.compression.map Compression.name)),
     ("timeout", optInt o.timeout)]
  .obj ((if f.isOtlp then otlp else []) ++
    (if f.isHttp then [("encoding", .str "protobuf"), ("headers_supplier", .null)] else []) ++
    (if f.isGrpc then [("insecure", match s.insecure with
      | some b => .bool b
      | none => .null)] else []) ++
    (if f.isMetric then [("temporality_preference", optStr (s.preference.temporality.map Temporality.name)),
      ("default_histogram_aggregation", optStr (s.preference.histogram.map HistogramChoice.name))] else []))

/-- The constant headers: those of `headers_list`, then each `headers` entry that has a value. --/
def OtlpSettings.headerPairs (o : OtlpSettings) : Except Fault (List (String × String)) := do
  let listed ← parseKeyValueList o.headersList "header"
  pure (o.headers.foldl (fun acc h => match h.value with
    | some v => putPair acc h.name v
    | none => acc) listed)

/-- The timeout in seconds. --/
def OtlpSettings.timeoutSeconds (o : OtlpSettings) : Except Fault (Option Float) :=
  match o.timeout with
  | none => .ok none
  | some t =>
    match Binary64.ofInt? t with
    | some x => .ok (some (x / 1000.0))
    | none => .error (.failure ⟨.overflowError, "int too large to convert to float"⟩)

example : OtlpSettings.defaults.headerPairs = .ok [] := rfl

theorem timeoutSeconds_none (o : OtlpSettings) (h : o.timeout = none) : o.timeoutSeconds = .ok none := by
  simp [OtlpSettings.timeoutSeconds, h]

/-! ### Processors and readers -/

/-- The settings of a batch processor; durations in milliseconds. --/
structure BatchSettings where
  exporter : Option Slot
  scheduleDelay : Option Int
  exportTimeout : Option Int
  maxQueueSize : Option Int
  maxExportBatchSize : Option Int
  deriving Inhabited

/-- Read the settings of a batch processor. --/
def BatchSettings.read (c : Config) : Checked BatchSettings :=
  closedConfig c [["exporter"], ["schedule_delay"], ["export_timeout"], ["max_queue_size"], ["max_export_batch_size"]]
    (BatchSettings.mk
      <$> optionalField c.texts ["exporter"] readAny none
      <*> optionalField c.texts ["schedule_delay"] (onData (readOptional (readIntWithin [.atLeast 0]))) none
      <*> optionalField c.texts ["export_timeout"] (onData (readOptional (readIntWithin [.atLeast 0]))) none
      <*> optionalField c.texts ["max_queue_size"] (onData (readOptional (readIntWithin [.above 0]))) none
      <*> optionalField c.texts ["max_export_batch_size"] (onData (readOptional (readIntWithin [.above 0]))) none)

/-- Read the settings of a component that takes only an exporter. --/
def readExporterOnly (c : Config) : Checked (Option Slot) :=
  closedConfig c [["exporter"]] (optionalField c.texts ["exporter"] readAny none)

/-- The settings of a periodic reader; durations in milliseconds. --/
structure PeriodicSettings where
  exporter : Option Slot
  interval : Option Int
  timeout : Option Int
  deriving Inhabited

/-- Read the settings of a periodic reader. --/
def PeriodicSettings.read (c : Config) : Checked PeriodicSettings :=
  closedConfig c [["exporter"], ["interval"], ["timeout"]]
    (PeriodicSettings.mk
      <$> optionalField c.texts ["exporter"] readAny none
      <*> optionalField c.texts ["interval"] (onData (readOptional (readIntWithin [.above 0]))) none
      <*> optionalField c.texts ["timeout"] (onData (readOptional (readIntWithin [.atLeast 0]))) none)

/-! ### Samplers and aggregations -/

/-- Read the ratio of a ratio sampler: a float from 0 to 1, 1 by default. --/
def readRatio (c : Config) : Checked Float :=
  closedConfig c [["ratio"]] (optionalField c.texts ["ratio"] (onData (readFloatWithin [.atMost 1, .atLeast 0])) 1.0)

/-- The places of a parent-based sampler's delegates, the root first. --/
def parentBasedKeys : List String :=
  ["root", "remote_parent_sampled", "remote_parent_not_sampled", "local_parent_sampled",
   "local_parent_not_sampled"]

/-- Read the delegates of a parent-based sampler, each unset or anything. --/
def readParentBased (c : Config) : Checked (List (String × Option Slot)) :=
  closedConfig c (parentBasedKeys.map (fun k => [k]))
    (parentBasedKeys.foldr (fun k acc =>
      List.cons <$> ((fun s => (k, s)) <$> optionalField c.texts [k] readAny none) <*> acc) (ok []))

/-- The settings of an explicit bucket histogram. --/
structure ExplicitHistogramSettings where
  boundaries : Option (List Float)
  recordMinMax : Bool
  deriving Inhabited

/-- Read the settings of an explicit bucket histogram. --/
def ExplicitHistogramSettings.read (c : Config) : Checked ExplicitHistogramSettings :=
  closedConfig c [["boundaries"], ["record_min_max"]]
    (ExplicitHistogramSettings.mk
      <$> optionalField c.texts ["boundaries"] (onData (readOptional (readList readFloat))) none
      <*> optionalField c.texts ["record_min_max"] (onData readBool) true)

/-- The settings of an exponential bucket histogram. --/
structure ExponentialHistogramSettings where
  maxSize : Int
  maxScale : Int
  deriving Inhabited

/-- Read the settings of an exponential bucket histogram. --/
def ExponentialHistogramSettings.read (c : Config) : Checked ExponentialHistogramSettings :=
  closedConfig c [["max_size"], ["max_scale"]]
    (ExponentialHistogramSettings.mk
      <$> optionalField c.texts ["max_size"] (onData (readIntWithin [.above 1])) 160
      <*> optionalField c.texts ["max_scale"] (onData (readIntWithin [.atMost 20, .atLeast (-10)])) 20)

end Telemetry.Components
