import Telemetry.Json.Literal

/-!
The kinds of pluggable component, each an extension point that factories are registered under.
Their order is the order in which advertised factories are discovered.
-/

namespace Telemetry

/-- An extension point that component factories are registered under. --/
inductive Capability where
  | propagator
  | resourceDetector
  | sampler
  | spanExporter
  | spanProcessor
  | logRecordExporter
  | logRecordProcessor
  | metricExporter
  | metricReader
  | aggregation
  deriving DecidableEq, Repr, Inhabited

namespace Capability

/-- Every extension point, in discovery order. --/
def all : List Capability :=
  [.propagator, .resourceDetector, .sampler, .spanExporter, .spanProcessor, .logRecordExporter,
   .logRecordProcessor, .metricExporter, .metricReader, .aggregation]

/-- The name of an extension point, as documents and messages write it. --/
def value : Capability → String
  | .propagator => "propagator"
  | .resourceDetector => "resource_detector"
  | .sampler => "sampler"
  | .spanExporter => "span_exporter"
  | .spanProcessor => "span_processor"
  | .logRecordExporter => "log_record_exporter"
  | .logRecordProcessor => "log_record_processor"
  | .metricExporter => "metric_exporter"
  | .metricReader => "metric_reader"
  | .aggregation => "aggregation"

/-- The extension point with a given name. --/
def ofValue? (s : String) : Option Capability :=
  all.find? (fun c => c.value == s)

/-- Why a value names no extension point. --/
def invalidMessage (v : Json) : String :=
  Json.literal v ++ " is not a valid CapabilityType"

theorem ofValue_value (c : Capability) : ofValue? c.value = some c := by
  cases c <;> rfl

end Capability

end Telemetry
