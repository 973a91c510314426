import Telemetry.Assembly.Signal
import Telemetry.Model.Signals
import Telemetry.Model.Limits

/-!
The tracer provider.

Its sampler is the one the document names, its delegates resolved as samplers with the same
nesting, or else the parent-based sampler whose root samples everything. Its processors are
resolved in order, each with its exporter. Its span limits are the merged limits, each unset one
left to its default. The provider shuts its processors down, so it owns them.
-/

namespace Telemetry.Assembly

open Pipeline Components Model

/-- The nesting of a sampler: every delegate of a parent-based sampler is a sampler. --/
def samplerNesting : List (String × Capability) := parentBasedKeys.map (fun k => (k, .sampler))

/-- The nesting of a span processor: its exporter. --/
def spanProcessorNesting : List (String × Capability) := [("exporter", .spanExporter)]

/-- The sampler used when a document names none. --/
def defaultSamplerView : Json := newView "ParentBased" [alwaysOnView] []

/-- The span limits made from merged limits, as they are described. --/
def spanLimitsView (limits : List (String × Int)) : Json :=
  newView "SpanLimits" []
    [("max_attributes", optInt (boundOf limits "attribute_count_limit")),
     ("max_attribute_length", optInt (boundOf limits "attribute_value_length_limit")),
     ("max_events", optInt (boundOf limits "event_count_limit")),
     ("max_links", optInt (boundOf limits "link_count_limit")),
     ("max_event_attributes", optInt (boundOf limits "event_attribute_count_limit")),
     ("max_link_attributes", optInt (boundOf limits "link_attribute_count_limit"))]

/-- The sampler of a tracer section, as it is described: the one the section names, resolved with
its delegates, or else the default one. --/
def resolveSampler (ctx : Context) : Option ComponentRef → Build Json
  | none => pure defaultSamplerView
  | some c => do describeSlot (← resolveComponent ctx .sampler c samplerNesting)

/-- Build the processors of a tracer section and the tracer provider over them, with the sampler
described as given. --/
def buildTracerProvider (ctx : Context) (sec : TracerSection) (limits : List (String × Int)) (sampler : Json) :
    Build (PartId × List Slot) := do
  let processors ← sec.processors.mapM fun c => resolveComponent ctx .spanProcessor c spanProcessorNesting
  let b ← get
  let view : Json := .obj [("new", .str "TracerProvider"), ("args", .arr []),
    ("kwargs", .obj [("sampler", sampler), ("resource", runtimeResource),
      ("span_limits", spanLimitsView limits), ("shutdown_on_exit", .bool false)]),
    ("span_processors", .arr (processors.map b.describe))]
  let provider ← addPart "TracerProvider" view (.tracerProvider (partsOf processors))
  pure (provider, processors)

/-- Build the tracer provider and the processors it owns: the sampler tree first, then the
processors, then the provider. --/
def buildTracing (ctx : Context) (sec : TracerSection) (limits : List (String × Int)) :
    Build (PartId × List Slot) := do
  buildTracerProvider ctx sec limits (← resolveSampler ctx sec.sampler)

example :
    spanLimitsView [] = newView "SpanLimits" []
      [("max_attributes", .null), ("max_attribute_length", .null), ("max_events", .null),
       ("max_links", .null), ("max_event_attributes", .null), ("max_link_attributes", .null)] := rfl

end Telemetry.Assembly
