import Telemetry.Model.Component
import Telemetry.Model.Limits
import Telemetry.Model.Resource

/-!
The per-signal sections of a document. The tracer and logger providers list their processors and
may bound attributes; the tracer provider may name a sampler. The meter provider lists its
readers, the views that select instruments and say how they are reported, and may choose an
exemplar filter.
-/

namespace Telemetry.Model

open Schema Checked

/-- Read a list of component references. --/
def readRefs : Json → Checked (List ComponentRef) := readList ComponentRef.read

/-- The references as a dump shows them. --/
def refsJson (cs : List ComponentRef) : Json := .arr (cs.map ComponentRef.toJson)

/-- An optional reference as a dump shows it. --/
def optRefJson : Option ComponentRef → Json
  | some c => c.toJson
  | none => .null

/-- The tracer provider section. --/
structure TracerSection where
  processors : List ComponentRef
  limits : Option SpanLimitSettings
  sampler : Option ComponentRef
  deriving Inhabited

/-- Read a tracer provider section. --/
def TracerSection.read : Json → Checked TracerSection :=
  readSection fun ms =>
    closed ms [["processors"], ["limits"], ["sampler"]]
      (TracerSection.mk
        <$> optionalField ms ["processors"] readRefs []
        <*> optionalField ms ["limits"] (readOptional SpanLimitSettings.read) none
        <*> optionalField ms ["sampler"] (readOptional ComponentRef.read) none)

/-- The tracer provider section as a dump shows it. --/
def TracerSection.toJson (t : TracerSection) : Json :=
  .obj [("processors", refsJson t.processors),
        ("limits", match t.limits with | some l => boundsJson l.entries | none => .null),
        ("sampler", optRefJson t.sampler)]

/-- The logger provider section. --/
structure LoggerSection where
  processors : List ComponentRef
  limits : Option AttributeLimits
  deriving Inhabited

/-- Read a logger provider section. --/
def LoggerSection.read : Json → Checked LoggerSection :=
  readSection fun ms =>
    closed ms [["processors"], ["limits"]]
      (LoggerSection.mk
        <$> optionalField ms ["processors"] readRefs []
        <*> optionalField ms ["limits"] (readOptional AttributeLimits.read) none)

/-- The logger provider section as a dump shows it. --/
def LoggerSection.toJson (l : LoggerSection) : Json :=
  .obj [("processors", refsJson l.processors),
        ("limits", match l.limits with | some b => boundsJson b.entries | none => .null)]

/-- The kinds of instrument a view can select. --/
inductive InstrumentKind where
  | counter
  | upDownCounter
  | histogram
  | observableCounter
  | observableGauge
  | observableUpDownCounter
  deriving DecidableEq, Repr, Inhabited

namespace InstrumentKind

/-- The kinds by the names a document writes them with. --/
def table : List (String × InstrumentKind) :=
  [("counter", .counter), ("up_down_counter", .upDownCounter), ("histogram", .histogram),
   ("observable_counter", .observableCounter), ("observable_gauge", .observableGauge),
   ("observable_up_down_counter", .observableUpDownCounter)]

/-- The name a document writes a kind with. --/
def name : InstrumentKind → String
  | .counter => "counter"
  | .upDownCounter => "up_down_counter"
  | .histogram => "histogram"
  | .observableCounter => "observable_counter"
  | .observableGauge => "observable_gauge"
  | .observableUpDownCounter => "observable_up_down_counter"

/-- The instrument class of a kind. --/
def className : InstrumentKind → String
  | .counter => "Counter"
  | .upDownCounter => "UpDownCounter"
  | .histogram => "Histogram"
  | .observableCounter => "ObservableCounter"
  | .observableGauge => "ObservableGauge"
  | .observableUpDownCounter => "ObservableUpDownCounter"

end InstrumentKind

/-- The criteria selecting the instruments a view applies to. --/
structure ViewSelector where
  instrumentName : Option String
  instrumentType : Option InstrumentKind
  unit : Option String
  meterName : Option String
  meterVersion : Option String
  meterSchemaUrl : Option String
  deriving Inhabited

/-- The selector of a view that gives none. --/
def ViewSelector.empty : ViewSelector := ⟨none, none, none, none, none, none⟩

/-- Read a view selector. --/
def ViewSelector.read : Json → Checked ViewSelector :=
  readSection fun ms =>
    closed ms [["instrument_name"], ["instrument_type"], ["unit"], ["meter_name"], ["meter_version"],
        ["meter_schema_url"]]
      (ViewSelector.mk
        <$> optionalField ms ["instrument_name"] (readOptional readText) none
        <*> optionalField ms ["instrument_type"] (readOptional (readChoice InstrumentKind.table)) none
        <*> optionalField ms ["unit"] (readOptional readText) none
        <*> optionalField ms ["meter_name"] (readOptional readText) none
        <*> optionalField ms ["meter_version"] (readOptional readText) none
        <*> optionalField ms ["meter_schema_url"] (readOptional readText) none)

/-- The selector as a dump shows it. --/
def ViewSelector.toJson (s : ViewSelector) : Json :=
  .obj [("instrument_name", optText s.instrumentName),
        ("instrument_type", optText (s.instrumentType.map InstrumentKind.name)),
        ("unit", optText s.unit), ("meter_name", optText s.meterName),
        ("meter_version", optText s.meterVersion), ("meter_schema_url", optText s.meterSchemaUrl)]

/-- The attribute keys a view keeps or drops. --/
structure AttributeKeys where
  included : Option (List String)
  excluded : Option (List String)
  deriving Inhabited

/-- Read an attribute keys section. --/
def AttributeKeys.read : Json → Checked AttributeKeys :=
  readSection fun ms =>
    closed ms [["included"], ["excluded"]]
      (AttributeKeys.mk
        <$> optionalField ms ["included"] (readOptional (readList readText)) none
        <*> optionalField ms ["excluded"] (readOptional (readList readText)) none)

/-- A list of texts that may be unset, as a dump shows it. --/
def optTexts : Option (List String) → Json
  | some xs => .arr (xs.map .str)
  | none => .null

/-- How the instruments a view selects are reported. --/
structure ViewStream where
  name : Option String
  description : Option String
  aggregation : Option ComponentRef
  attributeKeys : Option AttributeKeys
  deriving Inhabited

/-- The stream of a view that changes nothing. --/
def ViewStream.empty : ViewStream := ⟨none, none, none, none⟩

/-- Read a view stream. --/
def ViewStream.read : Json → Checked ViewStream :=
  readSection fun ms =>
    closed ms [["name"], ["description"], ["aggregation"], ["attribute_keys"]]
      (ViewStream.mk
        <$> optionalField ms ["name"] (readOptional readText) none
        <*> optionalField ms ["description"] (readOptional readText) none
        <*> optionalField ms ["aggregation"] (readOptional ComponentRef.read) none
        <*> optionalField ms ["attribute_keys"] (readOptional AttributeKeys.read) none)

/-- The stream as a dump shows it. --/
def ViewStream.toJson (s : ViewStream) : Json :=
  .obj [("name", optText s.name), ("description", optText s.description),
        ("aggregation", optRefJson s.aggregation),
        ("attribute_keys", match s.attributeKeys with
          | some k => .obj [("included", optTexts k.included), ("excluded", optTexts k.excluded)]
          | none => .null)]

/-- A view: which instruments, and how they are reported. --/
structure ViewSpec where
  selector : ViewSelector
  stream : ViewStream
  deriving Inhabited

/-- Read a view. --/
def ViewSpec.read : Json → Checked ViewSpec :=
  readSection fun ms =>
    closed ms [["selector"], ["stream"]]
      (ViewSpec.mk
        <$> optionalField ms ["selector"] ViewSelector.read ViewSelector.empty
        <*> optionalField ms ["stream"] ViewStream.read ViewStream.empty)

/-- The view as a dump shows it. --/
def ViewSpec.toJson (v : ViewSpec) : Json :=
  .obj [("selector", v.selector.toJson), ("stream", v.stream.toJson)]

/-- The exemplar filters a meter provider can use. --/
inductive ExemplarChoice where
  | traceBased
  | alwaysOn
  | alwaysOff
  deriving DecidableEq, Repr, Inhabited

namespace ExemplarChoice

/-- The filters by the names a document writes them with. --/
def table : List (String × ExemplarChoice) :=
  [("trace_based", .traceBased), ("always_on", .alwaysOn), ("always_off", .alwaysOff)]

/-- The name a document writes a filter with. --/
def name : ExemplarChoice → String
  | .traceBased => "trace_based"
  | .alwaysOn => "always_on"
  | .alwaysOff => "always_off"

/-- The class of the filter. --/
def className : ExemplarChoice → String
  | .traceBased => "TraceBasedExemplarFilter"
  | .alwaysOn => "AlwaysOnExemplarFilter"
  | .alwaysOff => "AlwaysOffExemplarFilter"

end ExemplarChoice

/-- The meter provider section. --/
structure MeterSection where
  readers : List ComponentRef
  views : List ViewSpec
  exemplarFilter : Option ExemplarChoice
  deriving Inhabited

/-- Read a meter provider section. --/
def MeterSection.read : Json → Checked MeterSection :=
  readSection fun ms =>
    closed ms [["readers"], ["views"], ["exemplar_filter"]]
      (MeterSection.mk
        <$> optionalField ms ["readers"] readRefs []
        <*> optionalField ms ["views"] (readList ViewSpec.read) []
        <*> optionalField ms ["exemplar_filter"] (readOptional (readChoice ExemplarChoice.table)) none)

/-- The meter provider section as a dump shows it. --/
def MeterSection.toJson (m : MeterSection) : Json :=
  .obj [("readers", refsJson m.readers), ("views", .arr (m.views.map ViewSpec.toJson)),
        ("exemplar_filter", optText (m.exemplarFilter.map ExemplarChoice.name))]

end Telemetry.Model
