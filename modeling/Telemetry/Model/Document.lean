import Telemetry.Model.Propagation
import Telemetry.Model.Resource
import Telemetry.Model.Limits
import Telemetry.Model.Signals
import Telemetry.Fault

/-!
The configuration document. It arrives already parsed, as a mapping, and is read once into this
structure. The declared file format is kept as written: judging it is the version gate's task, not
the reader's. Sections this assembler does not know are kept aside, in the order they were
written, and never assembled; every section it does know rejects keys it does not define.
-/

namespace Telemetry.Model

open Schema Checked

/-- A configuration document. --/
structure Document where
  fileFormat : Json
  disabled : Option Bool
  propagator : Option PropagatorSection
  resource : Option ResourceSection
  attributeLimits : Option AttributeLimits
  loggerProvider : Option LoggerSection
  tracerProvider : Option TracerSection
  meterProvider : Option MeterSection
  /-- The sections this assembler does not know, as written. --/
  extra : Members
  deriving Inhabited

namespace Document

/-- The keys of the sections this assembler knows, in order. --/
def knownKeys : List String :=
  ["file_format", "disabled", "propagator", "resource", "attribute_limits", "logger_provider",
   "tracer_provider", "meter_provider"]

/-- Read a document from the members of its mapping. --/
def ofMembers (ms : Members) : Checked Document :=
  let extra := ms.filter (fun m => !knownKeys.contains m.1)
  (fun f d p r a l t m => Document.mk f d p r a l t m extra)
    <$> optionalField ms ["file_format"] ok .null
    <*> optionalField ms ["disabled"] (readOptional readBool) none
    <*> optionalField ms ["propagator"] (readOptional PropagatorSection.read) none
    <*> optionalField ms ["resource"] (readOptional ResourceSection.read) none
    <*> optionalField ms ["attribute_limits"] (readOptional AttributeLimits.read) none
    <*> optionalField ms ["logger_provider"] (readOptional LoggerSection.read) none
    <*> optionalField ms ["tracer_provider"] (readOptional TracerSection.read) none
    <*> optionalField ms ["meter_provider"] (readOptional MeterSection.read) none

/-- The name of a document value's kind, for the error about a document that is no mapping. --/
def kindOf (v : Json) : String := v.kindName

/-- Read a parsed document, or say why it does not fit. --/
def parse (v : Json) : Except Fault Document :=
  match v with
  | .obj ms =>
    match ofMembers ms with
    | .ok d => .ok d
    | .failed is =>
      .error (.documentParse ("Invalid configuration document: " ++ toString is.length ++
        " error(s)\n<ValidationError>") (.invalid ⟨"ConfigurationDocument", is⟩) none)
  | other =>
    .error (.documentParse ("Configuration document must be a mapping, got " ++ kindOf other) .none none)

/-- An optional section as a dump shows it. --/
def optSection {α : Type} (f : α → Json) : Option α → Json
  | some a => f a
  | none => .null

/-- The document as a dump shows it: every section, then the unknown ones. --/
def toJson (d : Document) : Json :=
  .obj ([("file_format", d.fileFormat),
         ("disabled", match d.disabled with | some b => .bool b | none => .null),
         ("propagator", optSection PropagatorSection.toJson d.propagator),
         ("resource", optSection ResourceSection.toJson d.resource),
         ("attribute_limits", optSection (fun l => boundsJson l.entries) d.attributeLimits),
         ("logger_provider", optSection LoggerSection.toJson d.loggerProvider),
         ("tracer_provider", optSection TracerSection.toJson d.tracerProvider),
         ("meter_provider", optSection MeterSection.toJson d.meterProvider)] ++ d.extra)

/-- The keys of the unknown sections, in increasing order. --/
def extraKeys (d : Document) : List String := Text.sortTexts (d.extra.map (·.1))

end Document

end Telemetry.Model
