import Telemetry.Components.Settings
import Telemetry.FileSystem
import Telemetry.Text.Order

/-!
What the built-in exporters are constructed with.

An exporter sending over HTTP takes its endpoint, its certificate files as paths, its constant
headers (none when there are none), its timeout in seconds and, when set, its compression. When
a program supplies headers, the exporter sends through a session that asks the supplier before
every request (see `Http.prepare`).

An exporter sending over gRPC reads its certificate files when a root certificate or a client
key is set, and takes the credentials made from them; a file that is missing or is a directory
fails the construction. A metric exporter also takes the temporality and the histogram
aggregation it prefers, per instrument class.
-/

namespace Telemetry.Components

open Pipeline

/-- Read a certificate file; an unset or empty path reads nothing. --/
def readCertificate (files : FileSystem) : Option String → Except Fault Unit
  | none => .ok ()
  | some p =>
    if p.isEmpty then .ok ()
    else
      match files.readError p with
      | none => .ok ()
      | some f => .error (.failure f)

/-- Whether an optional path is set to something. --/
def isSet : Option String → Bool
  | some p => !p.isEmpty
  | none => false

/-- The credentials of a gRPC exporter: none unless a root certificate or a client key is set;
otherwise the root certificate, the key and the certificate chain are read in that order. --/
def grpcCredentials (files : FileSystem) (o : OtlpSettings) : Except Fault Json := do
  if !(isSet o.certificateFile || isSet o.clientKeyFile) then return .null
  readCertificate files o.certificateFile
  readCertificate files o.clientKeyFile
  readCertificate files o.clientCertificateFile
  return objectView "ChannelCredentials"

/-- Constant headers as an exporter takes them: none when there are none. --/
def headersJson (hs : List (String × String)) : Json :=
  if hs.isEmpty then .null else .obj (hs.map (fun h => (h.1, .str h.2)))

/-- An optional float as a description shows it. --/
def optFloat : Option Float → Json
  | some x => .float x
  | none => .null

/-- The compression argument, when one is set. --/
def compressionArg (o : OtlpSettings) : Members :=
  match o.compression with
  | some c => [("compression", .str c.member)]
  | none => []

/-- The arguments of an exporter sending over HTTP; `session` when headers are supplied. --/
def httpKwargs (o : OtlpSettings) (session : Bool) : Except Fault Members := do
  let headers ← o.headerPairs
  let timeout ← o.timeoutSeconds
  pure ([("endpoint", optStr o.endpoint), ("certificate_file", optStr o.certificateFile),
         ("client_key_file", optStr o.clientKeyFile),
         ("client_certificate_file", optStr o.clientCertificateFile),
         ("headers", headersJson headers), ("timeout", optFloat timeout)] ++ compressionArg o ++
        (if session then [("session", objectView "Session")] else []))

/-- The arguments of an exporter sending over gRPC. --/
def grpcKwargs (files : FileSystem) (s : ExporterSettings) : Except Fault Members := do
  let o := s.otlp
  let credentials ← grpcCredentials files o
  let headers ← o.headerPairs
  let timeout ← o.timeoutSeconds
  pure ([("endpoint", optStr o.endpoint),
         ("insecure", match s.insecure with
           | some b => .bool b
           | none => .null),
         ("credentials", credentials), ("headers", headersJson headers), ("timeout", optFloat timeout)] ++
        compressionArg o)

/-! ### Metric preferences -/

/-- The instrument classes, in the order preferences list them. --/
def instrumentClasses : List String :=
  ["Counter", "UpDownCounter", "Histogram", "ObservableCounter", "ObservableUpDownCounter", "ObservableGauge"]

/-- Whether a preference reports an instrument class as deltas. --/
def Temporality.reportsDelta : Temporality → String → Bool
  | .cumulative, _ => false
  | .delta, c => c == "Counter" || c == "Histogram" || c == "ObservableCounter"
  | .lowMemory, c => c == "Counter" || c == "Histogram"

/-- The temporality of each instrument class under a preference. --/
def Temporality.perClass (t : Temporality) : Json :=
  .obj (instrumentClasses.map (fun c =>
    (c, .str (if t.reportsDelta c then "AggregationTemporality.DELTA" else "AggregationTemporality.CUMULATIVE"))))

/-- The aggregation a histogram choice stands for, as built with its defaults. --/
def HistogramChoice.aggregationView : HistogramChoice → Json
  | .explicitBuckets => newView "ExplicitBucketHistogramAggregation" [] []
  | .exponentialBuckets => newView "ExponentialBucketHistogramAggregation" [] []

/-- The arguments a metric exporter takes for its preferences; an unset one adds nothing. --/
def preferenceKwargs (p : MetricPreference) : Members :=
  (match p.temporality with
   | some t => [("preferred_temporality", t.perClass)]
   | none => []) ++
  (match p.histogram with
   | some h => [("preferred_aggregation", .obj [("Histogram", h.aggregationView)])]
   | none => [])

theorem grpcCredentials_unset (files : FileSystem) (o : OtlpSettings) (h1 : o.certificateFile = none)
    (h2 : o.clientKeyFile = none) : grpcCredentials files o = .ok .null := by
  simp [grpcCredentials, isSet, h1, h2, pure, Except.pure]

end Telemetry.Components
