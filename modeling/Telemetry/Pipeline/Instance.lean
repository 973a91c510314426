import Telemetry.Capability
import Telemetry.Fault

/-!
The components an assembly builds, as values.

Every component built while assembling is kept on a bench and known by its place there, its
`PartId`. A component's configuration may hold plain data or components built before it; a
`Slot` is one of the two. Since a component only ever refers to components built before it,
every reference points to a smaller place, which is what lets shutdown and flushing walk the
references without fuel.

A component has a class name (the name messages give it), a description fixed when it is built,
and a role: what it does when it is shut down, flushed or handed a log record, together with the
state those steps change.
-/

namespace Telemetry.Pipeline

/-- The place of a component on the bench. --/
abbrev PartId := Nat

/-- A value in a component's configuration: plain data, or a component built before. --/
inductive Slot where
  | data (v : Json)
  | part (id : PartId)
  deriving Inhabited

/-- Whether a configuration value counts as set: a component always does. --/
def Slot.truthy : Slot → Bool
  | .data v => v.truthy
  | .part _ => true

/-- A configuration: its keys in order, each with plain data or a component. A key is a value;
the configuration of a document's section has texts for keys, and only one made from a list of
pairs can have others. --/
abbrev Config := List (Json × Slot)

/-- Whether a key is the text `k`. --/
def isTextKey (k : String) : Json → Bool
  | .str s => s == k
  | _ => false

/-- The configuration of plain data under text keys. --/
def Config.ofMembers (ms : Members) : Config := ms.map (fun m => (.str m.1, .data m.2))

/-- The configuration of plain data under any keys. --/
def Config.ofEntries (es : List (Json × Json)) : Config := es.map (fun e => (e.1, .data e.2))

/-- The entries under text keys, in order. --/
def Config.texts (c : Config) : List (String × Slot) :=
  c.filterMap fun m => match m.1 with
    | .str k => some (k, m.2)
    | _ => none

/-- The value under a text key of a configuration. --/
def Config.get? (c : Config) (k : String) : Option Slot :=
  (c.find? (fun m => isTextKey k m.1)).map (·.2)

/-- Store a value under a text key, keeping the place of a key that is already there. --/
def Config.insert (c : Config) (k : String) (s : Slot) : Config :=
  if c.any (fun m => isTextKey k m.1) then c.map (fun m => if isTextKey k m.1 then (.str k, s) else m)
  else c ++ [(.str k, s)]

/-- The configuration without a text key. --/
def Config.without (c : Config) (k : String) : Config := c.filter (fun m => !isTextKey k m.1)

/-- A log record as processors hand it on: its body and its attributes in order. --/
structure LogRecord where
  body : Json
  attributes : List (String × Json)
  deriving Inhabited

/-- What a scripted component answers when asked to flush. --/
inductive FlushAnswer where
  | answers (ok : Bool)
  | raises
  deriving Inhabited

/-- A component whose behaviour its configuration spells out, made to watch assembly and
teardown from outside. A closeable one records its label when it is first shut down and then
fails or passes the shutdown on to the exporter it holds; one that is not closeable has no
shutdown. Both answer a flush as their configuration says. --/
structure Scripted where
  cap : Capability
  closeable : Bool
  label : Json
  /-- The configuration without the label. --/
  config : Config
  failsShutdown : Bool
  flush : FlushAnswer
  /-- Whether its shutdown has run. --/
  done : Bool
  deriving Inhabited

/-- What a component does, with the state that doing it changes. --/
inductive Role where
  /-- An exporter sending elsewhere; shutting it down and flushing it succeed. A metric exporter
  also states its preferences. --/
  | remote (metric : Bool)
  /-- An exporter keeping spans in memory. --/
  | spanMemory (stopped : Bool)
  /-- An exporter keeping log records in memory, until they are taken. --/
  | logMemory (stopped : Bool) (finished : List LogRecord)
  /-- A metric reader keeping metrics in memory. --/
  | metricMemory
  /-- A processor exporting each record as it comes. --/
  | simple (exporter : Slot) (stopped : Bool)
  /-- A processor queueing records and exporting the queue when flushed or shut down. --/
  | batch (exporter : Slot) (stopped : Bool) (queue : List LogRecord)
  /-- A metric reader exporting at intervals. --/
  | periodic (exporter : Slot) (stopped : Bool)
  /-- A log processor bounding a record's attributes before handing it to its delegate. --/
  | limiting (delegate : PartId) (maxCount maxLength : Option Nat)
  | tracerProvider (processors : List PartId)
  | loggerProvider (processors : List PartId)
  | meterProvider (readers : List PartId) (stopped : Bool)
  /-- A sampler. --/
  | sampler
  /-- The detector of facts about the running process. --/
  | processDetector
  | scripted (s : Scripted)
  /-- Anything else: it only has a description. --/
  | inert
  deriving Inhabited

/-- A built component. --/
structure Instance where
  cls : String
  view : Json
  role : Role
  deriving Inhabited

namespace Role

/-- Whether a component has a shutdown. --/
def closeable : Role → Bool
  | .scripted s => s.closeable
  | .sampler | .processDetector | .inert => false
  | _ => true

/-- Whether a component is a sampler. --/
def isSampler : Role → Bool
  | .sampler => true
  | .scripted s => s.cap == .sampler
  | _ => false

/-- Whether a component is a metric reader. --/
def isReader : Role → Bool
  | .metricMemory | .periodic .. => true
  | _ => false

/-- Whether a component states the preferences a periodic reader takes from its exporter. --/
def statesPreferences : Role → Bool
  | .remote metric => metric
  | .scripted _ => true
  | _ => false

end Role

/-! ### Descriptions -/

/-- The description of an object built by a constructor call. --/
def newView (cls : String) (args : List Json) (kwargs : Members) : Json :=
  .obj [("new", .str cls), ("args", .arr args), ("kwargs", .obj kwargs)]

/-- The description of an object known only by its class. --/
def objectView (cls : String) : Json := .obj [("object", .str cls)]

/-- An optional integer as a description shows it. --/
def optInt : Option Int → Json
  | some i => .int i
  | none => .null

theorem closeable_scripted (s : Scripted) : (Role.scripted s).closeable = s.closeable := rfl

end Telemetry.Pipeline
