import Telemetry.Pipeline.Attributes
import Telemetry.Json.Equal
import Telemetry.Text.Order

/-!
Resources: the attributes that describe the entity producing telemetry, with the URL of the
schema they follow.

Two of the values a resource can hold are known only to the running process: the instance id
chosen at random when the defaults are made, and what the process detector finds about the
process. They are kept as facts of their own, so a resource is a value that can be compared and
shown without the process; a later value under the same key replaces them like any other, except
a value equal to what the detector is known to find, which is that finding still.

Merging takes the attributes of both, the right-hand side winning on a shared key. An empty
schema URL gives way to the other one; two different non-empty ones cannot be merged, and the
left-hand resource is kept unchanged.
-/

namespace Telemetry.Pipeline

/-- The value of a resource attribute. --/
inductive Fact where
  /-- A value given by a document, a detector or the defaults. --/
  | value (v : Json)
  /-- The instance id chosen at random. --/
  | instanceId
  /-- What the process detector found. --/
  | process
  deriving Inhabited

/-- A fact as a report shows it: the process-only facts by a placeholder. --/
def Fact.toJson : Fact → Json
  | .value v => v
  | .instanceId => .str "<random>"
  | .process => .str "<process>"

/-- A resource: its attributes and the URL of their schema. --/
structure Resource where
  attributes : List (String × Fact)
  schemaUrl : Json
  deriving Inhabited

namespace Resource

/-- The resource with no attributes and no schema. --/
def empty : Resource := ⟨[], .str ""⟩

/-- Whether a schema URL is the empty one. --/
def noSchema : Json → Bool
  | .str "" => true
  | _ => false

/-- Whether two schema URLs are the same: equal as values, whatever their kind. --/
def sameSchema (a b : Json) : Bool := Json.sameValue a b

/-- What the process detector finds under a key whatever process runs: the name of the runtime
and of its executable. --/
def knownProcessText : String → Option String
  | "process.runtime.name" => some "cpython"
  | "process.executable.name" => some "python3"
  | _ => none

/-- The fact a key holds once `f` is set over `old`: a value equal to what the process detector
found is still that finding. --/
def settledFact (k : String) (old f : Fact) : Fact :=
  match old, f with
  | .process, .value (.str s) => if knownProcessText k == some s then .process else f
  | _, _ => f

/-- Set an attribute, keeping the place of a key that is already there. --/
def setFact (as : List (String × Fact)) (k : String) (f : Fact) : List (String × Fact) :=
  if as.any (·.1 == k) then as.map (fun a => if a.1 == k then (k, settledFact k a.2 f) else a)
  else as ++ [(k, f)]

/-- The attributes of `a` updated by those of `b`. --/
def updateFacts (a b : List (String × Fact)) : List (String × Fact) :=
  b.foldl (fun acc m => setFact acc m.1 m.2) a

/-- Merge `b` onto `a`. --/
def merge (a b : Resource) : Resource :=
  if noSchema a.schemaUrl then ⟨updateFacts a.attributes b.attributes, b.schemaUrl⟩
  else if noSchema b.schemaUrl then ⟨updateFacts a.attributes b.attributes, a.schemaUrl⟩
  else if sameSchema a.schemaUrl b.schemaUrl then ⟨updateFacts a.attributes b.attributes, b.schemaUrl⟩
  else a

/-- A resource made from attribute values: any value is taken, under a key that is not empty. --/
def ofValues (attrs : List (String × Json)) (schemaUrl : Json) : Resource :=
  ⟨(Bounds.resource.fill attrs).map (fun m => (m.1, .value m.2)), schemaUrl⟩

/-- The resource every assembly starts from: the name and version of the telemetry library, a
service name for an unnamed service, and the random instance id. --/
def defaults : Resource :=
  ⟨[("telemetry.sdk.language", .value (.str "python")),
    ("telemetry.sdk.name", .value (.str "opentelemetry")),
    ("telemetry.sdk.version", .value (.str "1.45.2")),
    ("service.name", .value (.str "unknown_service:python3")),
    ("service.instance.id", .instanceId)], .str ""⟩

/-- The keys the process detector fills. --/
def processKeys : List String :=
  ["process.runtime.description", "process.runtime.name", "process.runtime.version", "process.pid",
   "process.executable.name", "process.executable.path", "process.command", "process.parent_pid"]

/-- What the process detector finds. --/
def processFacts : Resource := ⟨processKeys.map (fun k => (k, .process)), .str ""⟩

/-- The resource as a report shows it: attributes sorted by key. --/
def toJson (r : Resource) : Json :=
  .obj [("attributes", .obj ((Text.sortByKey r.attributes).map (fun m => (m.1, m.2.toJson)))),
        ("schema_url", r.schemaUrl)]

theorem merge_empty_left (b : Resource) : (empty.merge b).attributes = updateFacts [] b.attributes := by
  simp [merge, empty, noSchema]

theorem merge_conflict (a b : Resource) (ha : noSchema a.schemaUrl = false)
    (hb : noSchema b.schemaUrl = false) (hs : sameSchema a.schemaUrl b.schemaUrl = false) :
    a.merge b = a := by
  simp [merge, ha, hb, hs]

end Resource

end Telemetry.Pipeline
