import Telemetry.Schema.Record
import Telemetry.Json.Literal
import Telemetry.Text.Order

/-!
References to pluggable components. In a document a component is written as a mapping with one
key, the component's name, whose value is the component's configuration:

    processors:
      - batch:
          schedule_delay: 500
          exporter:
            otlp_http: {}

A mapping whose `name` is a text and which has no keys besides `name` and `config` is read as the
explicit form `{name, config}` instead, so a reference can be written back and read again. A
configuration that counts as false (`null`, `0`, `""`, `[]`) is the empty configuration; any other
configuration must be a mapping.
-/

namespace Telemetry.Model

open Schema Checked

/-- A component named in a document, with its configuration. --/
structure ComponentRef where
  name : String
  config : Members
  deriving Inhabited

namespace ComponentRef

/-- The problem of a mapping that is neither form of a reference. --/
def shapeMessage (keys : List String) : String :=
  "A component must be a mapping with exactly one key naming it, got keys " ++
    Json.namesLiteral (Text.sortTexts keys)

/-- A reference from its name and its configuration as written. --/
def ofParts (name : String) (config : Json) : Checked ComponentRef :=
  if config.truthy then (ComponentRef.mk name <$> (readMapping config).under (.key "config"))
  else ok ⟨name, []⟩

/-- Whether a mapping is written in the explicit form `{name, config}`. --/
def explicitName? (ms : Members) : Option String :=
  match Members.get? ms "name" with
  | some (.str n) => if ms.all (fun m => m.1 == "name" || m.1 == "config") then some n else none
  | _ => none

/-- Read a component reference. --/
def read : Json → Checked ComponentRef
  | .obj ms =>
    match explicitName? ms with
    | some n => ofParts n ((Members.get? ms "config").getD .null)
    | none =>
      match ms with
      | [(k, c)] => ofParts k c
      | _ => fail (.valueError (shapeMessage (ms.map (·.1))))
  | _ => fail .modelType

/-- The reference as a section of a dump: its name and its configuration. --/
def toJson (c : ComponentRef) : Json :=
  .obj [("name", .str c.name), ("config", .obj c.config)]

/-- The reference written back in the one-key form. --/
def toDocument (c : ComponentRef) : Json :=
  .obj [(c.name, .obj c.config)]

/-- A reference by name alone, with the empty configuration. --/
def named (name : String) : ComponentRef := ⟨name, []⟩

theorem read_single (k : String) (ms : Members) (h : explicitName? [(k, .obj ms)] = none) (hm : ms ≠ []) :
    read (.obj [(k, .obj ms)]) = .ok ⟨k, ms⟩ := by
  simp only [read, h, ofParts]
  have : (Json.obj ms).truthy = true := by
    cases ms with
    | nil => exact absurd rfl hm
    | cons m rest => rfl
  simp [this, readMapping, Checked.under, Functor.map, Checked.map]

end ComponentRef

end Telemetry.Model
