import Telemetry.Model.Component

/-!
The resource section of a document: attributes declared one by one with a type, attributes given
as one `key=value` list, a schema URL, and the resource detectors to run (under the key
`detection/development`).
-/

namespace Telemetry.Model

open Schema Checked

/-- The declared type of a resource attribute. --/
inductive AttributeType where
  | string
  | bool
  | int
  | double
  | stringArray
  | boolArray
  | intArray
  | doubleArray
  deriving DecidableEq, Repr, Inhabited

namespace AttributeType

/-- The types by the names a document writes them with. --/
def table : List (String × AttributeType) :=
  [("string", .string), ("bool", .bool), ("int", .int), ("double", .double),
   ("string_array", .stringArray), ("bool_array", .boolArray), ("int_array", .intArray),
   ("double_array", .doubleArray)]

/-- The name of a type. --/
def name : AttributeType → String
  | .string => "string"
  | .bool => "bool"
  | .int => "int"
  | .double => "double"
  | .stringArray => "string_array"
  | .boolArray => "bool_array"
  | .intArray => "int_array"
  | .doubleArray => "double_array"

/-- The element type of an array type; `none` for a scalar type. --/
def element? : AttributeType → Option AttributeType
  | .stringArray => some .string
  | .boolArray => some .bool
  | .intArray => some .int
  | .doubleArray => some .double
  | _ => none

end AttributeType

/-- One declared resource attribute. --/
structure AttributeEntry where
  name : String
  value : Json
  type : AttributeType
  deriving Inhabited

namespace AttributeEntry

/-- Read a declared attribute from the members of its mapping. --/
def ofMembers (ms : Members) : Checked AttributeEntry :=
  closed ms [["name"], ["value"], ["type"]]
    (AttributeEntry.mk
      <$> requiredField ms ["name"] readText
      <*> requiredField ms ["value"] ok
      <*> optionalField ms ["type"] (readChoice AttributeType.table) .string)

/-- Read a declared attribute. --/
def read : Json → Checked AttributeEntry := readSection ofMembers

/-- The attribute as a dump shows it. --/
def toJson (a : AttributeEntry) : Json :=
  .obj [("name", .str a.name), ("value", a.value), ("type", .str a.type.name)]

end AttributeEntry

/-- The resource detectors to run. --/
structure Detection where
  detectors : List ComponentRef
  deriving Inhabited

/-- Read a detection section. --/
def Detection.read : Json → Checked Detection :=
  readSection fun ms =>
    closed ms [["detectors"]]
      (Detection.mk <$> optionalField ms ["detectors"] (readList ComponentRef.read) [])

/-- The resource section of a document. --/
structure ResourceSection where
  attributes : List AttributeEntry
  attributesList : Option String
  schemaUrl : Option String
  detection : Option Detection
  deriving Inhabited

/-- The keys of the detection field: its alias, then its own name. --/
def detectionKeys : List String := ["detection/development", "detection"]

/-- Read a resource section. --/
def ResourceSection.read : Json → Checked ResourceSection :=
  readSection fun ms =>
    closed ms [["attributes"], ["attributes_list"], ["schema_url"], detectionKeys]
      (ResourceSection.mk
        <$> optionalField ms ["attributes"] (readList AttributeEntry.read) []
        <*> optionalField ms ["attributes_list"] (readOptional readText) none
        <*> optionalField ms ["schema_url"] (readOptional readText) none
        <*> optionalField ms detectionKeys (readOptional Detection.read) none)

/-- A text that may be unset, as a dump shows it. --/
def optText : Option String → Json
  | some s => .str s
  | none => .null

/-- The resource section as a dump shows it. --/
def ResourceSection.toJson (r : ResourceSection) : Json :=
  .obj [("attributes", .arr (r.attributes.map AttributeEntry.toJson)),
        ("attributes_list", optText r.attributesList),
        ("schema_url", optText r.schemaUrl),
        ("detection/development",
          match r.detection with
          | some d => .obj [("detectors", .arr (d.detectors.map ComponentRef.toJson))]
          | none => .null)]

end Telemetry.Model
