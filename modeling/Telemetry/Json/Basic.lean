/-!
JSON values as configuration documents carry them. Integers stay apart from floats, because a
document that writes `2.0` means something else than one that writes `2`, and the members of an
object keep the order they were written in. An object never holds a key twice: writing a key
again replaces its value where it first stood (`Members.insert`).
-/

namespace Telemetry

/-- A JSON value: integers are exact and kept apart from floats, object members keep their order. --/
inductive Json where
  | null
  | bool (b : Bool)
  | int (i : Int)
  | float (x : Float)
  | str (s : String)
  | arr (items : List Json)
  | obj (members : List (String × Json))
  deriving Inhabited

/-- The members of an object, in the order their keys were first written. --/
abbrev Members := List (String × Json)

namespace Members

/-- The value stored under `key`. --/
def get? (ms : Members) (key : String) : Option Json :=
  (ms.find? (fun m => m.1 == key)).map (·.2)

/-- Whether `key` has a member. --/
def contains (ms : Members) (key : String) : Bool :=
  ms.any (fun m => m.1 == key)

/-- Store `v` under `key`: an existing key keeps its place and takes the new value, a new key goes last. --/
def insert (ms : Members) (key : String) (v : Json) : Members :=
  if ms.contains key then ms.map (fun m => if m.1 == key then (key, v) else m) else ms ++ [(key, v)]

/-- The keys, in order. --/
def keys (ms : Members) : List String := ms.map (·.1)

/-- Build members from pairs written in order, later writes of a key replacing earlier ones. --/
def ofPairs (ps : List (String × Json)) : Members :=
  ps.foldl (fun acc p => acc.insert p.1 p.2) []

theorem get?_nil (key : String) : get? [] key = none := rfl

theorem mem_of_get? {ms : Members} {key : String} {v : Json} (h : get? ms key = some v) : (key, v) ∈ ms := by
  unfold get? at h
  obtain ⟨m, hm, rfl⟩ := Option.map_eq_some_iff.mp h
  have hk : m.1 = key := by simpa using List.find?_some hm
  rw [← hk]
  exact List.mem_of_find?_eq_some hm

end Members

namespace Json

/-- Whether a value counts as true where a document's value is tested as a condition: null, false,
zero, the empty text and empty containers do not. --/
def truthy : Json → Bool
  | .null => false
  | .bool b => b
  | .int i => i != 0
  | .float x => x != 0.0
  | .str s => !s.isEmpty
  | .arr xs => !xs.isEmpty
  | .obj ms => !ms.isEmpty

/-- The name of a value's kind, as error texts call it. --/
def kindName : Json → String
  | .null => "NoneType"
  | .bool _ => "bool"
  | .int _ => "int"
  | .float _ => "float"
  | .str _ => "str"
  | .arr _ => "list"
  | .obj _ => "dict"

/-- The member `key` of an object; nothing for other values. --/
def get? : Json → String → Option Json
  | .obj ms, key => Members.get? ms key
  | _, _ => none

/-- The members of an object. --/
def members? : Json → Option Members
  | .obj ms => some ms
  | _ => none

/-- The text of a string value. --/
def str? : Json → Option String
  | .str s => some s
  | _ => none

/-- The empty object. --/
def empty : Json := .obj []

@[simp] theorem truthy_null : truthy .null = false := rfl
@[simp] theorem kindName_obj (ms : Members) : kindName (.obj ms) = "dict" := rfl

end Json

end Telemetry
