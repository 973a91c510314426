import Telemetry.Model.Resource
import Telemetry.Fault
import Telemetry.Binary64.Basic

/-!
Checking a declared resource attribute against its type. A `string` attribute takes only text and
a `bool` attribute only a boolean. An `int` attribute takes an integer but never a boolean, and a
`double` attribute takes a float or an integer, never a boolean, and holds it as a float; an
integer beyond every double cannot be held. An array type takes a list whose every item has the
element type.
-/

namespace Telemetry.Model

/-- The error of an attribute whose value does not have its declared type. --/
def typeMismatch (name typeName : String) (v : Json) : Fault :=
  .rejected ("Resource attribute '" ++ name ++ "' is declared " ++ typeName ++ " but has value " ++
    Json.literal v)

/-- The error of converting an integer beyond every double. --/
def tooLargeForFloat : Fault := .failure ⟨.overflowError, "int too large to convert to float"⟩

/-- Check one value against a scalar type. --/
def coerceScalar (name : String) (t : AttributeType) (v : Json) : Except Fault Json :=
  match t, v with
  | .string, .str s => .ok (.str s)
  | .bool, .bool b => .ok (.bool b)
  | .int, .int i => .ok (.int i)
  | .double, .float x => .ok (.float x)
  | .double, .int i =>
    match Binary64.ofInt? i with
    | some x => .ok (.float x)
    | none => .error tooLargeForFloat
  | t, v => .error (typeMismatch name t.name v)

/-- Check every item of a list against a scalar type. --/
def coerceItems (name : String) (t : AttributeType) : List Json → Except Fault (List Json)
  | [] => .ok []
  | x :: xs => do
    let y ← coerceScalar name t x
    let ys ← coerceItems name t xs
    pure (y :: ys)

/-- Check a declared attribute against its type, giving the value it holds. --/
def coerceAttribute (a : AttributeEntry) : Except Fault Json :=
  match a.type.element? with
  | some t =>
    match a.value with
    | .arr xs => (coerceItems a.name t xs).map Json.arr
    | v => .error (typeMismatch a.name a.type.name v)
  | none => coerceScalar a.name a.type a.value

theorem coerceScalar_string (name : String) (s : String) :
    coerceScalar name .string (.str s) = .ok (.str s) := rfl

end Telemetry.Model
