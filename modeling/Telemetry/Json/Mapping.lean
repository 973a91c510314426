import Telemetry.Fault
import Telemetry.Json.Write
import Telemetry.Json.Equal

/-!
The mapping a value stands for when a mapping is asked of it. A value that does not count as true
stands for the empty mapping, and a mapping for itself. A list stands for the mapping of its
items, each a pair of a key and a value: a list of two, a text of two characters, or a mapping of
two keys. A later pair under a key already set replaces its value in place. Anything else has no
mapping, and the failure says which item, if any, is at fault.

Keys are values: texts, numbers, booleans and `null`. Two keys are the same key when they are
equal values (`1`, `1.0` and `true` are one key), and the key first written stays. Not a number is
the same key as itself, since a document reads every such float as one value. A list or a mapping
cannot be a key.
-/

namespace Telemetry.Json

/-- The failure of an item that is a sequence of the wrong length. --/
def pairLengthFailure (i n : Nat) : Failure :=
  ⟨.valueError, "dictionary update sequence element #" ++ toString i ++ " has length " ++ toString n ++
    "; 2 is required"⟩

/-- The key and value an item of a list stands for. --/
def pairAt (i : Nat) : Json → Except Failure (Json × Json)
  | .arr [k, v] => .ok (k, v)
  | .arr xs => .error (pairLengthFailure i xs.length)
  | .str s =>
    match s.toList with
    | [a, b] => .ok (.str (String.singleton a), .str (String.singleton b))
    | cs => .error (pairLengthFailure i cs.length)
  | .obj [(a, _), (b, _)] => .ok (.str a, .str b)
  | .obj ms => .error (pairLengthFailure i ms.length)
  | _ => .error ⟨.typeError, "cannot convert dictionary update sequence element #" ++ toString i ++
      " to a sequence"⟩

/-- A mapping keyed by values: each key, in the order first written, with its value. --/
abbrev Entries := List (Json × Json)

/-- Store a value under a key: in place of the value of the same key, whose first writing stays,
or after every other key. --/
def Entries.put (es : Entries) (k v : Json) : Entries :=
  if es.any (fun e => sameKey e.1 k) then es.map (fun e => if sameKey e.1 k then (e.1, v) else e)
  else es ++ [(k, v)]

/-- The entries of a mapping whose keys are texts. --/
def Entries.ofMembers (ms : Members) : Entries := ms.map (fun m => (.str m.1, m.2))

/-- Refuse a key that cannot be one: a list or a mapping. --/
def checkKey : Json → Except Failure Json
  | .arr _ => .error ⟨.typeError, "unhashable type: 'list'"⟩
  | .obj _ => .error ⟨.typeError, "unhashable type: 'dict'"⟩
  | k => .ok k

/-- The mapping of the items from the `i`-th on, added to `acc`. --/
def pairsFrom (acc : Entries) : Nat → List Json → Except Failure Entries
  | _, [] => .ok acc
  | i, x :: xs => do
    let (k, v) ← pairAt i x
    let key ← checkKey k
    pairsFrom (acc.put key v) (i + 1) xs

/-- The mapping a value stands for. --/
def mappingOf (v : Json) : Except Failure Entries :=
  if !v.truthy then .ok []
  else match v with
    | .obj ms => .ok (Entries.ofMembers ms)
    | .arr xs => pairsFrom [] 0 xs
    | .str _ => .error (pairLengthFailure 0 1)
    | other => .error ⟨.typeError, "'" ++ other.kindName ++ "' object is not iterable"⟩

theorem mappingOf_falsy (v : Json) (h : v.truthy = false) : mappingOf v = .ok [] := by
  simp [mappingOf, h]

end Telemetry.Json
