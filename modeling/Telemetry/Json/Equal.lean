import Telemetry.Json.Basic
import Telemetry.Binary64.Basic

/-!
When two values are equal as a document's values are compared. Numbers are equal when they
stand for the same number, whatever their kind: `true` equals `1`, and `2` equals `2.0`; a float
that is not a number equals nothing. Texts are equal when they hold the same characters, lists
when their items are equal in order, and mappings when they have the same keys with equal values,
in any order. Values of different kinds are never equal otherwise.

A document reads every float that is not a number as one value, and two items of lists or
mappings are equal when they are that one value or equal values. So not a number never equals
itself, yet two lists of it are equal, and so are two mappings that hold it under the same key.

Keys, names and ids are found by the values they are, so the same value is the same key even
when it is not a number and equals nothing: `sameKey`.
-/

namespace Telemetry.Json

/-- Whether an integer and a float stand for the same number. --/
def intIsFloat (i : Int) (x : Float) : Bool := Binary64.toInt? x == some i

/-- The integer a boolean counts as. --/
def boolValue (b : Bool) : Int := if b then 1 else 0

/-- Whether a value is a float that is not a number. --/
def isNotANumber : Json → Bool
  | .float x => x != x
  | _ => false

mutual

/-- Whether two values are equal. --/
def sameValue : Json → Json → Bool
  | .null, .null => true
  | .bool a, .bool b => a == b
  | .bool a, .int j => boolValue a == j
  | .bool a, .float y => intIsFloat (boolValue a) y
  | .int i, .bool b => i == boolValue b
  | .int i, .int j => i == j
  | .int i, .float y => intIsFloat i y
  | .float x, .bool b => intIsFloat (boolValue b) x
  | .float x, .int j => intIsFloat j x
  | .float x, .float y => x == y
  | .str a, .str b => a == b
  | .arr xs, .arr ys => sameItems xs ys
  | .obj ms, .obj ns => ms.length == ns.length && sameMembers ms ns
  | _, _ => false

/-- Whether two lists have equal items in order; items that are both not a number are equal. --/
def sameItems : List Json → List Json → Bool
  | [], [] => true
  | x :: xs, y :: ys => (isNotANumber x && isNotANumber y || sameValue x y) && sameItems xs ys
  | _, _ => false

/-- Whether every member of the first mapping has an equal value under its key in `ns`; values
that are both not a number are equal. --/
def sameMembers : List (String × Json) → List (String × Json) → Bool
  | [], _ => true
  | (k, v) :: ms, ns =>
    (match Members.get? ns k with
     | some w => isNotANumber v && isNotANumber w || sameValue v w
     | none => false) && sameMembers ms ns

end

/-- Whether two values are the same key of a mapping, a name or an id: equal values, or both not
a number, since a document reads every such float as one value and a key is found by that value
before it is compared. --/
def sameKey (a b : Json) : Bool := sameValue a b || (isNotANumber a && isNotANumber b)

theorem sameValue_self_text (s : String) : sameValue (.str s) (.str s) = true := by
  simp [sameValue]

theorem sameKey_self_text (s : String) : sameKey (.str s) (.str s) = true := by
  simp [sameKey, sameValue]

end Telemetry.Json
