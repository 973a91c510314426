import Telemetry.Json.Equal
import Telemetry.Fault
import Telemetry.Sorting.Runs

/-!
Ordering the keys of a mapping the way a list of them is sorted. Texts are ordered by their
characters, and numbers (integers, floats and booleans, as `0` and `1`) by their exact values,
whatever their kinds; a float that is not a number is neither below nor above anything. Values of
other kinds have no order between them, and comparing them fails with a type error that names both
kinds, the left one first.

Keys are sorted by the adaptive merge sort of `Sorting.sortBy`, so the failure of a sort is the
failure of the first comparison that sort makes.
-/

namespace Telemetry.Json

/-! ### Numbers -/

/-- The value of a number exactly: an integer over a power of two, or an infinity, or no number. --/
inductive Exact where
  /-- The value `num / 2^shift`. --/
  | ratio (num : Int) (shift : Nat)
  | posInf
  | negInf
  | nan
  deriving Repr, DecidableEq

/-- The exact value of a float. --/
def Exact.ofFloat (x : Float) : Exact :=
  match Binary64.shape x with
  | .nan => .nan
  | .inf neg => if neg then .negInf else .posInf
  | .finite neg m e =>
    let signed (v : Nat) : Int := if neg then -(v : Int) else v
    if e ≥ 0 then .ratio (signed (m * Nat.pow 2 e.toNat)) 0 else .ratio (signed m) (-e).toNat

/-- Whether one exact value is strictly below another; nothing is below or above no number. --/
def Exact.below : Exact → Exact → Bool
  | .nan, _ | _, .nan => false
  | .negInf, b => b != .negInf
  | .posInf, _ => false
  | .ratio _ _, .posInf => true
  | .ratio _ _, .negInf => false
  | .ratio a s, .ratio b t => decide (a * (Int.pow 2 t) < b * (Int.pow 2 s))

/-- The exact value of a number; texts, lists, mappings and `null` have none. --/
def exactOf : Json → Option Exact
  | .bool b => some (.ratio (boolValue b) 0)
  | .int i => some (.ratio i 0)
  | .float x => some (Exact.ofFloat x)
  | _ => none

/-! ### Comparing -/

/-- The failure of comparing two values that have no order between them. --/
def unordered (a b : Json) : Failure :=
  ⟨.typeError, "'<' not supported between instances of '" ++ a.kindName ++ "' and '" ++ b.kindName ++ "'"⟩

/-- Whether `a` is strictly below `b`, or the failure of comparing them. --/
def precedes (a b : Json) : Except Failure Bool :=
  match a, b with
  | .str s, .str t => .ok (decide (s < t))
  | _, _ =>
    match exactOf a, exactOf b with
    | some x, some y => .ok (x.below y)
    | _, _ => .error (unordered a b)

/-! ### Sorting -/

/-- The keys in ascending order, or the failure of the first comparison that fails. --/
def sortKeys (keys : List Json) : Except Failure (List Json) := Sorting.sortBy precedes keys

theorem sortKeys_singleton (k : Json) : sortKeys [k] = .ok [k] :=
  Sorting.sortBy_short precedes [k] (by simp)

end Telemetry.Json
