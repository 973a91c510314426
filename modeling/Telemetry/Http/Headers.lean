import Telemetry.Fault
import Telemetry.Json.Literal
import Telemetry.Text.Case
import Telemetry.Text.Blank
import Telemetry.Text.Order

/-!
The headers of an HTTP request. A header set compares names by their lower case: setting a name
that differs from one already there only in case replaces that header where it stood, and the set
remembers the name as it was last written. A header may be sent only if its name and value are
text, the name starts with neither a colon nor a blank and holds no colon or line break, and the
value is empty or starts with no blank and holds no line break, a final one included.

A header supplier answers with a mapping of names to values or with a list of name and value
pairs; `update` adds the answer to a set the way a mapping's update takes either.
-/

namespace Telemetry.Http

open Text

/-- The headers of a request: each under the lower case of its name, with the name as last set
and its value, in the order the names first arrived. --/
structure HeaderSet where
  entries : List (String × String × Json)
  deriving Inhabited

namespace HeaderSet

/-- The set without headers. --/
def empty : HeaderSet := ⟨[]⟩

/-- The lower-case names of a set, in order. --/
def keys (h : HeaderSet) : List String := h.entries.map (·.1)

/-- Set a header; one whose name has the same lower case is replaced where it stood. --/
def set (h : HeaderSet) (name : String) (v : Json) : HeaderSet :=
  let k := lower name
  if h.keys.contains k then ⟨h.entries.map fun e => if e.1 == k then (k, name, v) else e⟩
  else ⟨h.entries ++ [(k, name, v)]⟩

/-- Set headers in turn. --/
def setAll (h : HeaderSet) (hs : List (String × Json)) : HeaderSet :=
  hs.foldl (fun acc p => acc.set p.1 p.2) h

/-- The headers whose value is not null. --/
def dropNull (h : HeaderSet) : HeaderSet :=
  ⟨h.entries.filter fun e => match e.2.2 with
    | .null => false
    | _ => true⟩

/-- The headers as written: each name as last set, with its value. --/
def items (h : HeaderSet) : List (String × Json) := h.entries.map fun e => (e.2.1, e.2.2)

/-- The headers under their lower-case names, sorted by name, leaving out the names `hidden`. --/
def report (h : HeaderSet) (hidden : List String) : List (String × Json) :=
  sortByKey ((h.entries.filter fun e => !hidden.contains e.1).map fun e => (e.1, e.2.2))

theorem keys_set (h : HeaderSet) (name : String) (v : Json) :
    (h.set name v).keys = if h.keys.contains (lower name) then h.keys else h.keys ++ [lower name] := by
  unfold set keys
  by_cases hk : (h.entries.map (·.1)).contains (lower name) = true
  · rw [if_pos hk, if_pos hk, List.map_map]
    apply List.map_congr_left
    intro e _
    by_cases he : e.1 = lower name <;> simp [he]
  · rw [if_neg hk, if_neg hk]
    simp

theorem set_keys (h : HeaderSet) (name : String) (v : Json) (hn : h.keys.Nodup) :
    (h.set name v).keys.Nodup := by
  rw [keys_set]
  split
  · exact hn
  · rename_i hk
    rw [List.nodup_append]
    refine ⟨hn, by simp, ?_⟩
    intro a ha b hb hab
    simp only [List.mem_singleton] at hb
    subst hb hab
    exact hk (by simpa using ha)

/-! ### Validity -/

/-- Whether a header name may be sent. --/
def validName (s : String) : Bool :=
  match s.toList with
  | c :: rest => c != ':' && !isStripBlank c && rest.all (fun d => d != ':' && d != '\r' && d != '\n')
  | [] => false

/-- Whether a text header value may be sent. --/
def validValue (s : String) : Bool :=
  match s.toList with
  | c :: rest => !isStripBlank c && rest.all (fun d => d != '\r' && d != '\n')
  | [] => true

/-- The error of a name or value that may not be sent. --/
def unfit (part : String) (shown : String) : Failure :=
  ⟨.invalidHeader, "Invalid leading whitespace, reserved character(s), or return character(s) in header " ++
    part ++ ": " ++ shown⟩

/-- Check that a header may be sent: first its name, then its value. --/
def check (name : String) (v : Json) : Except Failure Unit :=
  if !validName name then .error (unfit "name" (Json.textLiteral name))
  else match v with
    | .str s => if validValue s then .ok () else .error (unfit "value" (Json.textLiteral s))
    | other => .error ⟨.invalidHeader, "Header part (" ++ Json.literal other ++ ") from (" ++
        Json.textLiteral name ++ ", " ++ Json.literal other ++ ") must be of type str or bytes, not <class '" ++
        other.kindName ++ "'>"⟩

/-! ### Supplied headers -/

/-- The error of unpacking `n` values into a name and a value. --/
def unpackError (n : Nat) : Failure :=
  if n < 2 then ⟨.valueError, "not enough values to unpack (expected 2, got " ++ toString n ++ ")"⟩
  else ⟨.valueError, "too many values to unpack (expected 2)"⟩

/-- The name and value an item of a list answer stands for: a list of two, a text of two
characters, or a mapping of two keys. --/
def pairOf : Json → Except Failure (Json × Json)
  | .arr [a, b] => .ok (a, b)
  | .arr xs => .error (unpackError xs.length)
  | .str s =>
    match s.toList with
    | [a, b] => .ok (.str (String.singleton a), .str (String.singleton b))
    | cs => .error (unpackError cs.length)
  | .obj [(a, _), (b, _)] => .ok (.str a, .str b)
  | .obj ms => .error (unpackError ms.length)
  | other => .error ⟨.typeError, "cannot unpack non-iterable " ++ other.kindName ++ " object"⟩

/-- Set a header whose name is any value; only a text has a lower case. --/
def setItem (h : HeaderSet) (name v : Json) : Except Failure HeaderSet :=
  match name with
  | .str s => .ok (h.set s v)
  | other => .error (Failure.noAttribute other.kindName "lower")

/-- Add a supplier's answer to a set. An answer that counts as false adds nothing; a mapping sets
its members; a list sets the pair each item stands for, in turn. A text is a sequence of single
characters, none of which is a pair. --/
def update (h : HeaderSet) (answer : Json) : Except Failure HeaderSet :=
  if !answer.truthy then .ok h
  else match answer with
    | .obj ms => .ok (h.setAll ms)
    | .arr xs => xs.foldlM (fun acc x => do
        let (k, v) ← pairOf x
        acc.setItem k v) h
    | .str _ => .error (unpackError 1)
    | other => .error ⟨.typeError, "'" ++ other.kindName ++ "' object is not iterable"⟩

theorem update_falsy (h : HeaderSet) (answer : Json) (ha : answer.truthy = false) :
    h.update answer = .ok h := by
  simp [update, ha]

end HeaderSet

end Telemetry.Http
