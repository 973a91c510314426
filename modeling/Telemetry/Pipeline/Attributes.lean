import Telemetry.Json.Basic

/-!
Attribute values and the bounded collections that hold them.

A plain attribute value is a scalar (a boolean, an integer, a float or a text) or a list of
scalars of one kind, where `null` may stand in any place of the list. Log records take any
value: `null`, mappings, whose members are cleaned in turn, and lists of values of any kinds. A
plain value that does not fit is refused, and so is a key that is empty. Texts, also those
inside lists and mappings, are cut to the length bound when there is one.

A bounded collection keeps its members in the order they were last set: setting a key again
moves it to the end, and a collection at its count bound drops its oldest member to make room.
A count bound of zero keeps nothing.
-/

namespace Telemetry.Pipeline

/-- The kind of a value, as the rule that a list holds one kind compares them; `null` and the
containers are kinds of their own. --/
def kindTag : Json → Nat
  | .null => 0
  | .bool _ => 1
  | .int _ => 2
  | .float _ => 3
  | .str _ => 4
  | .arr _ => 5
  | .obj _ => 6

/-- Whether a value is a scalar. --/
def isScalar (v : Json) : Bool := kindTag v ∈ [1, 2, 3, 4]

/-- Cut a text to at most `maxLen` characters; other values are unchanged. --/
def clip (maxLen : Option Nat) : Json → Json
  | .str s =>
    match maxLen with
    | some n => .str (String.ofList (s.toList.take n))
    | none => .str s
  | v => v

/-- The items of a plain list value, each cut, as long as every item that is not `null` is a
scalar of the kind of the first one (`kind`, once it is known). --/
def plainItems (maxLen : Option Nat) : Option Nat → List Json → Option (List Json)
  | _, [] => some []
  | kind, x :: xs =>
    match x with
    | .null => (plainItems maxLen kind xs).map (Json.null :: ·)
    | _ =>
      if !isScalar x then none
      else
        match kind with
        | some k =>
          if k == kindTag x then (plainItems maxLen kind xs).map (clip maxLen x :: ·) else none
        | none => (plainItems maxLen (some (kindTag x)) xs).map (clip maxLen x :: ·)

/-- A value as a plain attribute takes it, or nothing when it is refused. --/
def cleanPlain (maxLen : Option Nat) : Json → Option Json
  | .arr xs => (plainItems maxLen none xs).map .arr
  | v => if isScalar v then some (clip maxLen v) else none

mutual

/-- A value as an extended attribute takes it: any value, with the texts inside it cut and the
members with an empty key left out of the mappings inside it. --/
def cleanExtended (maxLen : Option Nat) : Json → Json
  | .obj ms => .obj (extendedMembers maxLen ms)
  | .arr xs => .arr (extendedItems maxLen xs)
  | v => clip maxLen v

/-- The members of an extended mapping: empty keys are dropped, values are cleaned. --/
def extendedMembers (maxLen : Option Nat) : List (String × Json) → List (String × Json)
  | [] => []
  | (k, v) :: ms =>
    if k.isEmpty then extendedMembers maxLen ms
    else (k, cleanExtended maxLen v) :: extendedMembers maxLen ms

/-- The items of an extended list, each cleaned; the items may be of different kinds. --/
def extendedItems (maxLen : Option Nat) : List Json → List Json
  | [] => []
  | x :: xs => cleanExtended maxLen x :: extendedItems maxLen xs

end

/-- The bounds and the cleaning rule of an attribute collection. --/
structure Bounds where
  /-- At most this many members. --/
  maxCount : Option Nat
  /-- Texts cut to at most this many characters. --/
  maxLength : Option Nat
  /-- Whether extended values are taken. --/
  extended : Bool
  deriving Inhabited

namespace Bounds

/-- The value a collection stores for a key, or nothing when key or value is refused. --/
def clean (b : Bounds) (key : String) (v : Json) : Option Json :=
  if key.isEmpty then none
  else if b.extended then some (cleanExtended b.maxLength v)
  else cleanPlain b.maxLength v

/-- Set a key of a collection. --/
def put (b : Bounds) (d : List (String × Json)) (key : String) (v : Json) : List (String × Json) :=
  if b.maxCount == some 0 then d
  else
    match b.clean key v with
    | none => d
    | some c =>
      if d.any (·.1 == key) then d.filter (·.1 != key) ++ [(key, c)]
      else if b.maxCount == some d.length then d.drop 1 ++ [(key, c)]
      else d ++ [(key, c)]

/-- The collection holding the given members, set in order. --/
def fill (b : Bounds) (ms : List (String × Json)) : List (String × Json) :=
  ms.foldl (fun d m => b.put d m.1 m.2) []

/-- The bounds of a log record's attributes: at most 128, extended values, no length bound. --/
def logRecord : Bounds := ⟨some 128, none, true⟩

/-- The bounds of a resource's attributes: extended values, no bound. --/
def resource : Bounds := ⟨none, none, true⟩

theorem put_zero (b : Bounds) (d : List (String × Json)) (key : String) (v : Json)
    (h : b.maxCount = some 0) : b.put d key v = d := by
  simp [put, h]

theorem fill_zero (b : Bounds) (ms : List (String × Json)) (h : b.maxCount = some 0) :
    b.fill ms = [] := by
  unfold fill
  suffices ∀ d : List (String × Json), ms.foldl (fun d m => b.put d m.1 m.2) d = d by
    exact this []
  induction ms with
  | nil => intro d; rfl
  | cons m ms ih =>
    intro d
    simp only [List.foldl_cons]
    rw [put_zero b d m.1 m.2 h]
    exact ih d

end Bounds

theorem clip_unbounded (v : Json) : clip none v = v := by
  cases v <;> rfl

end Telemetry.Pipeline
