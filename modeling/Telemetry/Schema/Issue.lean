import Telemetry.Json.Basic

/-!
What a failed check of a document says, and how checks combine. Reading a section of a document
does not stop at the first wrong field: every field is read, and the problems of all of them are
reported together, each with the path from the section to the value at fault. `Checked` is that
kind of result. Its `<*>` runs both sides and joins their problems, so a record read as
`mk <$> a <*> b <*> c` reports the problems of `a`, `b` and `c` in that order.
-/

namespace Telemetry.Schema

/-- One step of a path into a document: a key of a mapping or a position in a list. A mapping
key that is an integer is a step of its own, written as a number. --/
inductive Step where
  | key (k : String)
  | index (i : Nat)
  | number (i : Int)
  deriving DecidableEq, Repr

/-- What is wrong with a value. --/
inductive Problem where
  /-- A key that the section does not define. --/
  | extraForbidden
  /-- A key that is not text. --/
  | invalidKey
  /-- A required field without a value. --/
  | missing
  /-- A section given something other than a mapping. --/
  | modelType
  | dictType
  | listType
  | stringType
  | literalError
  | boolType
  | boolParsing
  | intType
  | intParsing
  | intParsingSize
  | intFromFloat
  | floatType
  | floatParsing
  | finiteNumber
  | greaterThan
  | greaterThanEqual
  | lessThan
  | lessThanEqual
  | callableType
  /-- A rule of the section itself was broken; the text says which. --/
  | valueError (msg : String)
  deriving DecidableEq, Repr

/-- The name a problem is reported under. --/
def Problem.code : Problem → String
  | .extraForbidden => "extra_forbidden"
  | .invalidKey => "invalid_key"
  | .missing => "missing"
  | .modelType => "model_type"
  | .dictType => "dict_type"
  | .listType => "list_type"
  | .stringType => "string_type"
  | .literalError => "literal_error"
  | .boolType => "bool_type"
  | .boolParsing => "bool_parsing"
  | .intType => "int_type"
  | .intParsing => "int_parsing"
  | .intParsingSize => "int_parsing_size"
  | .intFromFloat => "int_from_float"
  | .floatType => "float_type"
  | .floatParsing => "float_parsing"
  | .finiteNumber => "finite_number"
  | .greaterThan => "greater_than"
  | .greaterThanEqual => "greater_than_equal"
  | .lessThan => "less_than"
  | .lessThanEqual => "less_than_equal"
  | .callableType => "callable_type"
  | .valueError _ => "value_error"

/-- A problem and where it was found. --/
structure Issue where
  loc : List Step
  problem : Problem
  deriving DecidableEq, Repr

/-- An issue at the value itself. --/
def Issue.here (p : Problem) : Issue := ⟨[], p⟩

/-- The issue seen from one step further out. --/
def Issue.under (s : Step) (i : Issue) : Issue := ⟨s :: i.loc, i.problem⟩

/-- The result of checking a value: what it reads as, or every problem found in it. --/
inductive Checked (α : Type) where
  | ok (a : α)
  | failed (issues : List Issue)

namespace Checked

/-- Apply a function to the value read. --/
def map {α β : Type} (f : α → β) : Checked α → Checked β
  | .ok a => .ok (f a)
  | .failed is => .failed is

/-- Combine two checks, keeping the problems of both. --/
def seq {α β : Type} : Checked (α → β) → Checked α → Checked β
  | .ok f, .ok a => .ok (f a)
  | .ok _, .failed is => .failed is
  | .failed is, .ok _ => .failed is
  | .failed is, .failed js => .failed (is ++ js)

instance : Functor Checked where
  map := map

instance : Applicative Checked where
  pure := .ok
  seq f x := seq f (x ())

/-- Continue with a check that needs the value read; nothing runs after a failure. --/
def bind {α β : Type} : Checked α → (α → Checked β) → Checked β
  | .ok a, k => k a
  | .failed is, _ => .failed is

/-- The problems found, none for a success. --/
def issues {α : Type} : Checked α → List Issue
  | .ok _ => []
  | .failed is => is

/-- Add further problems; a success with more problems is a failure. --/
def alsoFailing {α : Type} (c : Checked α) : List Issue → Checked α
  | [] => c
  | more => .failed (c.issues ++ more)

/-- See every problem from one step further out. --/
def under {α : Type} (s : Step) : Checked α → Checked α
  | .ok a => .ok a
  | .failed is => .failed (is.map (Issue.under s))

/-- A failure with one problem at the value itself. --/
def fail {α : Type} (p : Problem) : Checked α := .failed [Issue.here p]

/-- Turn a check into a plain result. --/
def toExcept {α : Type} : Checked α → Except (List Issue) α
  | .ok a => .ok a
  | .failed is => .error is

@[simp] theorem seq_ok {α β : Type} (f : α → β) (a : α) : seq (.ok f) (.ok a) = .ok (f a) := rfl

@[simp] theorem issues_seq {α β : Type} (f : Checked (α → β)) (a : Checked α) :
    (seq f a).issues = f.issues ++ a.issues := by
  cases f <;> cases a <;> simp [seq, issues]

/-! ### What a success is made of -/

theorem seq_eq_ok {α β : Type} {f : Checked (α → β)} {x : Checked α} {y : β} (h : seq f x = .ok y) :
    ∃ g a, f = .ok g ∧ x = .ok a ∧ g a = y := by
  cases f <;> cases x <;> cases h
  exact ⟨_, _, rfl, rfl, rfl⟩

theorem map_eq_ok {α β : Type} {f : α → β} {x : Checked α} {y : β} (h : map f x = .ok y) :
    ∃ a, x = .ok a ∧ f a = y := by
  cases x <;> cases h
  exact ⟨_, rfl, rfl⟩

theorem alsoFailing_eq_ok {α : Type} {r : Checked α} {more : List Issue} {a : α}
    (h : r.alsoFailing more = .ok a) : r = .ok a := by
  cases more with
  | nil => exact h
  | cons _ _ => cases h

theorem under_eq_ok {α : Type} {r : Checked α} {st : Step} {a : α} (h : r.under st = .ok a) : r = .ok a := by
  cases r with
  | ok _ => exact h
  | failed _ => cases h

end Checked

end Telemetry.Schema
