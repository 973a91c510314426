import Telemetry.Pipeline.Instance
import Telemetry.Ledger.Basic

/-!
The bench an assembly works on: every component built so far, in the order they were built, the
ledger that will release them, and the labels scripted components recorded as they were shut
down. Steps that can fail run in `Act`, whose errors are ordinary failures, and assembly steps in
`Build`, whose errors are faults; in both, what a step changed before failing stays changed.
-/

namespace Telemetry.Pipeline

/-- Every component built so far, the ledger releasing them, and the labels recorded. --/
structure Bench where
  parts : List Instance
  ledger : Ledger PartId PartId
  events : List Json

/-- A step on the bench that may raise an ordinary failure. --/
abbrev Act := ExceptT Failure (StateM Bench)

/-- An assembly step on the bench that may raise a fault. --/
abbrev Build := ExceptT Fault (StateM Bench)

namespace Bench

/-- The bench before anything is built. --/
def start : Bench := ⟨[], Ledger.empty, []⟩

instance : Inhabited Bench := ⟨start⟩

/-- The component at a place. --/
def part? (b : Bench) (id : PartId) : Option Instance := b.parts[id]?

/-- Put a component on the bench at the next place. --/
def add (b : Bench) (p : Instance) : Bench × PartId := ({ b with parts := b.parts ++ [p] }, b.parts.length)

/-- Give the component at a place a new role. --/
def setRole (b : Bench) (id : PartId) (r : Role) : Bench :=
  { b with parts := b.parts.modify id (fun p => { p with role := r }) }

/-- The description of a configuration value. --/
def describe (b : Bench) : Slot → Json
  | .data v => v
  | .part id => ((b.part? id).map (·.view)).getD .null

/-- The description of a configuration: each key as its text, in the order written, with the
description of its value. Keys that read alike, such as `1` and `"1"`, share the entry of the first
with the value of the last. --/
def describeConfig (b : Bench) (c : Config) : Json :=
  .obj (c.foldl (fun acc m => Members.insert acc (Json.display m.1) (b.describe m.2)) [])

/-- The class name of a configuration value, as a message names its type. --/
def className (b : Bench) : Slot → String
  | .data v => v.kindName
  | .part id => ((b.part? id).map (·.cls)).getD "object"

/-- The role of a configuration value; plain data has none. --/
def roleOf (b : Bench) : Slot → Option Role
  | .data _ => none
  | .part id => (b.part? id).map (·.role)

theorem statePure_apply {σ α : Type} {m : Type → Type} [Monad m] (a : α) (s : σ) :
    (StateT.pure a : StateT σ m α) s = pure (a, s) := rfl

theorem part?_add (b : Bench) (p : Instance) : (b.add p).1.part? (b.add p).2 = some p := by
  simp [add, part?]

end Bench

/-- Put a component on the bench. --/
def addPart {ε : Type} (cls : String) (view : Json) (role : Role) : ExceptT ε (StateM Bench) PartId :=
  modifyGet fun b => let (b', id) := b.add ⟨cls, view, role⟩; (id, b')

/-- Give a component a new role. --/
def setRole {ε : Type} (id : PartId) (r : Role) : ExceptT ε (StateM Bench) Unit :=
  modify fun b => b.setRole id r

/-- Record the label of a component being shut down. --/
def recordEvent {ε : Type} (label : Json) : ExceptT ε (StateM Bench) Unit :=
  modify fun b => { b with events := b.events ++ [label] }

/-- The description of a configuration value. --/
def describeSlot {ε : Type} (s : Slot) : ExceptT ε (StateM Bench) Json := do
  return (← get).describe s

/-- A failure as a fault. --/
def Act.toBuild {α : Type} (a : Act α) : Build α :=
  ExceptT.adapt Fault.failure a

/-- A result or its fault as an assembly step. --/
def Build.ofExcept {α : Type} : Except Fault α → Build α
  | .ok a => pure a
  | .error e => throw e

end Telemetry.Pipeline
