import Telemetry.Components.Factory
import Telemetry.Pipeline.Lifecycle
import Telemetry.Model.Component

/-!
Resolving the stages of a pipeline, and the ledger steps that come with them.

A stage is a component reference resolved through the registry. Some configuration keys of a
stage name nested components (a processor's exporter, the delegates of a parent-based sampler):
when such a key holds a mapping it is read as a component reference and resolved first, depth
first, and the built component takes its place in the configuration. A nested component of the
stage's own extension point is resolved with the same nesting, others without.

Whatever has a shutdown is recorded on the ledger as soon as it is built, under its extension
point and name, and a stage owns the nested components of other extension points it was given.
Resolution recurses on the depth of the configuration, which every nested reference lowers.
-/

namespace Telemetry.Assembly

open Pipeline Components Model

/-- What an assembly resolves against: the registry of factories and the file system. --/
structure Context where
  registry : Registry Factory
  files : FileSystem

mutual

/-- How deep a value nests: 1 for a scalar, one more than its deepest item for a container. --/
def depth : Json → Nat
  | .arr xs => itemsDepth xs + 1
  | .obj ms => membersDepth ms + 1
  | _ => 1

/-- The depth of the deepest item of a list. --/
def itemsDepth : List Json → Nat
  | [] => 0
  | x :: xs => max (depth x) (itemsDepth xs)

/-- The depth of the deepest value of an object. --/
def membersDepth : List (String × Json) → Nat
  | [] => 0
  | (_, v) :: ms => max (depth v) (membersDepth ms)

end

theorem membersDepth_ge (k : String) (v : Json) :
    ∀ ms : List (String × Json), (k, v) ∈ ms → depth v ≤ membersDepth ms
  | [], h => by cases h
  | (k', v') :: ms, h => by
    simp only [membersDepth]
    cases h with
    | head => exact Nat.le_max_left _ _
    | tail _ h => exact Nat.le_trans (membersDepth_ge k v ms h) (Nat.le_max_right _ _)

theorem depth_lt_member (k : String) (v : Json) (ms : List (String × Json)) (h : (k, v) ∈ ms) :
    depth v < depth (.obj ms) := by
  simp only [depth]
  exact Nat.lt_succ_of_le (membersDepth_ge k v ms h)

/-! ### Ledger steps -/

/-- Whether a configuration value is a component with a shutdown. --/
def isCloseable (s : Slot) : Build Bool := do
  return (((← get).roleOf s).map Role.closeable).getD false

/-- Record a component on the ledger under a name. --/
def acquire (s : Slot) (name : String) : Build Unit := do
  match s with
  | .part id =>
    let b ← get
    match b.ledger.acquire id (if (((b.roleOf s).map Role.closeable).getD false) then some id else none)
        (b.className s) (.str name) with
    | .ok l => set { b with ledger := l }
    | .error f => throw (.failure f)
  | .data v => throw (.failure ⟨.typeError, v.kindName ++ " has no shutdown() and no release action"⟩)

/-- Record that `owner` owns `child`; plain data is never recorded, so it is ignored. --/
def adopt (child owner : Slot) : Build Unit := do
  match child, owner with
  | .part c, .part o => modify fun b => { b with ledger := b.ledger.adopt c o }
  | _, _ => pure ()

/-- The release action of a recorded component: shut it down, answering its failure if any. --/
def shutdownAction (id : PartId) : StateM Bench (Option Failure) := do
  match ← (shutdown id).run with
  | .ok _ => pure none
  | .error f => pure (some f)

/-- Release everything on the ledger, closing it, and answer the teardown error. --/
def releaseLedger : StateM Bench (Option ReleaseError) := do
  let l := (← get).ledger
  let (l', r) ← l.releaseAll shutdownAction
  modify fun b => { b with ledger := l' }
  pure r

/-! ### Stages -/

/-- Read a nested component reference. --/
def parseComponent (v : Json) (place : String) : Build ComponentRef :=
  match ComponentRef.read v with
  | .ok c => pure c
  | .failed is => throw (Fault.wrap ("Invalid component reference at " ++ place ++ ": ") (.invalid ⟨"ComponentSpec", is⟩))

/-- Record a stage built from a configuration, when it has a shutdown: on the ledger under its
extension point and name, and as the owner of the nested components of other extension points it
was given. --/
def recordStage (cap : Capability) (name : String) (nesting : List (String × Capability)) (config : Config)
    (inst : Slot) : Build Unit := do
  if ← isCloseable inst then
    acquire inst (cap.value ++ " '" ++ name ++ "'")
    for (key, nestedCap) in nesting do
      if nestedCap != cap then
        match config.get? key with
        | some s => adopt s inst
        | none => pure ()

/-- Resolve a stage, its nested components first; `fuel` is more than the depth of its
configuration. --/
def resolveStage (ctx : Context) : Nat → Capability → ComponentRef → List (String × Capability) → Build Slot
  | 0, _, c, _ => throw (.rejected ("Invalid component reference at " ++ c.name ++ ": nested too deeply"))
  | fuel + 1, cap, c, nesting => do
    let mut config := Config.ofMembers c.config
    for (key, nestedCap) in nesting do
      match Members.get? c.config key with
      | some (.obj ms) =>
        let nested ← parseComponent (.obj ms) (c.name ++ "." ++ key)
        let s ← resolveStage ctx fuel nestedCap nested (if nestedCap == cap then nesting else [])
        config := config.insert key s
      | _ => pure ()
    let inst ← resolve ctx.files ctx.registry cap c.name config
    recordStage cap c.name nesting config inst
    pure inst

/-- Resolve a stage with its nested components. --/
def resolveComponent (ctx : Context) (cap : Capability) (c : ComponentRef)
    (nesting : List (String × Capability)) : Build Slot :=
  resolveStage ctx (depth (.obj c.config) + 2) cap c nesting

end Telemetry.Assembly
