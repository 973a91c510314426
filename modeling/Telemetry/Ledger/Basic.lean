import Telemetry.Fault

/-!
The resource ledger: the ordered record of everything acquired while assembling, so that it can
be released again, last acquired first.

A resource is recorded once, with the action that releases it and a name for messages; recording
it again changes nothing. A resource may be owned by another: an owner's release also releases
what it owns, so an owned resource is skipped once its owner has released cleanly, and is
released on its own when its owner failed or was never released. Releasing closes the ledger for
good, runs every action even when some fail, and gathers the failures into one error. A closed
ledger takes no new resources and releases nothing more.

The ledger is generic in the handles it records (`α`, compared with `==`) and in the release
actions (`ρ`), which the caller runs in a monad of its choice.
-/

namespace Telemetry

/-- A recorded resource: its handle, the action releasing it, its name, and its owner if any. --/
structure Entry (α ρ : Type) where
  handle : α
  action : ρ
  name : Json
  owner : Option α

/-- The ordered record of acquired resources. --/
structure Ledger (α ρ : Type) where
  entries : List (Entry α ρ)
  closed : Bool

namespace Ledger

variable {α ρ : Type} [BEq α]

/-- The ledger that holds nothing and is open. --/
def empty : Ledger α ρ := ⟨[], false⟩

/-- Whether a handle is recorded. --/
def tracks (l : Ledger α ρ) (h : α) : Bool := l.entries.any (·.handle == h)

/-- The names of the recorded resources, in acquisition order. --/
def names (l : Ledger α ρ) : List Json := l.entries.map (·.name)

/-- The number of recorded resources. --/
def size (l : Ledger α ρ) : Nat := l.entries.length

/-- The name a resource is recorded under: the given name, or its class when none that counts as
true is given. --/
def labelOf (name : Option Json) (cls : String) : Json :=
  match name with
  | some n => if n.truthy then n else .str cls
  | none => .str cls

/-- Record a resource. Without a release action it cannot be recorded; a closed ledger takes
nothing; a handle already recorded keeps its first record. --/
def acquire (l : Ledger α ρ) (h : α) (action : Option ρ) (cls : String) (label : Json) :
    Except Failure (Ledger α ρ) :=
  match action with
  | none => .error ⟨.typeError, cls ++ " has no shutdown() and no release action"⟩
  | some a =>
    if l.closed then
      .error ⟨.runtimeError, "Cannot acquire '" ++ Json.display label ++ "': ledger already released"⟩
    else if l.tracks h then .ok l
    else .ok { l with entries := l.entries ++ [⟨h, a, label, none⟩] }

/-- Record that `owner` owns `child`; ignored when they are the same or either is not recorded.
A later owner replaces an earlier one. --/
def adopt (l : Ledger α ρ) (child owner : α) : Ledger α ρ :=
  if child == owner then l
  else if l.tracks child && l.tracks owner then
    { l with entries := l.entries.map (fun e => if e.handle == child then { e with owner := some owner } else e) }
  else l

/-- Close the ledger, handing back what is to be released, last acquired first. A ledger that is
already closed hands back nothing. --/
def close (l : Ledger α ρ) : Ledger α ρ × Option (List (Entry α ρ)) :=
  if l.closed then (l, none) else (⟨[], true⟩, some l.entries.reverse)

/-- Whether the resource `h` was released cleanly, among those released so far. --/
def releasedCleanly (done : List (α × Bool)) (h : α) : Bool :=
  match done.find? (·.1 == h) with
  | some d => d.2
  | none => false

/-- Whether an entry is skipped, given those released so far: its owner released cleanly. --/
def skips (done : List (α × Bool)) (e : Entry α ρ) : Bool :=
  match e.owner with
  | some o => releasedCleanly done o
  | none => false

/-- Release entries in order, given which were released so far and whether cleanly; an entry
whose owner released cleanly is skipped. Returns the failures with the names of their entries. --/
def releaseEntries {m : Type → Type} [Monad m] (run : ρ → m (Option Failure)) :
    List (α × Bool) → List (Entry α ρ) → m (List (Json × Failure))
  | _, [] => pure []
  | done, e :: es => do
    if skips done e then releaseEntries run ((e.handle, true) :: done) es
    else
      match ← run e.action with
      | none => releaseEntries run ((e.handle, true) :: done) es
      | some f => do
        let rest ← releaseEntries run ((e.handle, false) :: done) es
        pure ((e.name, f) :: rest)

/-- The teardown error of a list of failures; none when nothing failed. --/
def failuresError : List (Json × Failure) → Option ReleaseError
  | [] => none
  | fs => some ⟨fs⟩

/-- Release everything recorded and close the ledger. --/
def releaseAll {m : Type → Type} [Monad m] (run : ρ → m (Option Failure)) (l : Ledger α ρ) :
    m (Ledger α ρ × Option ReleaseError) :=
  match l.close with
  | (l', none) => pure (l', none)
  | (l', some es) => do
    let fs ← releaseEntries run [] es
    pure (l', failuresError fs)

omit [BEq α] in
theorem names_empty : (empty : Ledger α ρ).names = [] := rfl

omit [BEq α] in
theorem close_closed (l : Ledger α ρ) : (l.close.1).closed = true := by
  unfold close
  split
  · next h => exact h
  · rfl

theorem acquire_closed_error (l : Ledger α ρ) (h : α) (a : ρ) (cls : String) (label : Json)
    (hc : l.closed = true) :
    l.acquire h (some a) cls label =
      .error ⟨.runtimeError, "Cannot acquire '" ++ Json.display label ++ "': ledger already released"⟩ := by
  simp [acquire, hc]

end Ledger

end Telemetry
