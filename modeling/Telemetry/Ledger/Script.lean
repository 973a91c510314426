import Telemetry.Ledger.Basic
import Telemetry.Json.Equal

/-!
Scripted resources: resources whose shutdown behaviour is fixed in advance, for running the ledger
through a sequence of steps and watching the order in which things are released. A resource is
named by an id, any value that can be a key, with ids compared as values. It is created the
first time a step mentions it and keeps its behaviour afterwards. Its shutdown, or the explicit
release action it was acquired with, appends an event and may then fail. A shutdown records the id
the resource was created with; an explicit action records the id its acquiring step wrote, which
may be another value equal to it, such as `1.0` for `1`.
-/

namespace Telemetry

/-- How a scripted resource can be shut down. --/
inductive ScriptedKind where
  /-- It has a shutdown that records its id and may fail. --/
  | closeable
  /-- It has no shutdown at all. --/
  | plain
  /-- It has a `shutdown` member that cannot be called. --/
  | nonCallable
  deriving DecidableEq, Repr, Inhabited

/-- The class name of a kind of scripted resource. --/
def ScriptedKind.cls : ScriptedKind → String
  | .closeable => "Closeable"
  | .plain => "Plain"
  | .nonCallable => "NonCallableShutdown"

/-- A scripted resource: its id, any value that can be a key, and its behaviour. --/
structure ScriptedResource where
  id : Json
  kind : ScriptedKind
  fails : Bool
  deriving Inhabited

/-- A release action of a scripted resource: its own shutdown, or an explicit action. --/
inductive ScriptedAction where
  | shutdown (id : Json) (fails : Bool)
  | explicit (id : Json) (fails : Bool)

/-- Run an action: the event it records and the failure it raises, if it fails. --/
def ScriptedAction.run : ScriptedAction → StateM (List Json) (Option Failure)
  | .shutdown id f => do
    modify (· ++ [id])
    pure (if f then some ⟨.runtimeError, Json.display id ++ " refused to shut down"⟩ else none)
  | .explicit id f => do
    let event := "release:" ++ Json.display id
    modify (· ++ [.str event])
    pure (if f then some ⟨.valueError, event ++ " failed"⟩ else none)

/-- The behaviour a step gives a resource it creates. --/
structure Behaviour where
  kind : ScriptedKind
  fails : Bool

/-- A step of a script. --/
inductive ScriptStep where
  /-- Acquire a resource, with its behaviour should this create it, a name, and an explicit
  release action that fails or not. --/
  | acquire (id : Json) (behaviour : Behaviour) (name : Option Json) (release : Option Bool)
  /-- Record that `owner` owns `id`; `id` takes the behaviour should this create it, and an owner
  this creates is closeable and does not fail. --/
  | adopt (id : Json) (behaviour : Behaviour) (owner : Json)
  | releaseAll
  | size
  /-- A step that cannot be read. --/
  | unreadable (f : Failure)

/-- What a step gave. --/
inductive ScriptOutcome where
  | acquired
  | adopted
  | released (r : Option ReleaseError)
  | size (n : Nat)
  | failed (f : Failure)

/-- The state of a script: the resources created so far, the ledger of their places in that list,
and the events so far. --/
structure Script where
  resources : List ScriptedResource
  ledger : Ledger Nat ScriptedAction
  events : List Json

namespace Script

/-- A script with nothing created, an empty ledger and no events. --/
def start : Script := ⟨[], Ledger.empty, []⟩

/-- The place of the resource with an id, created with the given behaviour on its first mention;
ids are compared as keys, and a list or a mapping cannot be an id. --/
def obtain (s : Script) (id : Json) (b : Behaviour) : Except Failure (Nat × Script) :=
  match id with
  | .arr _ => .error ⟨.typeError, "unhashable type: 'list'"⟩
  | .obj _ => .error ⟨.typeError, "unhashable type: 'dict'"⟩
  | _ =>
    match s.resources.findIdx? (fun r => Json.sameKey r.id id) with
    | some i => .ok (i, s)
    | none => .ok (s.resources.length, { s with resources := s.resources ++ [⟨id, b.kind, b.fails⟩] })

/-- The behaviour of an owner that a step creates. --/
def ownerBehaviour : Behaviour := ⟨.closeable, false⟩

/-- Run one step. --/
def step (s : Script) : ScriptStep → Script × ScriptOutcome
  | .acquire id b name release =>
    match s.obtain id b with
    | .error f => (s, .failed f)
    | .ok (i, s) =>
      let r := s.resources.getD i default
      let action := match release with
        | some f => some (ScriptedAction.explicit id f)
        | none => if r.kind == .closeable then some (ScriptedAction.shutdown r.id r.fails) else none
      match s.ledger.acquire i action r.kind.cls (Ledger.labelOf name r.kind.cls) with
      | .ok l => ({ s with ledger := l }, .acquired)
      | .error f => (s, .failed f)
  | .adopt id b owner =>
    match s.obtain id b with
    | .error f => (s, .failed f)
    | .ok (i, s) =>
      match s.obtain owner ownerBehaviour with
      | .error f => (s, .failed f)
      | .ok (o, s) => ({ s with ledger := s.ledger.adopt i o }, .adopted)
  | .releaseAll =>
    let ((l, r), events) := (s.ledger.releaseAll ScriptedAction.run).run s.events
    ({ s with ledger := l, events := events }, .released r)
  | .size => (s, .size s.ledger.size)
  | .unreadable f => (s, .failed f)

theorem step_size (s : Script) : (s.step .size).2 = .size s.ledger.size := rfl

end Script

end Telemetry
