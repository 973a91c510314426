import Telemetry.Assembly.Signal
import Telemetry.Pipeline.Lifecycle
import Telemetry.Pipeline.Resource

/-!
An assembled runtime: the propagator, the shared resource and the three providers built from one
document, with the ledger of everything built that has a shutdown.

Shutting the runtime down releases the ledger, last acquired first, and only the first time;
afterwards the runtime counts as shut down. Flushing flushes every provider that can be flushed,
logging first, then tracing, then metering, and answers whether all of them were; a provider that
answers no or fails makes the answer no, and a runtime that is shut down is never flushed. The
timeout of a flush is the one given, or the runtime's default when none is given; one that is not
a number cannot be waited for, and one below zero has passed already.

A log record is emitted through the logger provider, which a provider that does nothing drops;
the provider is flushed while the runtime is live, which fails for a provider that does nothing,
and the records every in-memory log exporter holds are then taken, in the order the exporters
were built.
-/

namespace Telemetry.Assembly

open Pipeline

/-- A runtime: the description of its propagator, its resource, the places of its providers, and
the timeout its flushes default to. --/
structure Runtime where
  propagator : Json
  resource : Resource
  logging : PartId
  tracing : PartId
  metering : PartId
  flushTimeout : Json
  deriving Inhabited

/-- What can be done with a runtime. --/
inductive Request where
  | shutdown
  | forceFlush (timeout : Json)
  | repr
  /-- Use the runtime as a context, which shuts it down on leaving. --/
  | context
  | emitLog (body : Json) (attributes : Members)
  deriving Inhabited

/-- What a request answers. --/
inductive Response where
  | released (error : Option ReleaseError) (isShutdown : Bool)
  | flushed (ok : Bool)
  | shown (text : String)
  | entered (sameObject isShutdown : Bool)
  | exported (records : List LogRecord)
  | failed (f : Failure)
  deriving Inhabited

/-- The deadline a flush timeout sets. --/
def deadlineOf : Json → Deadline
  | .int i => if i < 0 then .over else .ahead
  | .float x => if x < 0.0 then .over else .ahead
  | .str _ => .unusable ⟨.typeError, "unsupported operand type(s) for +: 'int' and 'str'"⟩
  | .arr _ => .unusable ⟨.typeError, "unsupported operand type(s) for +: 'int' and 'list'"⟩
  | .obj _ => .unusable ⟨.typeError, "unsupported operand type(s) for *: 'dict' and 'int'"⟩
  | _ => .ahead

namespace Runtime

/-- Whether the runtime is shut down: its ledger is released. --/
def isShutdown (b : Bench) : Bool := b.ledger.closed

/-- The providers, in the order a runtime reports them. --/
def providers (r : Runtime) : List (Signal × PartId) :=
  [(.logging, r.logging), (.tracing, r.tracing), (.metering, r.metering)]

/-- Whether a provider can be flushed: only the providers that do nothing cannot. --/
def flushable (b : Bench) (id : PartId) : Bool :=
  match (b.part? id).map (·.role) with
  | some Role.inert | none => false
  | _ => true

/-- The runtime as it is shown. --/
def repr (r : Runtime) (b : Bench) : String :=
  "AssembledRuntime(" ++ ", ".intercalate (r.providers.map (fun p => p.1.name ++ "=" ++ b.className (.part p.2))) ++
    ", shutdown=" ++ (if isShutdown b then "True" else "False") ++ ")"

/-- Shut the runtime down; a runtime already shut down releases nothing. --/
def shutdown : StateM Bench (Option ReleaseError) := do
  if isShutdown (← get) then pure none else releaseLedger

/-- Flush every provider that can be flushed, with the timeout given when it is set. --/
def forceFlush (r : Runtime) (timeout : Json) : StateM Bench Bool := do
  if isShutdown (← get) then return false
  let deadline := deadlineOf (if timeout.truthy then timeout else r.flushTimeout)
  let mut ok := true
  for (_, id) in r.providers do
    if flushable (← get) id then
      match ← (flush deadline id).run with
      | .ok true => pure ()
      | _ => ok := false
  return ok

/-- Take the records of every in-memory log exporter, in the order they were built. --/
def drainRecords : StateM Bench (List LogRecord) := do
  let n := (← get).parts.length
  let mut taken := []
  for id in List.range n do
    match ← (takeRecords id).run with
    | .ok rs => taken := taken ++ rs
    | .error _ => pure ()
  return taken

/-- Emit a log record through the logger provider, flush the provider while the runtime is live
and the provider can be flushed, and take what the in-memory exporters hold. --/
def emitLog (r : Runtime) (body : Json) (attributes : Members) : StateM Bench (Except Failure (List LogRecord)) := do
  let record : LogRecord := ⟨body, Bounds.logRecord.fill attributes⟩
  let _ ← (emit record r.logging).run
  if !isShutdown (← get) && flushable (← get) r.logging then
    match ← (flush .ahead r.logging).run with
    | .error f => return .error f
    | .ok _ => pure ()
  return .ok (← drainRecords)

/-- Carry out a request. --/
def run (r : Runtime) : Request → StateM Bench Response
  | .shutdown => do
    let e ← shutdown
    return .released e (isShutdown (← get))
  | .forceFlush t => do return .flushed (← r.forceFlush t)
  | .repr => do return .shown (r.repr (← get))
  | .context => do
    let _ ← shutdown
    return .entered true (isShutdown (← get))
  | .emitLog body attrs => do
    match ← r.emitLog body attrs with
    | .ok rs => return .exported rs
    | .error f => return .failed f

/-- Carry out a request, with the labels recorded while it ran. --/
def perform (r : Runtime) (s : Request) : StateM Bench (Response × List Json) := do
  let before := (← get).events.length
  let o ← r.run s
  return (o, (← get).events.drop before)

end Runtime

theorem shutdown_twice (b : Bench) (h : b.ledger.closed = true) :
    Runtime.shutdown.run b = (none, b) := by
  simp [Runtime.shutdown, Runtime.isShutdown, h, bind, StateT.bind, get, getThe, MonadStateOf.get,
    StateT.get, pure, Bench.statePure_apply, StateT.run]

theorem forceFlush_closed (r : Runtime) (t : Json) (b : Bench) (h : b.ledger.closed = true) :
    (r.forceFlush t).run b = (false, b) := by
  simp [Runtime.forceFlush, Runtime.isShutdown, h, bind, StateT.bind, get, getThe, MonadStateOf.get,
    StateT.get, pure, Bench.statePure_apply, StateT.run]

end Telemetry.Assembly
