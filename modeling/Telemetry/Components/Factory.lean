import Telemetry.Components.Builtin
import Telemetry.Components.Scripted
import Telemetry.Components.Discipline
import Telemetry.Registry
import Telemetry.Json.Mapping

/-!
Component factories, and resolving a component through a registry of them.

A factory is a built-in one, a scripted or in-memory one, one a program registered from outside
that builds plain data naming its maker or fails as it was set up to, or any other factory given
by how it builds, as long as it keeps the discipline of every factory (`MakesAt`). Two factories
are the same when they are the same object. Resolving looks the factory up and calls it once with
the configuration; a configuration error it raises is passed on unchanged, and any other error is
reported as an invalid configuration of the named component that quotes it.
-/

namespace Telemetry.Components

open Pipeline

/-- How a factory registered from outside ends. --/
inductive ForeignOutcome where
  /-- It builds plain data naming its maker and the configuration it received. --/
  | builds
  /-- It raises an ordinary failure. --/
  | raises (f : Failure)
  /-- It rejects the configuration. --/
  | rejects (message : String)
  deriving DecidableEq, Inhabited

/-- A factory registered from outside: how it is shown, where it comes from, the maker its
results name, and how it ends. --/
structure Foreign where
  display : String
  home : String
  maker : Json
  outcome : ForeignOutcome
  deriving Inhabited

/-- A factory the model knows only by how it builds: how it is shown, where it comes from, which
object it is, and what it does when called, which keeps the discipline of every factory. --/
structure Custom where
  display : String
  home : String
  /-- The object the factory is; two factories are the same exactly when they are one object. --/
  identity : Nat
  make : FileSystem → Capability → Config → Build Slot
  disciplined : ∀ files cap c b, MakesAt c (make files cap c) b

/-- A component factory. --/
inductive Factory where
  | builtin (b : Builtin)
  /-- A scripted component, with a shutdown or without. --/
  | scripted (closeable : Bool)
  /-- An in-memory exporter or reader. --/
  | memory
  | foreign (f : Foreign)
  | custom (f : Custom)
  deriving Inhabited

namespace Factory

/-- Whether two factories are the same one. --/
def same : Factory → Factory → Bool
  | .builtin a, .builtin b => a == b
  | .scripted a, .scripted b => a == b
  | .memory, .memory => true
  | .foreign a, .foreign b =>
    a.display == b.display && a.home == b.home && Json.sameValue a.maker b.maker && a.outcome == b.outcome
  | .custom a, .custom b => a.identity == b.identity
  | _, _ => false

instance : BEq Factory := ⟨same⟩

/-- The factory as it is shown. --/
def display : Factory → String
  | .builtin b => b.display
  | .scripted closeable => if closeable then "<scripted recording component>" else "<scripted plain component>"
  | .memory => "<in-memory component>"
  | .foreign f => f.display
  | .custom f => f.display

/-- Where the factory comes from. --/
def home : Factory → String
  | .builtin b => b.home
  | .scripted _ | .memory => "scripted components"
  | .foreign f => f.home
  | .custom f => f.home

/-- Build a component of an extension point with a factory. --/
def make (files : FileSystem) (cap : Capability) : Factory → Config → Build Slot
  | .builtin b, c => b.build files c
  | .scripted closeable, c => buildScripted closeable cap c
  | .memory, _ => buildMemory cap
  | .foreign f, c => do
    match f.outcome with
    | .raises e => throw (.failure e)
    | .rejects m => throw (.rejected m)
    | .builds =>
      let b ← get
      pure (.data (.obj [("made_by", f.maker), ("config", b.describeConfig c)]))
  | .custom f, c => f.make files cap c

end Factory

/-- The registry holding every built-in factory, in table order. --/
def builtinRegistry : Registry Factory :=
  ⟨Builtin.table.map (fun e => ⟨e.1, .str e.2.1, .builtin e.2.2⟩)⟩

/-- The scripted and in-memory components, by extension point and name, in the order they are
registered: a recording and a plain component for every pipeline stage, the in-memory exporters,
and a recording propagator. --/
def scriptedTable : List (Capability × String × Factory) :=
  let stages : List Capability :=
    [.spanExporter, .spanProcessor, .logRecordExporter, .logRecordProcessor, .metricExporter,
     .metricReader, .aggregation]
  stages.flatMap (fun c => [(c, "recording", .scripted true), (c, "plain", .scripted false)]) ++
  [(.propagator, "recording", .scripted true), (.sampler, "recording", .scripted true),
   (.sampler, "plain", .scripted false), (.resourceDetector, "recording", .scripted true),
   (.resourceDetector, "plain", .scripted false), (.spanExporter, "memory", .memory),
   (.logRecordExporter, "memory", .memory), (.metricExporter, "memory", .memory)]

/-- The built-in factories with the scripted and in-memory components after them. --/
def scriptedRegistry : Registry Factory :=
  scriptedTable.foldl (fun r e => r.push e.1 (.str e.2.1) e.2.2) builtinRegistry

/-- Register every built-in factory on a registry; a name already taken is refused. --/
def registerBuiltins (r : Registry Factory) : Except Fault (Registry Factory) :=
  Builtin.table.foldlM (fun r e => r.register Factory.display e.1 (.str e.2.1) (.builtin e.2.2)) r

/-- Build with the factory registered under an extension point and a name, reporting any error
that is not a configuration error as an invalid configuration of the named component. --/
def resolveWith (reg : Registry Factory) (cap : Capability) (name : Json) (build : Factory → Build Slot) :
    Build Slot := do
  let f ← Build.ofExcept (reg.lookup cap name)
  tryCatch (build f) fun e =>
    if e.isConfiguration then throw e
    else throw (Fault.wrap ("Invalid configuration for " ++ cap.value ++ " '" ++ Json.display name ++ "': ") e)

/-- Resolve a component: look its factory up and build it with the configuration. --/
def resolve (files : FileSystem) (reg : Registry Factory) (cap : Capability) (name : String) (c : Config) :
    Build Slot :=
  resolveWith reg cap (.str name) fun f => f.make files cap c

/-- Resolve a component whose configuration is any value: the mapping it stands for
(`Json.mappingOf`) is made once the factory is found, and a failure to make it is the
component's. --/
def resolveValue (files : FileSystem) (reg : Registry Factory) (cap : Capability) (name config : Json) :
    Build Slot :=
  resolveWith reg cap name fun f => do
    let es ← Build.ofExcept ((Json.mappingOf config).mapError Fault.failure)
    f.make files cap (Config.ofEntries es)

theorem resolve_unknown (files : FileSystem) (reg : Registry Factory) (cap : Capability) (name : String)
    (c : Config) (b : Bench) (h : reg.find? cap (.str name) = none) :
    (resolve files reg cap name c).run b =
      (.error (.unknownProvider cap (.str name) (reg.names cap) none), b) := by
  simp [resolve, resolveWith, Registry.lookup, Registry.checkKey, h, Build.ofExcept, ExceptT.run, bind,
    ExceptT.bind, ExceptT.mk, ExceptT.bindCont, throw, throwThe, MonadExceptOf.throw, pure,
    Bench.statePure_apply, StateT.bind, Except.bind]

end Telemetry.Components
