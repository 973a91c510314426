import Telemetry.Assembly.Propagation
import Telemetry.Assembly.Resource
import Telemetry.Assembly.Tracing
import Telemetry.Assembly.Logging
import Telemetry.Assembly.Metering
import Telemetry.Assembly.Assembled
import Telemetry.Model.Document
import Telemetry.FileFormat
import Telemetry.Options

/-!
Assembling a runtime from a configuration document.

The options are checked first, then the document is read and its file format accepted. A
document that disables telemetry gives a runtime that does nothing and holds nothing. Otherwise
the stages run once each, in order: the propagator, the resource, then the logging, tracing and
metering providers, each signal with the document's attribute limits merged under its own.

When a stage fails, everything acquired so far is released, last acquired first, before the
error is reported, so a failed assembly holds nothing. A configuration error is reported as it
is, with the error of that teardown; any other error is reported as a failed assembly that quotes
it.
-/

namespace Telemetry.Assembly

open Pipeline Components Model

/-- The limits of a signal: the document's shared limits, under the signal's own. --/
def signalLimits (shared : Option AttributeLimits) (own : Option (List (String × Option Int))) :
    List (String × Int) :=
  mergeBounds ((shared.map AttributeLimits.entries).toList ++ own.toList)

/-- The logging provider of a document: built from its section, with the document's limits merged
under the section's own, or one that does nothing. --/
def assembleLogging (ctx : Context) (doc : Document) : Build PartId :=
  match doc.loggerProvider with
  | none => noopProvider .logging
  | some sec =>
    assembleSignal .logging
      (buildLogging ctx sec (signalLimits doc.attributeLimits (sec.limits.map AttributeLimits.entries)))

/-- The tracer provider of a document: built from its section, with the document's limits merged
under the section's own, or one that does nothing. --/
def assembleTracing (ctx : Context) (doc : Document) : Build PartId :=
  match doc.tracerProvider with
  | none => noopProvider .tracing
  | some sec =>
    assembleSignal .tracing
      (buildTracing ctx sec (signalLimits doc.attributeLimits (sec.limits.map SpanLimitSettings.entries)))

/-- The meter provider of a document: built from its section, or one that does nothing. --/
def assembleMetering (ctx : Context) (doc : Document) : Build PartId :=
  match doc.meterProvider with
  | none => noopProvider .metering
  | some sec => assembleSignal .metering (buildMetering ctx sec)

/-- Run the stages of an assembly. --/
def assemble (ctx : Context) (doc : Document) (flushTimeout : Json) : Build Runtime := do
  let propagator ← resolvePropagator ctx doc.propagator
  let resource ← resolveResource ctx doc.resource
  let logging ← assembleLogging ctx doc
  let tracing ← assembleTracing ctx doc
  let metering ← assembleMetering ctx doc
  pure ⟨propagator, resource, logging, tracing, metering, flushTimeout⟩

/-- The runtime of a document that disables telemetry. --/
def inertRuntime (flushTimeout : Json) : StateM Bench Runtime := do
  let place (s : Signal) : StateM Bench PartId :=
    modifyGet fun b => let (b', id) := b.add ⟨s.noopClass, newView s.noopClass [] [], .inert⟩; (id, b')
  let logging ← place .logging
  let tracing ← place .tracing
  let metering ← place .metering
  pure ⟨compositeView [], Resource.empty, logging, tracing, metering, flushTimeout⟩

/-- Release everything acquired by a failed assembly and give the error to report. --/
def abort (e : Fault) : StateM Bench Fault := do
  let r ← releaseLedger
  if e.isConfiguration then pure (e.withRelease r)
  else pure (.invalidCombination ("Telemetry assembly failed: " ++ e.text) e.asCause r)

/-- Assemble a runtime from a document with the given options. --/
def create (ctx : Context) (options : AssemblyOptions) (input : Json) : StateM Bench (Except Fault Runtime) := do
  match options.validate with
  | .error e => return .error e
  | .ok () =>
    match Document.parse input with
    | .error e => return .error e
    | .ok doc =>
      match checkFileFormat doc.fileFormat with
      | .error e => return .error e
      | .ok _ =>
        if doc.disabled == some true then return .ok (← inertRuntime options.flushTimeoutMillis)
        match ← (assemble ctx doc options.flushTimeoutMillis).run with
        | .ok r => return .ok r
        | .error e => return .error (← abort e)

theorem create_invalidOptions (ctx : Context) (options : AssemblyOptions) (input : Json) (e : Fault)
    (b : Bench) (h : options.validate = .error e) :
    (create ctx options input).run b = (.error e, b) := by
  simp [create, h, pure, Bench.statePure_apply, StateT.run]

end Telemetry.Assembly
