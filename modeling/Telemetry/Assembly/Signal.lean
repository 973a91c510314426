import Telemetry.Assembly.Stage

/-!
The three signals a document configures, and what every signal's assembly shares.

A signal the document leaves out gets a provider that does nothing and holds nothing. A signal
that is configured gets its provider built from its stages; an error of that building that is not
already a configuration error is reported as a failure to build the signal's provider. The
provider is recorded on the ledger once it exists, as the owner of the stages it shuts down.
-/

namespace Telemetry.Assembly

open Pipeline

/-- The signals, in the order a runtime reports them. --/
inductive Signal where
  | logging
  | tracing
  | metering
  deriving DecidableEq, Inhabited

namespace Signal

/-- The name of the signal. --/
def name : Signal → String
  | .logging => "logging"
  | .tracing => "tracing"
  | .metering => "metering"

/-- The class of the provider that does nothing. --/
def noopClass : Signal → String
  | .logging => "NoOpLoggerProvider"
  | .tracing => "NoOpTracerProvider"
  | .metering => "NoOpMeterProvider"

end Signal

/-- Put the provider of a left-out signal on the bench. --/
def noopProvider {ε : Type} (s : Signal) : ExceptT ε (StateM Bench) PartId :=
  addPart s.noopClass (newView s.noopClass [] []) .inert

/-- The places of the components among configuration values. --/
def partsOf : List Slot → List PartId
  | [] => []
  | .part id :: ss => id :: partsOf ss
  | .data _ :: ss => partsOf ss

/-- Record a provider just built on the ledger, then as the owner of each of its stages. --/
def recordProvider (s : Signal) (provider : PartId) (pipeline : List Slot) : Build PartId := do
  acquire (.part provider) (s.name ++ " provider")
  for stage in pipeline do
    adopt stage (.part provider)
  pure provider

/-- Assemble a configured signal: build its provider and the stages the provider shuts down, then
record the provider as their owner. --/
def assembleSignal (s : Signal) (build : Build (PartId × List Slot)) : Build PartId := do
  let (provider, pipeline) ← tryCatch build fun e =>
    if e.isConfiguration then throw e
    else throw (Fault.wrap ("Failed to build " ++ s.name ++ " provider: ") e)
  recordProvider s provider pipeline

/-- The description of the resource a runtime shares between its providers. --/
def runtimeResource : Json := .str "<runtime.resource>"

theorem noopProvider_inert (s : Signal) (b : Bench) :
    ((noopProvider s : Build PartId).run b).2.part? b.parts.length =
      some ⟨s.noopClass, newView s.noopClass [] [], .inert⟩ := by
  simp [noopProvider, addPart, ExceptT.run, modifyGet, MonadStateOf.modifyGet, ExceptT.lift,
    ExceptT.mk, monadLift, MonadLift.monadLift, Bench.add, Bench.part?, Functor.map, StateT.map,
    StateT.modifyGet, pure, bind]

end Telemetry.Assembly
