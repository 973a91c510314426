import Telemetry.Assembly.Stage
import Telemetry.Model.Propagation

/-!
The propagator of a runtime: one composite propagator over the propagators a document names, in
the order it names them, each name taken once. A document without a propagator section gets the
composite over nothing, which propagates nothing. Propagators are resolved with the configuration
written for them as it is; one that has a shutdown is recorded on the ledger.
-/

namespace Telemetry.Assembly

open Pipeline Components Model

/-- The description of the composite propagator over propagators so described. --/
def compositeView (views : List Json) : Json := newView "CompositePropagator" [.arr views] []

/-- One propagator: resolved once with its configuration as written, recorded on the ledger when
it has a shutdown, and described as built. --/
def propagatorStep (ctx : Context) (c : ComponentRef) : Build Json := do
  let p ← resolve ctx.files ctx.registry .propagator c.name (Config.ofMembers c.config)
  if ← isCloseable p then
    acquire p ("propagator '" ++ c.name ++ "'")
  return (← get).describe p

/-- Resolve the propagators of a document and describe the composite over them. --/
def resolvePropagator (ctx : Context) : Option PropagatorSection → Build Json
  | none => pure (compositeView [])
  | some sec => do
    let mut views := []
    for c in sec.effectiveComponents do
      views := views ++ [← propagatorStep ctx c]
    pure (compositeView views)

theorem resolvePropagator_none (ctx : Context) (b : Bench) :
    (resolvePropagator ctx none).run b = (.ok (compositeView []), b) := rfl

end Telemetry.Assembly
