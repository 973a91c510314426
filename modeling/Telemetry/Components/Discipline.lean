import Telemetry.Pipeline.Bench

/-!
The discipline every component factory keeps.

A factory is called with a configuration and may fail. When it answers, it either leaves the bench
as it was, answering plain data or a value of the configuration it was given (a pull reader
answers its own exporter), or it puts one new component on the bench and answers that component.
The new component is built from the configuration: it is not a limiting processor nor a provider,
it holds only values of the configuration, and the exporter it names is the one the configuration
holds under `exporter`. So a factory never answers a component built earlier in the same assembly
unless it was handed that component, and it builds at most the one component it answers.
-/

namespace Telemetry.Pipeline

/-- Whether a component is a limiting processor, which stands in front of a processor. --/
def Role.wraps : Role → Bool
  | .limiting .. => true
  | _ => false

/-- Whether a component is the provider of a signal. --/
def Role.isProvider : Role → Bool
  | .tracerProvider _ | .loggerProvider _ | .meterProvider _ _ => true
  | _ => false

/-- The component a configuration value is, if it is one. --/
def Slot.partId? : Slot → Option PartId
  | .part id => some id
  | .data _ => none

/-- The components a role holds: a processor's or reader's exporter, the processor a limiting
processor hands records to, a provider's processors or readers, and the components in a scripted
component's configuration. --/
def Role.holds : Role → List PartId
  | .simple ex _ | .batch ex _ _ | .periodic ex _ => ex.partId?.toList
  | .limiting d _ _ => [d]
  | .tracerProvider ps | .loggerProvider ps | .meterProvider ps _ => ps
  | .scripted s => s.config.filterMap (·.2.partId?)
  | _ => []

/-- The exporter a processor or reader holds, as its role names it. --/
def Role.exporter? : Role → Option Slot
  | .simple ex _ | .batch ex _ _ | .periodic ex _ => some ex
  | .scripted s => s.config.get? "exporter"
  | _ => none

end Telemetry.Pipeline

namespace Telemetry.Components

open Pipeline

/-- Whether a configuration value is plain data or a value the configuration holds. --/
def Held (c : Config) : Slot → Prop
  | .data _ => True
  | s => ∃ k, (k, s) ∈ c

/-- A role a factory may build from the configuration `c`: not a limiting processor nor a
provider, holding only values of `c`, and naming as its exporter only the value `c` holds under
`exporter`. --/
structure BuiltFrom (c : Config) (r : Role) : Prop where
  plain : r.wraps = false
  notProvider : r.isProvider = false
  holds : ∀ id ∈ r.holds, Held c (.part id)
  exporter : ∀ ex, r.exporter? = some ex → c.get? "exporter" = some ex

/-- From the bench `b`, the step either leaves the bench as it was, answering only plain data or
a value of `c`, or puts one component built from `c` on it and answers it. --/
def MakesAt (c : Config) (x : Build Slot) (b : Bench) : Prop :=
  ((x.run.run b).2 = b ∧ ∀ s, (x.run.run b).1 = .ok s → Held c s) ∨
    ∃ p : Instance, BuiltFrom c p.role ∧ x.run.run b = (.ok (.part b.parts.length), (b.add p).1)

end Telemetry.Components
