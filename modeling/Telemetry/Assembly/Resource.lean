import Telemetry.Assembly.Stage
import Telemetry.Model.Resource
import Telemetry.Model.Coerce
import Telemetry.KeyValue

/-!
The resource a runtime shares between its providers.

Without a resource section it is the default resource. With one, the detectors run first, in
order, and what they detect is merged; then the attributes come from the `key=value` list and
from the attribute entries, an entry replacing a listed value of its name. The result merges, from
lowest precedence to highest, the defaults, what was detected, and the document's own attributes
with its schema URL.

A detector that has a shutdown is recorded on the ledger before it runs, so that a failing
detection still releases it.
-/

namespace Telemetry.Assembly

open Pipeline Components Model

/-- What a detector detects. --/
def detectWith (b : Bench) (s : Slot) : Except Failure Resource :=
  match b.roleOf s with
  | some .processDetector => .ok Resource.processFacts
  | some (.scripted sc) => Components.Scripted.detect b sc
  | _ => .error (Failure.noAttribute (b.className s) "detect")

/-- One detector of a section: built, recorded when it has a shutdown, and asked what it detects. --/
def detectOne (ctx : Context) (c : ComponentRef) : Build Resource := do
  let d ← resolve ctx.files ctx.registry .resourceDetector c.name (Config.ofMembers c.config)
  if ← isCloseable d then
    acquire d ("resource_detector '" ++ c.name ++ "'")
  match detectWith (← get) d with
  | .ok r => pure r
  | .error f => throw (Fault.wrap ("Resource detector '" ++ c.name ++ "' failed: ") (.failure f))

/-- Run the detectors of a resource section, merging what they detect. --/
def runDetectors (ctx : Context) (detectors : List ComponentRef) : Build Resource := do
  let mut detected := Resource.empty
  for c in detectors do
    detected := detected.merge (← detectOne ctx c)
  pure detected

/-- The attributes a resource section writes: the listed ones, then the entries. --/
def sectionAttributes (sec : ResourceSection) : Build Members := do
  let listed ← match parseKeyValueList sec.attributesList "resource attribute" with
    | .ok ps => pure ps
    | .error e => throw (Fault.wrap "Invalid attributes_list: " e)
  let mut attrs : Members := listed.map (fun p => (p.1, .str p.2))
  for a in sec.attributes do
    let v ← Build.ofExcept (coerceAttribute a)
    attrs := attrs.insert a.name v
  pure attrs

/-- Resolve the resource of a document. --/
def resolveResource (ctx : Context) : Option ResourceSection → Build Resource
  | none => pure Resource.defaults
  | some sec => do
    let detected ← match sec.detection with
      | some d => runDetectors ctx d.detectors
      | none => pure Resource.empty
    let attrs ← sectionAttributes sec
    pure ((Resource.defaults.merge detected).merge (Resource.ofValues attrs (.str (sec.schemaUrl.getD ""))))

theorem resolveResource_none (ctx : Context) (b : Bench) :
    (resolveResource ctx none).run b = (.ok Resource.defaults, b) := rfl

end Telemetry.Assembly
