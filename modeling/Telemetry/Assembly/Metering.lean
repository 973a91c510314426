import Telemetry.Assembly.Signal
import Telemetry.Model.Signals
import Telemetry.Text.Order

/-!
The meter provider.

Its readers are resolved in order, each with its exporter, and its views are built from the
document's selectors and streams. A view may keep only the attributes it lists, as a set; listing
attributes to drop is refused. A view must select instruments by something, and a view that
renames what it selects cannot select by a pattern. The provider takes only metric readers; it
owns them. Attribute limits do not apply to metrics.
-/

namespace Telemetry.Assembly

open Pipeline Components Model

/-- The nesting of a metric reader: its exporter. --/
def readerNesting : List (String × Capability) := [("exporter", .metricExporter)]

/-- Whether a selector selects instruments by anything. --/
def selectsAnything (s : ViewSelector) : Bool :=
  s.instrumentType.isSome || s.instrumentName.isSome || s.unit.isSome || s.meterName.isSome ||
    s.meterVersion.isSome || s.meterSchemaUrl.isSome

/-- Whether a name holds a pattern character. --/
def hasWildcard (s : String) : Bool := s.contains '*' || s.contains '?'

/-- A view's name as its messages show it. --/
def viewName : Option String → String
  | some n => n
  | none => "None"

/-- Build the view at a position of the document's list. --/
def buildView (ctx : Context) (index : Nat) (v : ViewSpec) : Build Json := do
  let place := "views[" ++ toString index ++ "]: "
  let attributeKeys ← match v.stream.attributeKeys with
    | none => pure Json.null
    | some ak =>
      if !(ak.excluded.getD []).isEmpty then
        throw (.rejected (place ++ "attribute_keys.excluded is not supported, " ++
          "list the attributes to keep under attribute_keys.included"))
      else pure (match ak.included with
        | some ks => .arr ((Text.sortedSet ks).map Json.str)
        | none => .null)
  let aggregation ← match v.stream.aggregation with
    | some c => do describeSlot (← resolveComponent ctx .aggregation c [])
    | none => pure Json.null
  let sel := v.selector
  let name := v.stream.name
  if !selectsAnything sel then
    throw (Fault.wrap place (.failure ⟨.generic,
      "Some instrument selection criteria must be provided for View " ++ viewName name⟩))
  match name, sel.instrumentName with
  | some n, some i =>
    if hasWildcard i then
      throw (Fault.wrap place (.failure ⟨.generic,
        "View " ++ n ++ " declared with wildcard characters in instrument_name"⟩))
  | _, _ => pure ()
  pure (newView "View" []
    [("instrument_type", match sel.instrumentType with
        | some k => .obj [("class", .str k.className)]
        | none => .null),
     ("instrument_name", optStr sel.instrumentName), ("instrument_unit", optStr sel.unit),
     ("meter_name", optStr sel.meterName), ("meter_version", optStr sel.meterVersion),
     ("meter_schema_url", optStr sel.meterSchemaUrl), ("name", optStr name),
     ("description", optStr v.stream.description), ("attribute_keys", attributeKeys),
     ("aggregation", aggregation)])

/-- Build the views of a meter provider section, in order. --/
def buildViews (ctx : Context) (views : List ViewSpec) : Build (List Json) :=
  (List.range views.length).zip views |>.mapM fun (i, v) => buildView ctx i v

/-- Build the meter provider and the readers it owns. --/
def buildMetering (ctx : Context) (sec : MeterSection) : Build (PartId × List Slot) := do
  let readers ← sec.readers.mapM fun c => resolveComponent ctx .metricReader c readerNesting
  let views ← buildViews ctx sec.views
  let filter : Json := match sec.exemplarFilter with
    | some f => objectView f.className
    | none => .null
  let b ← get
  match readers.find? (fun r => !(((b.roleOf r).map Role.isReader).getD false)) with
  | some r => throw (.failure (Failure.noAttribute (b.className r) "_instrument_class_temporality"))
  | none => pure ()
  let view := newView "MeterProvider" []
    [("metric_readers", .arr (readers.map b.describe)), ("resource", runtimeResource),
     ("views", .arr views), ("exemplar_filter", filter), ("shutdown_on_exit", .bool false)]
  let provider ← addPart "MeterProvider" view (.meterProvider (partsOf readers) false)
  pure (provider, readers)

example : selectsAnything ViewSelector.empty = false := rfl

end Telemetry.Assembly
