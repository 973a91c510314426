import Telemetry.Pipeline.Bench
import Telemetry.Pipeline.Resource

/-!
Components whose behaviour their configuration spells out, and exporters that keep what they are
given in memory: the components that let one watch an assembly and its teardown from outside.

A scripted component takes every key. `label` names it (by default its extension point),
`fail_shutdown` makes its shutdown fail, `flush` says what it answers when flushed (no for
`false`, yes for anything else, and `"raise"` makes the flush fail), and `raise` makes its
factory fail instead of building it: with the error class the entry names and its message, or
with a rejected configuration. As a resource detector it
detects the `attributes` and `schema_url` it is given, or fails with `fail_detect`. It is
described by its label and the rest of its configuration.

The in-memory exporters keep spans and log records; the in-memory metric reader is a reader
itself, so a pull reader takes it.
-/

namespace Telemetry.Components

open Pipeline

/-- The label of a scripted component: the one it is given, or its extension point. --/
def labelOf (cap : Capability) (c : Config) : Json :=
  match c.get? "label" with
  | some (.data v) => v
  | some (.part _) => .str cap.value
  | none => .str cap.value

/-- The failure a scripted factory is told to raise: the error class that `type` names
(`value_error` by default) with `message` (`boom` by default). A class name that is not known
fails as a missing key itself. --/
def scriptedFailure (entry : Members) : Fault :=
  let message := (Members.get? entry "message").getD (.str "boom")
  match (Members.get? entry "type").getD (.str "value_error") with
  | .str "value_error" => .failure ⟨.valueError, Json.display message⟩
  | .str "key_error" => .failure (Failure.missingKey message)
  | .str "runtime_error" => .failure ⟨.runtimeError, Json.display message⟩
  | .str "type_error" => .failure ⟨.typeError, Json.display message⟩
  | .str "invalid_field" => .rejected (Json.display message)
  | other => .failure (Failure.missingKey other)

/-- Build a scripted component for an extension point. --/
def buildScripted (closeable : Bool) (cap : Capability) (c : Config) : Build Slot := do
  match c.get? "raise" with
  | some (.data (.obj entry)) => throw (scriptedFailure entry)
  | _ => pure ()
  let label := labelOf cap c
  let rest := c.without "label"
  let failsShutdown := ((c.get? "fail_shutdown").map Slot.truthy).getD false
  let flush : FlushAnswer := match c.get? "flush" with
    | some (.data (.str "raise")) => .raises
    | some (.data (.bool false)) => .answers false
    | _ => .answers true
  let b ← get
  let view : Json := .obj [("test", .str (if closeable then "recording" else "plain")), ("label", label),
    ("config", b.describeConfig rest)]
  let cls := if closeable then "RecordingComponent" else "PlainComponent"
  return .part (← addPart cls view (.scripted ⟨cap, closeable, label, rest, failsShutdown, flush, false⟩))

/-- Build the in-memory component of an extension point. --/
def buildMemory (cap : Capability) : Build Slot := do
  match cap with
  | .logRecordExporter =>
    return .part (← addPart "InMemoryLogRecordExporter" (objectView "InMemoryLogRecordExporter") (.logMemory false []))
  | .metricExporter =>
    return .part (← addPart "InMemoryMetricReader" (objectView "InMemoryMetricReader") .metricMemory)
  | _ =>
    return .part (← addPart "InMemorySpanExporter" (objectView "InMemorySpanExporter") (.spanMemory false))

/-- What a scripted detector detects. --/
def Scripted.detect (b : Bench) (s : Scripted) : Except Failure Resource :=
  match s.config.get? "fail_detect" with
  | some v => .error ⟨.runtimeError, Json.display (b.describe v)⟩
  | none => do
    let attributes ← match s.config.get? "attributes" with
      | some (.data (.obj ms)) => pure ms
      | some (.data v) =>
        if !v.truthy then pure []
        else match v with
          | .str _ => .error (Failure.noAttribute "str" "items")
          | .arr _ => .error (Failure.noAttribute "tuple" "items")
          | other => .error ⟨.typeError, "object of type '" ++ other.kindName ++ "' has no len()"⟩
      | some (.part p) => .error (Failure.noAttribute (b.className (.part p)) "items")
      | none => pure []
    let schema := match s.config.get? "schema_url" with
      | some (.data .null) => Json.str ""
      | some v => b.describe v
      | none => Json.str ""
    pure (Resource.ofValues attributes schema)

theorem labelOf_default (cap : Capability) (c : Config) (h : c.get? "label" = none) :
    labelOf cap c = .str cap.value := by
  simp [labelOf, h]

end Telemetry.Components
