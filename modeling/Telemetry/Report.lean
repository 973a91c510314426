import Telemetry.Fault

/-!
Errors as JSON objects. Every error shows its class as `error` and its text as `message`.
A configuration error also shows its `kind` and the teardown error attached to it
(`release_error`, `null` when the teardown succeeded or did not run). A caused error shows the
class of its cause, or, when a validation caused it, the validation itself.
-/

namespace Telemetry

open Schema

/-- A step of a path as JSON: a key as text, a position as a number. --/
def Step.toJson : Step → Json
  | .key k => .str k
  | .index i => .int i
  | .number i => .int i

/-- A problem as JSON: where, what, and the text of a broken rule. --/
def Issue.toJson (i : Issue) : Json :=
  let base : Members := [("loc", .arr (i.loc.map Step.toJson)), ("type", .str i.problem.code)]
  match i.problem with
  | .valueError msg => .obj (base ++ [("msg", .str ("Value error, " ++ msg))])
  | _ => .obj base

/-- A validation as JSON: its section and its problems in order. --/
def Validation.toJson (v : Validation) : Json :=
  .obj [("title", .str v.title), ("errors", .arr (v.issues.map Issue.toJson))]

/-- A teardown error as JSON, with each failure as its resource, class and text. --/
def ReleaseError.toJson (r : ReleaseError) : Json :=
  .obj [("error", .str "ResourceReleaseError"), ("kind", .str "resource_release_failure"),
        ("message", .str r.message),
        ("failures", .arr (r.failures.map (fun f =>
          .arr [f.1, .str f.2.cls.name, .str f.2.text])))]

/-- An optional teardown error as JSON. --/
def releaseJson : Option ReleaseError → Json
  | some r => r.toJson
  | none => .null

/-- The members a cause adds. --/
def Cause.members : Cause → Members
  | .none => []
  | .invalid v => [("validation", v.toJson)]
  | .raised cls => [("cause", .str cls)]

namespace Fault

/-- The members every error has. --/
def baseMembers (e : Fault) : Members :=
  [("error", .str e.className), ("message", .str e.message)]

/-- The members of a configuration error of a kind. --/
def configMembers (kind : String) (r : Option ReleaseError) : Members :=
  [("kind", .str kind), ("release_error", releaseJson r)]

/-- The error as a JSON object. --/
def toJson (e : Fault) : Json :=
  .obj (e.baseMembers ++
    match e with
    | .unsupportedVersion v r =>
      configMembers "unsupported_schema_version" r ++ [("file_format", v)]
    | .unknownProvider c n _ r =>
      configMembers "unknown_provider" r ++ [("capability_type", .str c.value), ("name", n)]
    | .invalidCombination _ c r => configMembers "invalid_field_combination" r ++ c.members
    | .documentParse _ c r => configMembers "invalid_document" r ++ c.members
    | .invalid v => [("validation", v.toJson)]
    | .registration _ => []
    | .failure _ => [])

end Fault

end Telemetry
