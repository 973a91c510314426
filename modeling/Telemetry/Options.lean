import Telemetry.Fault

/-!
Options for assembling a runtime, apart from the document: whether to install the result as the
process-wide default, whether to shut it down when the process exits, and how long a flush may
take by default. The options are kept as given; `validate` checks that the flush timeout is a
positive number.
-/

namespace Telemetry

/-- The default flush timeout, in milliseconds. --/
def defaultFlushTimeoutMillis : Int := 30000

/-- Options for assembling a runtime, kept as given. --/
structure AssemblyOptions where
  activateGlobal : Json
  shutdownOnExit : Json
  flushTimeoutMillis : Json
  deriving Inhabited

namespace AssemblyOptions

/-- The options when none are given. --/
def defaults : AssemblyOptions := ⟨.bool false, .bool false, .int defaultFlushTimeoutMillis⟩

/-- Options from a mapping; a missing option takes its default, and a value that does not count
as true (`null`, `0`, `false`, an empty text or list) stands for no options at all. --/
def ofJson (v : Json) : Except Fault AssemblyOptions :=
  match v with
  | .obj ms =>
    .ok ⟨(Members.get? ms "activate_global").getD (.bool false),
         (Members.get? ms "shutdown_on_exit").getD (.bool false),
         (Members.get? ms "flush_timeout_millis").getD (.int defaultFlushTimeoutMillis)⟩
  | other =>
    if other.truthy then .error (.failure (Failure.noAttribute other.kindName "get"))
    else .ok defaults

/-- Whether a number is at most zero; values that are no number cannot be compared. --/
def atMostZero : Json → Except Fault Bool
  | .int i => .ok (i ≤ 0)
  | .bool b => .ok (!b)
  | .float x => .ok (x ≤ 0.0)
  | other => .error (.failure ⟨.typeError,
      "'<=' not supported between instances of '" ++ other.kindName ++ "' and 'int'"⟩)

/-- Check the options: the flush timeout must be positive. --/
def validate (o : AssemblyOptions) : Except Fault Unit := do
  if ← atMostZero o.flushTimeoutMillis then
    throw (.failure ⟨.valueError, "flush_timeout_millis must be positive"⟩)

/-- The options as a mapping. --/
def toJson (o : AssemblyOptions) : Json :=
  .obj [("activate_global", o.activateGlobal), ("shutdown_on_exit", o.shutdownOnExit),
        ("flush_timeout_millis", o.flushTimeoutMillis)]

theorem validate_defaults : defaults.validate = .ok () := rfl

end AssemblyOptions

end Telemetry
