import Telemetry.Capability
import Telemetry.Schema.Issue
import Telemetry.Json.Literal

/-!
Errors. Configuration errors carry a kind, so a caller can tell an unsupported schema version from
an unknown component, a rejected combination of fields, an unreadable document or a failed
teardown. When the teardown after a failed assembly itself fails, its error is attached to the
configuration error as `release` instead of replacing it.

An error that wraps another quotes the other's text. The problems of a failed validation are kept
as data rather than as text; quoted inside another message they stand as `<ValidationError>`.
-/

namespace Telemetry

open Schema

/-- The classes of the ordinary errors that can surface from components and checks. --/
inductive ErrorClass where
  | valueError
  | keyError
  | runtimeError
  | typeError
  | attributeError
  | overflowError
  | fileNotFoundError
  | isADirectoryError
  | notADirectoryError
  | osError
  | metricsTimeoutError
  | invalidHeader
  | generic
  deriving DecidableEq, Repr, Inhabited

/-- The name of an error class. --/
def ErrorClass.name : ErrorClass → String
  | .valueError => "ValueError"
  | .keyError => "KeyError"
  | .runtimeError => "RuntimeError"
  | .typeError => "TypeError"
  | .attributeError => "AttributeError"
  | .overflowError => "OverflowError"
  | .fileNotFoundError => "FileNotFoundError"
  | .isADirectoryError => "IsADirectoryError"
  | .notADirectoryError => "NotADirectoryError"
  | .osError => "OSError"
  | .metricsTimeoutError => "MetricsTimeoutError"
  | .invalidHeader => "InvalidHeader"
  | .generic => "Exception"

/-- An ordinary error: its class and its text. The text of a missing key is the key's literal
(`Failure.missingKey`). --/
structure Failure where
  cls : ErrorClass
  arg : String
  deriving DecidableEq, Repr, Inhabited

namespace Failure

/-- The error's text. --/
def text (f : Failure) : String := f.arg

/-- The error of a missing key, whose text is the key's literal. --/
def missingKey (key : Json) : Failure := ⟨.keyError, Json.literal key⟩

/-- The error written as a call of its class: with the key's literal for a missing key, with the
literal of its text otherwise. --/
def shown (f : Failure) : String :=
  f.cls.name ++ "(" ++ (if f.cls == .keyError then f.arg else Json.textLiteral f.arg) ++ ")"

/-- The error of reaching for an attribute that an object of class `cls` does not have. --/
def noAttribute (cls attr : String) : Failure :=
  ⟨.attributeError, "'" ++ cls ++ "' object has no attribute '" ++ attr ++ "'"⟩

end Failure

/-- The failures of a teardown, each with the name of the resource that failed. --/
structure ReleaseError where
  failures : List (Json × Failure)
  deriving Inhabited

/-- The text of a teardown error. --/
def ReleaseError.message (r : ReleaseError) : String :=
  "Failed to release " ++ toString r.failures.length ++ " resource(s): " ++
    "; ".intercalate (r.failures.map (fun f => Json.display f.1 ++ ": " ++ f.2.text))

/-- A failed validation: the section's name and every problem found. --/
structure Validation where
  title : String
  issues : List Issue
  deriving Inhabited

/-- What caused a configuration error, when another error did. --/
inductive Cause where
  | none
  | invalid (v : Validation)
  | raised (cls : String)
  deriving Inhabited

/-- An error of assembling telemetry, or of one of its steps. --/
inductive Fault where
  /-- The document declares a file format that is not supported. --/
  | unsupportedVersion (fileFormat : Json) (release : Option ReleaseError)
  /-- Nothing is registered under a component's extension point and name. --/
  | unknownProvider (cap : Capability) (name : Json) (available : List Json)
      (release : Option ReleaseError)
  /-- A component or a step rejected its configuration. --/
  | invalidCombination (message : String) (cause : Cause) (release : Option ReleaseError)
  /-- The document does not fit the schema. --/
  | documentParse (message : String) (cause : Cause) (release : Option ReleaseError)
  /-- A validation failed. --/
  | invalid (v : Validation)
  /-- A factory is already registered under a key. --/
  | registration (message : String)
  /-- An ordinary error. --/
  | failure (f : Failure)
  deriving Inhabited

namespace Fault

/-- The text of an unsupported file format error. --/
def unsupportedText (v : Json) : String :=
  "Unsupported file format: " ++ Json.literal v ++ ". Supported formats include 0.4, 1.0 and 1.0-rc.<n>"

/-- The text of an unknown component error. --/
def unknownText (cap : Capability) (name : Json) (available : List Json) : String :=
  "No " ++ cap.value ++ " provider named '" ++ Json.display name ++ "' is registered. Available " ++
    cap.value ++ " providers: " ++ (if available.isEmpty then "none" else Json.literal (.arr available))

/-- The error's text as another message quotes it. --/
def text : Fault → String
  | .unsupportedVersion v _ => unsupportedText v
  | .unknownProvider c n a _ => unknownText c n a
  | .invalidCombination m _ _ => m
  | .documentParse m _ _ => m
  | .invalid _ => "<ValidationError>"
  | .registration m => m
  | .failure f => f.text

/-- The error's message where it is reported itself: a validation names its section. --/
def message : Fault → String
  | .invalid v => v.title
  | e => e.text

/-- The class name of the error. --/
def className : Fault → String
  | .unsupportedVersion .. => "UnsupportedSchemaVersionError"
  | .unknownProvider .. => "UnknownProviderError"
  | .invalidCombination .. => "InvalidFieldCombinationError"
  | .documentParse .. => "DocumentParseError"
  | .invalid _ => "ValidationError"
  | .registration _ => "ProviderRegistrationError"
  | .failure f => f.cls.name

/-- Whether the error is a configuration error. --/
def isConfiguration : Fault → Bool
  | .unsupportedVersion .. | .unknownProvider .. | .invalidCombination .. | .documentParse .. => true
  | _ => false

/-- The error as the cause of another. --/
def asCause : Fault → Cause
  | .invalid v => .invalid v
  | e => .raised e.className

/-- A configuration error whose text quotes another error after a prefix. --/
def wrap (pre : String) (inner : Fault) : Fault :=
  .invalidCombination (pre ++ inner.text) inner.asCause none

/-- A configuration error raised by a step itself. --/
def rejected (message : String) : Fault := .invalidCombination message .none none

/-- Attach the error of the teardown that followed; other errors are unchanged. --/
def withRelease (r : Option ReleaseError) : Fault → Fault
  | .unsupportedVersion v _ => .unsupportedVersion v r
  | .unknownProvider c n a _ => .unknownProvider c n a r
  | .invalidCombination m c _ => .invalidCombination m c r
  | .documentParse m c _ => .documentParse m c r
  | e => e

theorem text_wrap (pre : String) (inner : Fault) : (wrap pre inner).text = pre ++ inner.text := rfl

end Fault

end Telemetry
