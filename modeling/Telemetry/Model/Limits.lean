import Telemetry.Schema.Record

/-!
Attribute limits. A document may bound attributes once for every signal (`attribute_limits`) and
again per signal; a signal's own bound wins over the shared one, and an unset bound leaves the
one below it in place. Every bound is a non-negative integer. The tracer provider knows four
further bounds, on its events and links.
-/

namespace Telemetry.Model

open Schema Checked

/-- Read one bound: unset, or an integer that is at least zero. --/
def readBound : Json → Checked (Option Int) :=
  readOptional (readIntWithin [.atLeast 0])

/-- Bounds on the attributes of any telemetry item. --/
structure AttributeLimits where
  valueLength : Option Int
  count : Option Int
  deriving Inhabited

/-- Bounds on spans: the attribute bounds and those on events and links. --/
structure SpanLimitSettings where
  valueLength : Option Int
  count : Option Int
  eventCount : Option Int
  linkCount : Option Int
  eventAttributeCount : Option Int
  linkAttributeCount : Option Int
  deriving Inhabited

/-- The keys of the attribute bounds. --/
def attributeLimitKeys : List String := ["attribute_value_length_limit", "attribute_count_limit"]

/-- The keys of the span bounds, the attribute bounds first. --/
def spanLimitKeys : List String :=
  attributeLimitKeys ++ ["event_count_limit", "link_count_limit", "event_attribute_count_limit",
    "link_attribute_count_limit"]

namespace AttributeLimits

/-- Read attribute bounds from the members of a section. --/
def ofMembers (ms : Members) : Checked AttributeLimits :=
  closed ms (attributeLimitKeys.map (fun k => [k]))
    (AttributeLimits.mk
      <$> optionalField ms ["attribute_value_length_limit"] readBound none
      <*> optionalField ms ["attribute_count_limit"] readBound none)

/-- Read an attribute limits section. --/
def read : Json → Checked AttributeLimits := readSection ofMembers

/-- The bounds by key, in the order of the section. --/
def entries (l : AttributeLimits) : List (String × Option Int) :=
  [("attribute_value_length_limit", l.valueLength), ("attribute_count_limit", l.count)]

end AttributeLimits

namespace SpanLimitSettings

/-- Read span bounds from the members of a section. --/
def ofMembers (ms : Members) : Checked SpanLimitSettings :=
  closed ms (spanLimitKeys.map (fun k => [k]))
    (SpanLimitSettings.mk
      <$> optionalField ms ["attribute_value_length_limit"] readBound none
      <*> optionalField ms ["attribute_count_limit"] readBound none
      <*> optionalField ms ["event_count_limit"] readBound none
      <*> optionalField ms ["link_count_limit"] readBound none
      <*> optionalField ms ["event_attribute_count_limit"] readBound none
      <*> optionalField ms ["link_attribute_count_limit"] readBound none)

/-- Read a span limits section. --/
def read : Json → Checked SpanLimitSettings := readSection ofMembers

/-- The bounds by key, in the order of the section. --/
def entries (l : SpanLimitSettings) : List (String × Option Int) :=
  [("attribute_value_length_limit", l.valueLength), ("attribute_count_limit", l.count),
   ("event_count_limit", l.eventCount), ("link_count_limit", l.linkCount),
   ("event_attribute_count_limit", l.eventAttributeCount),
   ("link_attribute_count_limit", l.linkAttributeCount)]

end SpanLimitSettings

/-- Bounds by key as a dump shows them, unset ones as `null`. --/
def boundsJson (es : List (String × Option Int)) : Json :=
  .obj (es.map (fun e => (e.1, match e.2 with | some i => .int i | none => .null)))

/-- Merge limit sections, later ones winning: only the bounds that are set take part. --/
def mergeBounds (sections : List (List (String × Option Int))) : List (String × Int) :=
  sections.foldl (fun acc es =>
    es.foldl (fun acc e =>
      match e.2 with
      | some v => if acc.any (·.1 == e.1) then acc.map (fun a => if a.1 == e.1 then (e.1, v) else a)
                  else acc ++ [(e.1, v)]
      | none => acc) acc) []

/-- The merged bound under a key. --/
def boundOf (merged : List (String × Int)) (key : String) : Option Int :=
  (merged.find? (·.1 == key)).map (·.2)

/-- Which limits section a set of bounds is read as. --/
inductive LimitScope where
  | span
  | logRecord
  | attribute
  deriving DecidableEq, Repr, Inhabited

namespace LimitScope

/-- The name of the section, as a validation reports it. --/
def title : LimitScope → String
  | .span => "SpanLimitsModel"
  | .logRecord => "LogRecordLimitsModel"
  | .attribute => "AttributeLimitsModel"

/-- Read bounds as the section of the scope. --/
def read : LimitScope → Json → Checked (List (String × Option Int))
  | .span, v => (SpanLimitSettings.read v).map SpanLimitSettings.entries
  | .logRecord, v => (AttributeLimits.read v).map AttributeLimits.entries
  | .attribute, v => (AttributeLimits.read v).map AttributeLimits.entries

end LimitScope

theorem mergeBounds_nil : mergeBounds [] = [] := rfl

end Telemetry.Model
