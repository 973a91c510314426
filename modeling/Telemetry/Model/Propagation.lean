import Telemetry.Model.Component
import Telemetry.Text.Blank

/-!
The propagator section: propagators listed as component references (`composite`) and by name in
one comma-separated text (`composite_list`). The effective list takes the references first, a name
listed twice counting once, then the names of the text that are not listed yet, each with the
empty configuration.
-/

namespace Telemetry.Model

open Schema Checked

/-- The propagator section of a document. --/
structure PropagatorSection where
  composite : List ComponentRef
  compositeList : Option String
  deriving Inhabited

namespace PropagatorSection

/-- Read a propagator section. --/
def read : Json → Checked PropagatorSection :=
  readSection fun ms =>
    closed ms [["composite"], ["composite_list"]]
      (PropagatorSection.mk
        <$> optionalField ms ["composite"] (readList ComponentRef.read) []
        <*> optionalField ms ["composite_list"] (readOptional readText) none)

/-- The names of a comma-separated list, trimmed, the empty ones left out. --/
def listedNames (s : String) : List String :=
  ((s.splitOn ",").map Text.strip).filter (fun n => !n.isEmpty)

/-- Keep the first reference of every name, in order. --/
def firstOfEachName : List String → List ComponentRef → List ComponentRef
  | _, [] => []
  | seen, c :: cs =>
    if seen.contains c.name then firstOfEachName seen cs
    else c :: firstOfEachName (c.name :: seen) cs

/-- The propagators to combine, in order and without repeats. --/
def effectiveComponents (p : PropagatorSection) : List ComponentRef :=
  let fromRefs := firstOfEachName [] p.composite
  let seen := fromRefs.map (·.name)
  let names := listedNames (p.compositeList.getD "")
  fromRefs ++ firstOfEachName seen (names.map ComponentRef.named)

/-- The section as a dump shows it. --/
def toJson (p : PropagatorSection) : Json :=
  .obj [("composite", .arr (p.composite.map ComponentRef.toJson)),
        ("composite_list", match p.compositeList with | some s => .str s | none => .null)]

theorem firstOfEachName_nil (seen : List String) : firstOfEachName seen [] = [] := rfl

end PropagatorSection

end Telemetry.Model
