import Telemetry.Fault
import Telemetry.Text.Digit

/-!
The file formats a document may declare. Only formats known to this assembler are accepted; a
document of an unknown format is rejected outright instead of being read with today's meaning.
The accepted formats are `0.4`, `1.0` and the release candidates `1.0-rc.N`, where `N` is one or
more decimal digits of any script. Nothing else is accepted: no other text, no text with
anything before or after a format (a final newline included), and no value that is not text.
-/

namespace Telemetry

/-- Whether a text is one of the accepted formats. --/
def isSupportedFormatText (s : String) : Bool :=
  match s.toList with
  | ['0', '.', '4'] => true
  | ['1', '.', '0'] => true
  | '1' :: '.' :: '0' :: '-' :: 'r' :: 'c' :: '.' :: ds => !ds.isEmpty && ds.all Text.isDecimalDigit
  | _ => false

/-- Whether a declared file format is accepted. --/
def isSupportedFormat : Json → Bool
  | .str s => isSupportedFormatText s
  | _ => false

/-- Accept a declared file format, or reject the document. --/
def checkFileFormat (v : Json) : Except Fault String :=
  match v with
  | .str s => if isSupportedFormatText s then .ok s else .error (.unsupportedVersion (.str s) none)
  | other => .error (.unsupportedVersion other none)

theorem checkFileFormat_ok_iff (v : Json) (s : String) :
    checkFileFormat v = .ok s ↔ v = .str s ∧ isSupportedFormatText s = true := by
  cases v with
  | str t =>
    dsimp only [checkFileFormat]
    by_cases h : isSupportedFormatText t = true
    · rw [if_pos h]
      constructor
      · intro e
        cases e
        exact ⟨rfl, h⟩
      · rintro ⟨e, _⟩
        cases e
        rfl
    · rw [if_neg h]
      constructor
      · intro e
        cases e
      · rintro ⟨e, hs⟩
        cases e
        exact absurd hs h
  | _ => simp [checkFileFormat]

end Telemetry
