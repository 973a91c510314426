import Mathlib.Computability.Language
import Telemetry.FileFormat

/-!
The file-format gate against the pattern it stands for.

The accepted formats are written as the pattern `0\.4|1\.0(-rc\.\d+)?`, of which a format must be a
full match. Patterns are read here as the languages they match (`Pattern.lang`): a sequence matches
a match of its first part followed by one of its second, an alternative the matches of either, an
optional part the empty text as well, a repeated part one match or more in a row, and the class
`\d` one decimal digit of any script. A full match asks the whole text to be in the language, so
nothing may stand before or after a format, a final newline included.

The gate's matcher agrees with the pattern on every text (`isSupportedFormatText_iff_mem`), and in
plain words it accepts `0.4`, `1.0` and `1.0-rc.` followed by one or more decimal digits
(`isSupportedFormatText_iff`).
-/

namespace Telemetry

open Computability

namespace Text

/-- Regular patterns over characters: the empty pattern, one character, the decimal digit class
`\d`, a sequence, an alternative, an optional part `(p)?` and a repeated part `p+`. --/
inductive Pattern where
  | empty
  | char (c : Char)
  | digit
  | seq (p q : Pattern)
  | alt (p q : Pattern)
  | opt (p : Pattern)
  | plus (p : Pattern)

namespace Pattern

/-- The texts a pattern matches whole. --/
def lang : Pattern → Language Char
  | empty => 1
  | char c => {s | s = [c]}
  | digit => {s | ∃ d, isDecimalDigit d = true ∧ s = [d]}
  | seq p q => p.lang * q.lang
  | alt p q => p.lang + q.lang
  | opt p => 1 + p.lang
  | plus p => p.lang * p.lang∗

/-- The pattern matching one text, character for character. --/
def literal : List Char → Pattern
  | [] => empty
  | c :: cs => seq (char c) (literal cs)

/-! ### Membership, constructor by constructor -/

@[simp] theorem mem_lang_empty {s : List Char} : s ∈ empty.lang ↔ s = [] := Language.mem_one s

@[simp] theorem mem_lang_char {c : Char} {s : List Char} : s ∈ (char c).lang ↔ s = [c] := Iff.rfl

@[simp] theorem mem_lang_digit {s : List Char} : s ∈ digit.lang ↔ ∃ d, isDecimalDigit d = true ∧ s = [d] :=
  Iff.rfl

@[simp] theorem mem_lang_seq {p q : Pattern} {s : List Char} :
    s ∈ (seq p q).lang ↔ ∃ a ∈ p.lang, ∃ b ∈ q.lang, a ++ b = s := Language.mem_mul

@[simp] theorem mem_lang_alt {p q : Pattern} {s : List Char} : s ∈ (alt p q).lang ↔ s ∈ p.lang ∨ s ∈ q.lang :=
  Language.mem_add _ _ s

@[simp] theorem mem_lang_opt {p : Pattern} {s : List Char} : s ∈ (opt p).lang ↔ s = [] ∨ s ∈ p.lang := by
  rw [lang, Language.mem_add, Language.mem_one]

theorem mem_lang_plus {p : Pattern} {s : List Char} :
    s ∈ (plus p).lang ↔ ∃ a ∈ p.lang, ∃ b ∈ p.lang∗, a ++ b = s := Language.mem_mul

/-! ### Literals and digits -/

theorem mem_literal {cs s : List Char} : s ∈ (literal cs).lang ↔ s = cs := by
  induction cs generalizing s with
  | nil => exact mem_lang_empty
  | cons c cs ih =>
    simp only [literal, mem_lang_seq, mem_lang_char, ih]
    constructor
    · rintro ⟨a, rfl, b, rfl, rfl⟩
      rfl
    · rintro rfl
      exact ⟨[c], rfl, cs, rfl, rfl⟩

theorem mem_literal_seq {cs s : List Char} {p : Pattern} :
    s ∈ (seq (literal cs) p).lang ↔ ∃ t ∈ p.lang, s = cs ++ t := by
  simp only [mem_lang_seq, mem_literal]
  constructor
  · rintro ⟨a, rfl, t, ht, rfl⟩
    exact ⟨t, ht, rfl⟩
  · rintro ⟨t, ht, rfl⟩
    exact ⟨cs, rfl, t, ht, rfl⟩

theorem mem_digit_kstar {s : List Char} : s ∈ digit.lang∗ ↔ ∀ d ∈ s, isDecimalDigit d = true := by
  rw [Language.mem_kstar]
  constructor
  · rintro ⟨L, rfl, hL⟩ d hd
    obtain ⟨w, hw, hdw⟩ := List.mem_flatten.mp hd
    obtain ⟨e, he, rfl⟩ := mem_lang_digit.mp (hL w hw)
    rw [List.mem_singleton.mp hdw]
    exact he
  · intro h
    -- one word of one digit for every character
    refine ⟨s.map fun d => [d], by rw [← List.flatMap_def, List.flatMap_singleton'], ?_⟩
    intro w hw
    obtain ⟨d, hd, rfl⟩ := List.mem_map.mp hw
    exact ⟨d, h d hd, rfl⟩

theorem mem_plus_digit {s : List Char} :
    s ∈ (plus digit).lang ↔ s ≠ [] ∧ ∀ d ∈ s, isDecimalDigit d = true := by
  rw [mem_lang_plus]
  constructor
  · rintro ⟨a, ha, b, hb, rfl⟩
    obtain ⟨d, hd, rfl⟩ := mem_lang_digit.mp ha
    refine ⟨List.cons_ne_nil _ _, ?_⟩
    intro e he
    rcases List.mem_cons.mp he with rfl | he
    · exact hd
    · exact mem_digit_kstar.mp hb e he
  · rintro ⟨hne, hall⟩
    -- the first digit is the one match, the rest the repetition
    obtain ⟨d, rest, rfl⟩ := List.exists_cons_of_ne_nil hne
    exact ⟨[d], ⟨d, hall d List.mem_cons_self, rfl⟩, rest,
      mem_digit_kstar.mpr fun e he => hall e (List.mem_cons_of_mem d he), rfl⟩

end Pattern

end Text

open Text Pattern

/-! ### The accepted formats -/

/-- The pattern of the accepted formats, `0\.4|1\.0(-rc\.\d+)?`. --/
def formatPattern : Pattern :=
  .alt (.literal "0.4".toList) (.seq (.literal "1.0".toList) (.opt (.seq (.literal "-rc.".toList) (.plus .digit))))

/-- A release candidate's number: one decimal digit or more. --/
def CandidateNumber (ds : List Char) : Prop := ds ≠ [] ∧ ∀ d ∈ ds, isDecimalDigit d = true

theorem mem_formatPattern {s : List Char} :
    s ∈ formatPattern.lang ↔
      s = "0.4".toList ∨ s = "1.0".toList ∨ ∃ ds, CandidateNumber ds ∧ s = "1.0".toList ++ "-rc.".toList ++ ds := by
  simp only [formatPattern, mem_lang_alt, mem_literal, mem_literal_seq, mem_lang_opt, mem_plus_digit,
    CandidateNumber]
  constructor
  · rintro (h | ⟨t, rfl | ⟨ds, hds, rfl⟩, rfl⟩)
    · exact .inl h
    · exact .inr (.inl (List.append_nil _))
    · exact .inr (.inr ⟨ds, hds, (List.append_assoc _ _ _).symm⟩)
  · rintro (h | h | ⟨ds, hds, rfl⟩)
    · exact .inl h
    · exact .inr ⟨[], .inl rfl, by rw [h, List.append_nil]⟩
    · exact .inr ⟨_, .inr ⟨ds, hds, rfl⟩, List.append_assoc _ _ _⟩

theorem isSupportedFormatText_cases (s : String) :
    isSupportedFormatText s = true ↔
      s.toList = "0.4".toList ∨ s.toList = "1.0".toList ∨
        ∃ ds, CandidateNumber ds ∧ s.toList = "1.0".toList ++ "-rc.".toList ++ ds := by
  unfold isSupportedFormatText CandidateNumber
  generalize s.toList = l
  constructor
  · intro h
    split at h
    · exact .inl rfl
    · exact .inr (.inl rfl)
    · next ds =>
      simp only [Bool.and_eq_true, Bool.not_eq_true', List.isEmpty_eq_false_iff, List.all_eq_true] at h
      exact .inr (.inr ⟨ds, h, rfl⟩)
    · cases h
  · rintro (rfl | rfl | ⟨ds, ⟨hne, hall⟩, rfl⟩)
    · rfl
    · rfl
    · simpa [List.isEmpty_eq_false_iff.mpr hne] using hall

/-- The gate's matcher accepts exactly the full matches of the pattern. --/
theorem isSupportedFormatText_iff_mem (s : String) : isSupportedFormatText s = true ↔ s.toList ∈ formatPattern.lang := by
  rw [isSupportedFormatText_cases, mem_formatPattern]

/-- In plain words: `0.4`, `1.0`, or `1.0-rc.` followed by one or more decimal digits, and nothing
else. --/
theorem isSupportedFormatText_iff (s : String) :
    isSupportedFormatText s = true ↔ s = "0.4" ∨ s = "1.0" ∨ ∃ ds, CandidateNumber ds ∧ s = "1.0-rc." ++ String.ofList ds := by
  rw [isSupportedFormatText_cases]
  have hrc : ∀ ds, "1.0".toList ++ "-rc.".toList ++ ds = ("1.0-rc." ++ String.ofList ds).toList := by
    intro ds
    simp [String.toList_append, String.toList_ofList]
  simp only [hrc, String.toList_inj]

-- Digits of any script count, a superscript is no decimal digit, and a final newline is left over.
example : isSupportedFormatText "1.0-rc.١٢" = true := by decide
example : isSupportedFormatText "1.0-rc.²" = false := by decide
example : isSupportedFormatText "1.0\n" = false := by decide

theorem checkFileFormat_of_supported {v : Json} (h : isSupportedFormat v = true) :
    ∃ s, v = .str s ∧ checkFileFormat v = .ok s := by
  cases v with
  | str s => exact ⟨s, rfl, (checkFileFormat_ok_iff _ s).mpr ⟨rfl, h⟩⟩
  | _ => cases h

theorem checkFileFormat_of_unsupported {v : Json} (h : isSupportedFormat v = false) :
    checkFileFormat v = .error (.unsupportedVersion v none) := by
  cases v with
  | str s =>
    have hs : isSupportedFormatText s = false := h
    simp [checkFileFormat, hs]
  | _ => rfl

/-- The gate in full: which values it accepts, as the pattern says and in plain words, and what it
answers for each value. --/
structure FormatGate (v : Json) : Prop where
  pattern : isSupportedFormat v = true ↔ ∃ s, v = .str s ∧ s.toList ∈ formatPattern.lang
  formats : isSupportedFormat v = true ↔
    ∃ s, v = .str s ∧ (s = "0.4" ∨ s = "1.0" ∨ ∃ ds, CandidateNumber ds ∧ s = "1.0-rc." ++ String.ofList ds)
  accepted : isSupportedFormat v = true → ∃ s, v = .str s ∧ checkFileFormat v = .ok s
  refused : isSupportedFormat v = false → checkFileFormat v = .error (.unsupportedVersion v none)

theorem fileFormat_gate (v : Json) : FormatGate v := by
  -- only a text can be accepted; for a text the gate is its matcher
  have htext : isSupportedFormat v = true ↔ ∃ s, v = .str s ∧ isSupportedFormatText s = true := by
    cases v with
    | str s =>
      constructor
      · intro h
        exact ⟨s, rfl, h⟩
      · rintro ⟨t, ht, h⟩
        cases ht
        exact h
    | _ => simp [isSupportedFormat]
  refine ⟨?_, ?_, checkFileFormat_of_supported, checkFileFormat_of_unsupported⟩
  · simp only [htext, isSupportedFormatText_iff_mem]
  · simp only [htext, isSupportedFormatText_iff]

end Telemetry
