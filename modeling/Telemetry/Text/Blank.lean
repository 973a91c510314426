/-!
Blank characters and trimming. Two notions of a blank are in use. Text that a configuration value
is cut into (entries of a `key=value` list, component names) is trimmed of the characters a
string's own `strip` drops, which take the four information separators `U+001C`–`U+001F` for
blanks. Text that is read as a number is trimmed of the characters with the Unicode property
`White_Space`, which does not contain them.
-/

namespace Telemetry.Text

/-- The blanks that a string's `strip` drops, as closed ranges of code points. --/
def stripBlankRanges : List (Nat × Nat) :=
  [(0x9, 0xD), (0x1C, 0x20), (0x85, 0x85), (0xA0, 0xA0), (0x1680, 0x1680), (0x2000, 0x200A),
   (0x2028, 0x2029), (0x202F, 0x202F), (0x205F, 0x205F), (0x3000, 0x3000)]

/-- Whether a string's `strip` drops a character. --/
def isStripBlank (c : Char) : Bool :=
  stripBlankRanges.any (fun r => r.1 ≤ c.toNat && c.toNat ≤ r.2)

/-- Whether a character has the Unicode property `White_Space`. --/
def isWhiteSpace (c : Char) : Bool :=
  isStripBlank c && !(0x1C ≤ c.toNat && c.toNat ≤ 0x1F)

/-- Whether a whole-number reader skips a character at either end of its text: an ASCII space,
tab, line feed, vertical tab, form feed or carriage return, or a blank beyond ASCII. The
separators U+001C to U+001F are blanks to `strip` but not to this reader. --/
def isWholeNumberBlank (c : Char) : Bool :=
  if c.toNat < 128 then c == ' ' || (0x09 ≤ c.toNat && c.toNat ≤ 0x0D) else isStripBlank c

/-- Drop the characters satisfying `p` from both ends. --/
def trimBy (p : Char → Bool) (s : String) : String :=
  String.ofList ((s.toList.dropWhile p).reverse.dropWhile p).reverse

/-- A string without its leading and trailing blanks, as `strip` cuts it. --/
def strip (s : String) : String := trimBy isStripBlank s

/-- A string without its leading and trailing `White_Space`, as a number reader cuts it. --/
def trimWhiteSpace (s : String) : String := trimBy isWhiteSpace s

theorem isWhiteSpace_imp {c : Char} (h : isWhiteSpace c = true) : isStripBlank c = true := by
  simp only [isWhiteSpace, Bool.and_eq_true] at h
  exact h.1

end Telemetry.Text
