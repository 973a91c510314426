/-!
Percent-decoding of text. Each run of ASCII characters is read as bytes, with `%XX` (two
hexadecimal digits of either case) standing for the byte `XX`; a `%` not followed by two such
digits stays as it is, and so does `+`. The bytes of a run are then read as UTF-8, each
ill-formed part becoming one `U+FFFD`: a byte that cannot start a sequence, or the longest
start of a sequence that breaks off. Characters beyond ASCII pass through unchanged, so a
byte written as `%XX` never joins with a character written literally.
-/

namespace Telemetry.Text

/-! ### Bytes of an ASCII run -/

/-- The value of a hexadecimal digit. --/
def hexDigit? (c : Char) : Option Nat :=
  if '0' ≤ c && c ≤ '9' then some (c.toNat - '0'.toNat)
  else if 'a' ≤ c && c ≤ 'f' then some (c.toNat - 'a'.toNat + 10)
  else if 'A' ≤ c && c ≤ 'F' then some (c.toNat - 'A'.toNat + 10)
  else none

/-- The bytes of a run of ASCII characters, each `%XX` read as one byte. --/
def percentBytes : List Char → List Nat
  | [] => []
  | '%' :: a :: b :: rest =>
    match hexDigit? a, hexDigit? b with
    | some x, some y => (16 * x + y) :: percentBytes rest
    | _, _ => '%'.toNat :: percentBytes (a :: b :: rest)
  | c :: rest => c.toNat :: percentBytes rest

/-! ### UTF-8 with replacement -/

/-- The length of the sequence a byte starts: `1` for ASCII, `0` for a byte that starts none. --/
def sequenceLength (b : Nat) : Nat :=
  if b < 0x80 then 1
  else if 0xC2 ≤ b && b ≤ 0xDF then 2
  else if 0xE0 ≤ b && b ≤ 0xEF then 3
  else if 0xF0 ≤ b && b ≤ 0xF4 then 4
  else 0

/-- The bounds of the second byte after a lead byte; they rule out overlong forms, surrogates and
code points beyond `U+10FFFF`. --/
def secondByteRange (b : Nat) : Nat × Nat :=
  if b == 0xE0 then (0xA0, 0xBF)
  else if b == 0xED then (0x80, 0x9F)
  else if b == 0xF0 then (0x90, 0xBF)
  else if b == 0xF4 then (0x80, 0x8F)
  else (0x80, 0xBF)

/-- How many of the next `k` bytes continue a sequence, the first within `lo`–`hi` and the others
within `0x80`–`0xBF`. --/
def continuationCount (lo hi : Nat) : Nat → List Nat → Nat
  | 0, _ => 0
  | _, [] => 0
  | k + 1, c :: cs => if lo ≤ c && c ≤ hi then continuationCount 0x80 0xBF k cs + 1 else 0

theorem continuationCount_le (lo hi k : Nat) (bs : List Nat) : continuationCount lo hi k bs ≤ bs.length := by
  induction bs generalizing lo hi k with
  | nil => cases k <;> simp [continuationCount]
  | cons c cs ih =>
    cases k with
    | zero => simp [continuationCount]
    | succ k =>
      simp only [continuationCount, List.length_cons]
      split
      · have := ih 0x80 0xBF k
        omega
      · omega

/-- The code point of a well-formed sequence: a lead byte and its continuation bytes. --/
def sequenceValue (b : Nat) (cont : List Nat) : Nat :=
  let lead := match cont.length with
    | 1 => b % 0x20
    | 2 => b % 0x10
    | _ => b % 0x08
  cont.foldl (fun acc c => acc * 0x40 + c % 0x40) lead

/-- Read bytes as UTF-8, each ill-formed part becoming one replacement character. --/
def decodeUtf8 : List Nat → List Char
  | [] => []
  | b :: rest =>
    let n := sequenceLength b
    if n == 1 then Char.ofNat b :: decodeUtf8 rest
    else if n == 0 then '�' :: decodeUtf8 rest
    else
      let range := secondByteRange b
      let k := continuationCount range.1 range.2 (n - 1) rest
      have : k ≤ rest.length := continuationCount_le _ _ _ _
      if k == n - 1 then Char.ofNat (sequenceValue b (rest.take k)) :: decodeUtf8 (rest.drop k)
      else '�' :: decodeUtf8 (rest.drop k)
termination_by bs => bs.length
decreasing_by all_goals (simp only [List.length_cons, List.length_drop]; omega)

/-! ### Runs -/

/-- Percent-decode text: ASCII runs through their bytes and UTF-8, other characters unchanged. --/
def percentDecode (s : String) : String :=
  let rec go (run : List Char) : List Char → List Char
    | [] => decodeUtf8 (percentBytes run.reverse)
    | c :: cs =>
      if c.toNat < 0x80 then go (c :: run) cs
      else decodeUtf8 (percentBytes run.reverse) ++ c :: go [] cs
  String.ofList (go [] s.toList)

end Telemetry.Text
