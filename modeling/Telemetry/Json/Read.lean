import Telemetry.Json.Basic
import Telemetry.Binary64.Basic

/-!
Reading JSON text. A number with a fraction or an exponent is a float, rounded to the nearest
double (beyond every double it is an infinity); any other number is an exact integer. The
literals `NaN`, `Infinity` and `-Infinity` are read as the matching floats. An object that writes
a key twice keeps the key where it first stood and takes the later value. Escapes `\uXXXX` that
form a surrogate pair are joined into one character.
-/

namespace Telemetry.Json

/-- Drop the blanks a JSON text may have between tokens. --/
def skipBlanks : List Char → List Char
  | c :: rest => if c == ' ' || c == '\t' || c == '\n' || c == '\r' then skipBlanks rest else c :: rest
  | [] => []

/-- The value of a hexadecimal digit. --/
def hexValue? (c : Char) : Option Nat :=
  if '0' ≤ c && c ≤ '9' then some (c.toNat - '0'.toNat)
  else if 'a' ≤ c && c ≤ 'f' then some (c.toNat - 'a'.toNat + 10)
  else if 'A' ≤ c && c ≤ 'F' then some (c.toNat - 'A'.toNat + 10)
  else none

/-- The code unit written by four hexadecimal digits. --/
def hex4? (a b c d : Char) : Option Nat := do
  let a ← hexValue? a
  let b ← hexValue? b
  let c ← hexValue? c
  let d ← hexValue? d
  pure (((a * 16 + b) * 16 + c) * 16 + d)

/-- The character of a code point; a lone surrogate has none and reads as the replacement character. --/
def charOfCode (n : Nat) : Char :=
  if n < 0xD800 || (0xDFFF < n && n < 0x110000) then Char.ofNat n else '�'

/-- The character of a `\uXXXX` escape, joined with a following escape when the two form a surrogate pair. --/
def escapedChar (hi : Nat) : List Char → Char × List Char
  | '\\' :: 'u' :: e :: f :: g :: h :: rest =>
    match hex4? e f g h with
    | some lo =>
      if 0xD800 ≤ hi && hi ≤ 0xDBFF && 0xDC00 ≤ lo && lo ≤ 0xDFFF then
        (Char.ofNat (0x10000 + (hi - 0xD800) * 0x400 + (lo - 0xDC00)), rest)
      else (charOfCode hi, '\\' :: 'u' :: e :: f :: g :: h :: rest)
    | none => (charOfCode hi, '\\' :: 'u' :: e :: f :: g :: h :: rest)
  | rest => (charOfCode hi, rest)

theorem escapedChar_length_le (hi : Nat) (cs : List Char) : (escapedChar hi cs).2.length ≤ cs.length := by
  unfold escapedChar
  split
  · split
    · split <;> simp <;> omega
    · simp
  · simp

/-- The one-character escapes and what they stand for. --/
def simpleEscape? : Char → Option Char
  | '"' => some '"'
  | '\\' => some '\\'
  | '/' => some '/'
  | 'b' => some '\x08'
  | 'f' => some '\x0c'
  | 'n' => some '\n'
  | 'r' => some '\r'
  | 't' => some '\t'
  | _ => none

/-- Read the rest of a string literal, after its opening quote. --/
def readStringBody (acc : List Char) : List Char → Except String (String × List Char)
  | [] => .error "Unterminated string"
  | '"' :: rest => .ok (String.ofList acc.reverse, rest)
  | '\\' :: 'u' :: a :: b :: c :: d :: rest =>
    match hex4? a b c d with
    | none => .error "Invalid \\uXXXX escape"
    | some hi =>
      have := escapedChar_length_le hi rest
      readStringBody ((escapedChar hi rest).1 :: acc) (escapedChar hi rest).2
  | '\\' :: c :: rest =>
    match simpleEscape? c with
    | some e => readStringBody (e :: acc) rest
    | none => .error "Invalid \\escape"
  | c :: rest => readStringBody (c :: acc) rest
termination_by cs => cs.length

/-- Split off the leading decimal digits. --/
def spanDigits (cs : List Char) : List Char × List Char :=
  (cs.takeWhile Char.isDigit, cs.dropWhile Char.isDigit)

/-- The natural written by decimal digits. --/
def digitsValue (ds : List Char) : Nat :=
  ds.foldl (fun n c => n * 10 + (c.toNat - '0'.toNat)) 0

/-- Read a number: `-? int frac? exp?`. --/
def readNumber (cs : List Char) : Except String (Json × List Char) :=
  let (neg, cs) := match cs with
    | '-' :: rest => (true, rest)
    | _ => (false, cs)
  let (intDigits, cs) := spanDigits cs
  if intDigits.isEmpty then .error "Expecting value"
  else
    let (fracDigits, hasFrac, cs) := match cs with
      | '.' :: rest =>
        let (fs, rest) := spanDigits rest
        (fs, true, rest)
      | _ => ([], false, cs)
    if hasFrac && fracDigits.isEmpty then .error "Expecting value"
    else
      let (exp, hasExp, ok, cs) : Int × Bool × Bool × List Char := match cs with
        | e :: rest =>
          if e == 'e' || e == 'E' then
            let (eneg, rest) := match rest with
              | '-' :: r => (true, r)
              | '+' :: r => (false, r)
              | r => (false, r)
            let (es, rest) := spanDigits rest
            let v : Int := digitsValue es
            (if eneg then -v else v, true, !es.isEmpty, rest)
          else (0, false, true, cs)
        | [] => (0, false, true, [])
      if !ok then .error "Expecting value"
      else if hasFrac || hasExp then
        let mant := digitsValue (intDigits ++ fracDigits)
        .ok (.float (Binary64.ofDecimal neg mant (exp - fracDigits.length)), cs)
      else
        let v : Int := digitsValue intDigits
        .ok (.int (if neg then -v else v), cs)

mutual

/-- Read one value; `fuel` bounds the nesting and is never smaller than the text. --/
def readValue : Nat → List Char → Except String (Json × List Char)
  | 0, _ => .error "Nesting too deep"
  | fuel + 1, cs =>
    match skipBlanks cs with
    | '{' :: rest => readMembers fuel [] true (skipBlanks rest)
    | '[' :: rest => readItems fuel [] true (skipBlanks rest)
    | '"' :: rest => do
      let (s, rest) ← readStringBody [] rest
      pure (.str s, rest)
    | 'n' :: 'u' :: 'l' :: 'l' :: rest => .ok (.null, rest)
    | 't' :: 'r' :: 'u' :: 'e' :: rest => .ok (.bool true, rest)
    | 'f' :: 'a' :: 'l' :: 's' :: 'e' :: rest => .ok (.bool false, rest)
    | 'N' :: 'a' :: 'N' :: rest => .ok (.float Binary64.notANumber, rest)
    | 'I' :: 'n' :: 'f' :: 'i' :: 'n' :: 'i' :: 't' :: 'y' :: rest => .ok (.float Binary64.infinity, rest)
    | '-' :: 'I' :: 'n' :: 'f' :: 'i' :: 'n' :: 'i' :: 't' :: 'y' :: rest =>
      .ok (.float (-Binary64.infinity), rest)
    | cs => readNumber cs

/-- Read the items of an array after its opening bracket. --/
def readItems : Nat → List Json → Bool → List Char → Except String (Json × List Char)
  | 0, _, _, _ => .error "Nesting too deep"
  | fuel + 1, acc, first, cs =>
    match cs with
    | ']' :: rest => if first then .ok (.arr acc.reverse, rest) else .error "Expecting value"
    | _ => do
      let (v, rest) ← readValue fuel cs
      match skipBlanks rest with
      | ',' :: rest => readItems fuel (v :: acc) false (skipBlanks rest)
      | ']' :: rest => pure (.arr (v :: acc).reverse, rest)
      | _ => .error "Expecting ',' delimiter"

/-- Read the members of an object after its opening brace. --/
def readMembers : Nat → Members → Bool → List Char → Except String (Json × List Char)
  | 0, _, _, _ => .error "Nesting too deep"
  | fuel + 1, acc, first, cs =>
    match cs with
    | '}' :: rest =>
      if first then .ok (.obj acc, rest) else .error "Expecting property name enclosed in double quotes"
    | '"' :: rest => do
      let (key, rest) ← readStringBody [] rest
      match skipBlanks rest with
      | ':' :: rest => do
        let (v, rest) ← readValue fuel rest
        let acc := acc.insert key v
        match skipBlanks rest with
        | ',' :: rest => readMembers fuel acc false (skipBlanks rest)
        | '}' :: rest => pure (.obj acc, rest)
        | _ => .error "Expecting ',' delimiter"
      | _ => .error "Expecting ':' delimiter"
    | _ => .error "Expecting property name enclosed in double quotes"

end

/-- Read a whole JSON text: one value, blanks around it and nothing else. --/
def parse (text : String) : Except String Json := do
  let cs := text.toList
  let (v, rest) ← readValue (cs.length + 1) cs
  match skipBlanks rest with
  | [] => pure v
  | _ => .error "Extra data"

end Telemetry.Json
