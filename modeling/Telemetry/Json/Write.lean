import Telemetry.Json.Basic
import Telemetry.Binary64.Decimal

/-!
Writing JSON text. Text is written as it is, apart from the quote, the backslash and the control
characters, which are escaped; characters beyond ASCII stay literal. A float is written with the
fewest digits that read back (`2.0` keeps its point, `1e+30` its exponent). JSON has no literal
for an infinity or a NaN, so such a float is written as an object naming it:
`{"float": "inf"}`, `{"float": "-inf"}` or `{"float": "nan"}`.
-/

namespace Telemetry.Json

/-- The four hexadecimal digits of a code unit below `0x10000`. --/
def hex4 (n : Nat) : String :=
  let ds := Nat.toDigits 16 n
  String.ofList (List.replicate (4 - ds.length) '0' ++ ds)

/-- How one character of a string is written inside quotes. --/
def escapeChar (c : Char) : String :=
  if c == '"' then "\\\""
  else if c == '\\' then "\\\\"
  else if c == '\n' then "\\n"
  else if c == '\r' then "\\r"
  else if c == '\t' then "\\t"
  else if c == '\x08' then "\\b"
  else if c == '\x0c' then "\\f"
  else if c.toNat < 0x20 then "\\u" ++ hex4 c.toNat
  else String.singleton c

/-- A string as a JSON literal. --/
def quote (s : String) : String :=
  "\"" ++ String.join (s.toList.map escapeChar) ++ "\""

/-- A float as JSON: its shortest decimal text, or an object naming a non-finite value. --/
def renderFloat (x : Float) : String :=
  if Binary64.isFinite x then Binary64.toDecimalText x
  else "\x7b\"float\": " ++ quote (Binary64.toDecimalText x) ++ "\x7d"

mutual

/-- The JSON text of a value. --/
def render : Json → String
  | .null => "null"
  | .bool true => "true"
  | .bool false => "false"
  | .int i => toString i
  | .float x => renderFloat x
  | .str s => quote s
  | .arr xs => "[" ++ ", ".intercalate (renderItems xs) ++ "]"
  | .obj ms => "\x7b" ++ ", ".intercalate (renderMembers ms) ++ "\x7d"

/-- The texts of the items of an array. --/
def renderItems : List Json → List String
  | [] => []
  | x :: xs => render x :: renderItems xs

/-- The texts of the members of an object. --/
def renderMembers : List (String × Json) → List String
  | [] => []
  | (k, v) :: ms => (quote k ++ ": " ++ render v) :: renderMembers ms

end

end Telemetry.Json
