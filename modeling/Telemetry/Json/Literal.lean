import Telemetry.Json.Basic
import Telemetry.Binary64.Decimal
import Telemetry.Text.Printable

/-!
Values written as literals inside messages. A message that quotes a configuration value writes it
the way a reader would type it back: `None`, `True` and `False`, integers in decimal, floats with
their shortest digits (`inf` and `nan` for the values without digits), strings in single quotes
unless they hold a single quote and no double quote, lists in brackets and mappings in braces with
`': '` between key and value. Inside a quoted string the backslash, the chosen quote, tab, newline
and carriage return are escaped, and so is every character that is not printable, by `\xhh`,
`\uhhhh` or `\Uhhhhhhhh`; printable characters beyond ASCII stay as they are.
-/

namespace Telemetry.Json

/-- The lowercase hexadecimal digits of `n`, padded with zeros to `width`. --/
def hexPadded (width n : Nat) : String :=
  let ds := Nat.toDigits 16 n
  String.ofList (List.replicate (width - ds.length) '0' ++ ds)

/-- How a character is written inside a string literal quoted by `q`. --/
def literalChar (q c : Char) : String :=
  if c == q || c == '\\' then String.ofList ['\\', c]
  else if c == '\t' then "\\t"
  else if c == '\n' then "\\n"
  else if c == '\r' then "\\r"
  else if Text.isPrintable c then String.singleton c
  else if c.toNat < 0x100 then "\\x" ++ hexPadded 2 c.toNat
  else if c.toNat < 0x10000 then "\\u" ++ hexPadded 4 c.toNat
  else "\\U" ++ hexPadded 8 c.toNat

/-- A string as a literal: in single quotes, or in double quotes when it holds a single quote and
no double quote. --/
def textLiteral (s : String) : String :=
  let q := if s.contains '\'' && !s.contains '"' then '"' else '\''
  String.singleton q ++ String.join (s.toList.map (literalChar q)) ++ String.singleton q

mutual

/-- A value as a literal. --/
def literal : Json → String
  | .null => "None"
  | .bool true => "True"
  | .bool false => "False"
  | .int i => toString i
  | .float x => Binary64.toDecimalText x
  | .str s => textLiteral s
  | .arr xs => "[" ++ ", ".intercalate (itemLiterals xs) ++ "]"
  | .obj ms => "\x7b" ++ ", ".intercalate (memberLiterals ms) ++ "\x7d"

/-- The literals of the items of a list. --/
def itemLiterals : List Json → List String
  | [] => []
  | x :: xs => literal x :: itemLiterals xs

/-- The literals of the members of a mapping, key and value joined by a colon. --/
def memberLiterals : List (String × Json) → List String
  | [] => []
  | (k, v) :: ms => (textLiteral k ++ ": " ++ literal v) :: memberLiterals ms

end

/-- A value as a message shows it in running text: a string as itself, anything else as its literal. --/
def display : Json → String
  | .str s => s
  | v => literal v

/-- A list of strings as a literal, such as a list of keys in a message. --/
def namesLiteral (names : List String) : String :=
  literal (.arr (names.map .str))

end Telemetry.Json
