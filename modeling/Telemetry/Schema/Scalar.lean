import Telemetry.Schema.Issue
import Telemetry.Binary64.Basic
import Telemetry.Text.Blank
import Telemetry.Text.Digit

/-!
Reading single values leniently, the way a document's fields are read. A field that wants a
boolean, an integer or a float takes any value that stands for one without loss:

* a boolean takes `true`/`false`, the integers `0` and `1` (also written as floats; an integer
  beyond 64 bits is not taken), and the texts
  `0`, `1`, `f`, `t`, `n`, `y`, `no`, `yes`, `off`, `on`, `false`, `true` in any case;
* an integer takes booleans, floats without a fractional part, and texts of an integer: a plain
  integer of at most 4300 digits as it stands, or else, after trimming `White_Space`, one written
  with leading zeros, a plus, single inner underscores or a point and zeros;
* a float takes integers small enough for a double, booleans, and texts of a number, `inf`,
  `infinity` or `nan`, inner single underscores dropped when no blank surrounds the text.

A text field takes only text. Each reader names the problem of a value it cannot take.
-/

namespace Telemetry.Schema

open Checked

/-! ### Integers written as text -/

/-- The value of ASCII decimal digits, if every character is one and there is at least one. --/
def asciiDigits? (cs : List Char) : Option Nat :=
  if cs.isEmpty || !cs.all Char.isDigit then none
  else some (cs.foldl (fun n c => n * 10 + (c.toNat - '0'.toNat)) 0)

/-- A text with its underscores dropped, when none stands first or last and no two stand
together. --/
def withoutUnderscores? (cs : List Char) : Option (List Char) :=
  if cs.head? == some '_' || cs.getLast? == some '_' || Text.doubledUnderscore cs then none
  else some (cs.filter (· != '_'))

/-- The part before the first point, when one or more zeros and nothing else follow it. --/
def beforeZeroFraction? (cs : List Char) : Option (List Char) :=
  match cs.span (· != '.') with
  | (whole, '.' :: frac) => if !frac.isEmpty && frac.all (· == '0') then some whole else none
  | _ => none

/-- The zeros and underscores that follow the zero a text starts with, after the character
before them. A point keeps that character, so that `00.0` leaves `0.0`; at the end of the text
only the last character stays. A digit or a sign ends the run; anything else refuses the text. --/
def skipLeadingZeros (prev : Char) : List Char → Option (List Char)
  | [] => some [prev]
  | c :: rest =>
    if c == '0' || c == '_' then skipLeadingZeros c rest
    else if c.isDigit || c == '-' || c == '+' then some (c :: rest)
    else if c == '.' then some (prev :: c :: rest)
    else none

/-- A text without its leading zeros and the underscores among them: `0_0_12` leaves `12` and
`000` leaves `0`. A text that does not start with an ASCII digit is refused. The run of zeros
ends at any digit or sign, so that `0-5` leaves `-5`. --/
def afterLeadingZeros? : List Char → Option (List Char)
  | '0' :: rest => skipLeadingZeros '0' rest
  | c :: rest => if c.isDigit then some (c :: rest) else none
  | [] => none

/-- The number of digits beyond which an integer text is refused for its size. --/
def integerDigitLimit : Nat := 4300

/-- How a text reads as a plain integer. --/
inductive PlainReading where
  | value (i : Int)
  /-- Its first run of digits is longer than `integerDigitLimit`. --/
  | tooLong
  | invalid
  deriving DecidableEq, Repr

/-- Read a plain integer: an optional minus, then `0` or digits that do not start with a zero,
and nothing after them. A zero followed by a digit is refused at once; a longer run of digits is
too long whatever follows it. --/
def plainInteger (cs : List Char) : PlainReading :=
  let (neg, body) : Bool × List Char := match cs with
    | '-' :: rest => (true, rest)
    | _ => (false, cs)
  let (digits, rest) := body.span Char.isDigit
  match digits with
  | [] => .invalid
  | '0' :: _ :: _ => .invalid
  | _ =>
    if digits.length > integerDigitLimit then .tooLong
    else if !rest.isEmpty then .invalid
    else
      let n : Int := digits.foldl (fun n c => n * 10 + (c.toNat - '0'.toNat)) 0
      .value (if neg then -n else n)

/-- Read an integer leniently: a leading plus dropped, then a leading minus kept before the rest,
the leading zeros dropped, then a point and zeros, then the underscores, and what is left read as
a plain integer of any length it allows. --/
def lenientInteger? (cs : List Char) : Option Int :=
  let unsigned : List Char := match cs with
    | '+' :: rest => rest
    | _ => cs
  let stripped : Option (List Char) := match unsigned with
    | '-' :: rest => (afterLeadingZeros? rest).map ('-' :: ·)
    | _ => afterLeadingZeros? unsigned
  stripped.bind fun r =>
    (withoutUnderscores? ((beforeZeroFraction? r).getD r)).bind fun r =>
      match plainInteger r with
      | .value i => some i
      | _ => none

/-- Read a text as an integer: as a plain integer, as it stands, or, when that is refused for
anything but its size, leniently after trimming `White_Space`. A lenient reading that fails, also
for its size, is a parsing failure, so a text is refused for its size only when it starts with its
digits. --/
def integerOfText (s : String) : Checked Int :=
  match plainInteger s.toList with
  | .value i => ok i
  | .tooLong => fail .intParsingSize
  | .invalid =>
    match lenientInteger? (Text.trimWhiteSpace s).toList with
    | some i => ok i
    | none => fail .intParsing

/-! ### Floats written as text -/

/-- Lowercase ASCII letters, other characters unchanged. --/
def asciiLower (cs : List Char) : List Char := cs.map Char.toLower

/-- An unsigned decimal number `digits ( . digits )? ( e sign? digits )?`, at least one digit
before or after the point. --/
def unsignedDecimal? (neg : Bool) (cs : List Char) : Option Float :=
  let (whole, rest) := cs.span Char.isDigit
  let (frac, hasPoint, rest) := match rest with
    | '.' :: r => let (f, r) := r.span Char.isDigit; (f, true, r)
    | r => ([], false, r)
  if whole.isEmpty && frac.isEmpty then none
  else
    let _ := hasPoint
    let exp? : Option Int := match rest with
      | [] => some 0
      | e :: r =>
        if e == 'e' || e == 'E' then
          match r with
          | '-' :: ds => (asciiDigits? ds).map (fun n => -(n : Int))
          | '+' :: ds => (asciiDigits? ds).map (fun n => (n : Int))
          | ds => (asciiDigits? ds).map (fun n => (n : Int))
        else none
    exp?.map fun exp =>
      let mant := (whole ++ frac).foldl (fun n c => n * 10 + (c.toNat - '0'.toNat)) 0
      Binary64.ofDecimal neg mant (exp - frac.length)

/-- A float text after its sign: a number, `inf`, `infinity` or `nan` in any case. --/
def unsignedFloat? (neg : Bool) (cs : List Char) : Option Float :=
  let low := asciiLower cs
  if low == "inf".toList || low == "infinity".toList then
    some (if neg then -Binary64.infinity else Binary64.infinity)
  else if low == "nan".toList then some Binary64.notANumber
  else unsignedDecimal? neg cs

/-- A float text with an optional sign. --/
def signedFloat? : List Char → Option Float
  | '-' :: rest => unsignedFloat? true rest
  | '+' :: rest => unsignedFloat? false rest
  | cs => unsignedFloat? false cs

/-- Read a text as a float, after trimming `White_Space`. Failing that, single underscores are
dropped from the untrimmed text, wherever they stand, and the rest is read without trimming: an
underscore form with blanks around it is refused. --/
def floatOfText (s : String) : Checked Float :=
  match signedFloat? (Text.trimWhiteSpace s).toList
      <|> (withoutUnderscores? s.toList).bind signedFloat? with
  | some x => ok x
  | none => fail .floatParsing

/-! ### Readers -/

/-- The integer a float stands for: finite, without a fraction, and strictly between `-2^63` and `2^63`. --/
def integerOfFloat (x : Float) : Checked Int :=
  match Binary64.shape x with
  | .nan | .inf _ => fail .finiteNumber
  | .finite .. =>
    match Binary64.toInt? x with
    | none => fail .intFromFloat
    | some i => if -(Int.pow 2 63) < i && i < Int.pow 2 63 then ok i else fail .intParsingSize

/-- The boolean an integer stands for. --/
def booleanOfInteger (i : Int) : Checked Bool :=
  if i == 0 then ok false else if i == 1 then ok true else fail .boolParsing

/-- The texts that read as `false` and as `true`, compared without regard to ASCII case. --/
def falseWords : List String := ["f", "n", "no", "off", "false"]
def trueWords : List String := ["t", "y", "on", "yes", "true"]

/-- Read a text as a boolean. --/
def booleanOfText (s : String) : Checked Bool :=
  let low := String.ofList (asciiLower s.toList)
  if s == "0" || falseWords.contains low then ok false
  else if s == "1" || trueWords.contains low then ok true
  else fail .boolParsing

/-- Read a boolean field. --/
def readBool : Json → Checked Bool
  | .bool b => ok b
  | .str s => booleanOfText s
  | .int i => if -(Int.pow 2 63) ≤ i && i < Int.pow 2 63 then booleanOfInteger i else fail .boolType
  | .float x =>
    match integerOfFloat x with
    | .ok i => booleanOfInteger i
    | .failed _ => fail .boolType
  | _ => fail .boolType

/-- Read an integer field. --/
def readInt : Json → Checked Int
  | .int i => ok i
  | .bool b => ok (if b then 1 else 0)
  | .str s => integerOfText s
  | .float x => integerOfFloat x
  | _ => fail .intType

/-- Read a float field. --/
def readFloat : Json → Checked Float
  | .float x => ok x
  | .str s => floatOfText s
  | .bool b => ok (if b then 1.0 else 0.0)
  | .int i =>
    match Binary64.ofInt? i with
    | some x => ok x
    | none => fail .floatType
  | _ => fail .floatType

/-- Read a text field; nothing but text is taken. --/
def readText : Json → Checked String
  | .str s => ok s
  | _ => fail .stringType

/-- Read one of a fixed set of texts, each standing for a value. --/
def readChoice {α : Type} (table : List (String × α)) : Json → Checked α
  | .str s =>
    match table.find? (fun e => e.1 == s) with
    | some e => ok e.2
    | none => fail .literalError
  | _ => fail .literalError

/-- Read a field that may also be `null`. --/
def readOptional {α : Type} (r : Json → Checked α) : Json → Checked (Option α)
  | .null => ok none
  | v => (r v).map some

/-- Read every item of a list, each problem placed under the item's position. --/
def readItems {α : Type} (r : Json → Checked α) : Nat → List Json → Checked (List α)
  | _, [] => ok []
  | i, x :: xs => List.cons <$> (r x).under (.index i) <*> readItems r (i + 1) xs

/-- Read a list field. --/
def readList {α : Type} (r : Json → Checked α) : Json → Checked (List α)
  | .arr xs => readItems r 0 xs
  | _ => fail .listType

/-- Read a mapping field, keeping its members as they are. --/
def readMapping : Json → Checked Members
  | .obj ms => ok ms
  | _ => fail .dictType

/-! ### Bounds -/

/-- A bound on a number, checked after the number is read. --/
inductive Bound where
  | atMost (b : Int)
  | below (b : Int)
  | atLeast (b : Int)
  | above (b : Int)

/-- The bounds in the order they are checked: upper bounds first, then lower ones. --/
def Bound.rank : Bound → Nat
  | .atMost _ => 0
  | .below _ => 1
  | .atLeast _ => 2
  | .above _ => 3

/-- The problem an integer has with a bound, if any. --/
def Bound.checkInt (i : Int) : Bound → Option Problem
  | .atMost b => if i ≤ b then none else some .lessThanEqual
  | .below b => if i < b then none else some .lessThan
  | .atLeast b => if b ≤ i then none else some .greaterThanEqual
  | .above b => if b < i then none else some .greaterThan

/-- The problem a float has with a bound, if any; a NaN fails every bound. --/
def Bound.checkFloat (x : Float) : Bound → Option Problem
  | .atMost b => if x ≤ Float.ofInt b then none else some .lessThanEqual
  | .below b => if x < Float.ofInt b then none else some .lessThan
  | .atLeast b => if Float.ofInt b ≤ x then none else some .greaterThanEqual
  | .above b => if Float.ofInt b < x then none else some .greaterThan

/-- The first problem a value has with bounds listed in checking order. --/
def firstProblem {α : Type} (check : α → Bound → Option Problem) (a : α) : List Bound → Option Problem
  | [] => none
  | b :: bs =>
    match check a b with
    | some p => some p
    | none => firstProblem check a bs

/-- Read an integer within bounds, listed upper bounds first. --/
def readIntWithin (bounds : List Bound) (v : Json) : Checked Int :=
  (readInt v).bind fun i =>
    match firstProblem Bound.checkInt i bounds with
    | some p => fail p
    | none => ok i

/-- Read a float within bounds, listed upper bounds first. --/
def readFloatWithin (bounds : List Bound) (v : Json) : Checked Float :=
  (readFloat v).bind fun x =>
    match firstProblem Bound.checkFloat x bounds with
    | some p => fail p
    | none => ok x

end Telemetry.Schema
