import Telemetry.Binary64.Basic

/-!
The decimal text of a double. A double is written with the fewest significant digits that read
back as the same double; of two such texts the one nearer to the exact value wins. Between
`10^-4` and `10^16` the digits are placed around a decimal point and a whole number keeps a
trailing `.0`; elsewhere they carry an exponent with a sign and at least two digits
(`1e+16`, `1e-05`).
-/

namespace Telemetry.Binary64

/-- Significant digits and the position of the decimal point: the value is `0.d₁d₂…dₙ · 10^point`. --/
structure DecimalDigits where
  digits : List Char
  point : Int
  deriving Repr, DecidableEq

/-- The decimal digits of a natural, most significant first. --/
def natDigits (n : Nat) : List Char := Nat.toDigits 10 n

/-- Drop zeros at the end of a digit list, keeping at least one digit. --/
def trimZeros (ds : List Char) : List Char :=
  match (ds.reverse.dropWhile (· == '0')).reverse with
  | [] => ['0']
  | r => r

/-- Of the two `n`-digit neighbours of the exact value `N` (written with `total` digits), the one
that reads back, the nearer if both do; `none` if neither lies in the interval `[lo, hi]` given in
quarters of the value's unit. --/
def pickAt (N total n lo4 hi4 : Nat) (inclusive : Bool) : Option (Nat × Bool) :=
  let scale := Nat.pow 10 (total - n)
  let p := N / scale
  let below := p * scale
  let above := (p + 1) * scale
  let inside (c : Nat) : Bool :=
    if inclusive then lo4 ≤ 4 * c && 4 * c ≤ hi4 else lo4 < 4 * c && 4 * c < hi4
  match inside below, inside above with
  | true, true =>
    let dBelow := N - below
    let dAbove := above - N
    if dBelow < dAbove then some (p, false)
    else if dAbove < dBelow then some (p + 1, true)
    else if p % 2 == 0 then some (p, false) else some (p + 1, true)
  | true, false => some (p, false)
  | false, true => some (p + 1, true)
  | false, false => none

/-- The first digit count, from `1` up to `limit`, at which a neighbour reads back. --/
def searchDigits (N total lo4 hi4 : Nat) (inclusive : Bool) : Nat → Nat → Option (Nat × Nat)
  | 0, _ => none
  | fuel + 1, n =>
    match pickAt N total n lo4 hi4 inclusive with
    | some (c, _) => some (c, n)
    | none => searchDigits N total lo4 hi4 inclusive fuel (n + 1)

/-- The shortest digits that read back as the positive double `m · 2^e`. --/
def shortestDigits (m : Nat) (e : Int) : DecimalDigits :=
  -- the exact value is `N · 10^s`, and one unit in the last place is `G · 10^s`
  let (N, s, G) : Nat × Int × Nat :=
    if e ≥ 0 then (m * Nat.pow 2 e.toNat, 0, Nat.pow 2 e.toNat) else (m * Nat.pow 5 (-e).toNat, e, Nat.pow 5 (-e).toNat)
  -- at the bottom of a binade the next double down is only half a unit away
  let boundary := m == Nat.pow 2 fracBits && e > minExp
  let lo4 := 4 * N - (if boundary then G else 2 * G)
  let hi4 := 4 * N + 2 * G
  let total := (natDigits N).length
  let limit := min total 17
  match searchDigits N total lo4 hi4 (m % 2 == 0) limit 1 with
  | some (c, n) =>
    let ds := natDigits c
    -- rounding up may carry into a new leading digit
    let point : Int := if ds.length > n then total + s + 1 else total + s
    { digits := trimZeros ds, point }
  | none => { digits := trimZeros (natDigits N), point := total + s }

/-- Write the magnitude of a finite nonzero double from its digits. --/
def layoutDigits (d : DecimalDigits) : String :=
  let n : Int := d.digits.length
  if -4 < d.point && d.point ≤ 16 then
    if d.point ≤ 0 then
      "0." ++ String.ofList (List.replicate (-d.point).toNat '0') ++ String.ofList d.digits
    else if d.point < n then
      String.ofList (d.digits.take d.point.toNat) ++ "." ++ String.ofList (d.digits.drop d.point.toNat)
    else
      String.ofList d.digits ++ String.ofList (List.replicate (d.point - n).toNat '0') ++ ".0"
  else
    let exp := d.point - 1
    let mant := match d.digits with
      | [] => "0"
      | [c] => String.singleton c
      | c :: rest => String.singleton c ++ "." ++ String.ofList rest
    let expDigits := natDigits exp.natAbs
    let expText := if expDigits.length < 2 then "0" ++ String.ofList expDigits else String.ofList expDigits
    mant ++ "e" ++ (if exp < 0 then "-" else "+") ++ expText

/-- The decimal text of a double: the shortest digits that read back, `inf`, `-inf` or `nan`. --/
def toDecimalText (x : Float) : String :=
  match shape x with
  | .nan => "nan"
  | .inf neg => if neg then "-inf" else "inf"
  | .finite neg m e =>
    let sign := if neg then "-" else ""
    if m == 0 then sign ++ "0.0" else sign ++ layoutDigits (shortestDigits m e)

/-- Whether a double is neither infinite nor a NaN. --/
def isFinite (x : Float) : Bool :=
  match shape x with
  | .finite .. => true
  | _ => false

end Telemetry.Binary64
