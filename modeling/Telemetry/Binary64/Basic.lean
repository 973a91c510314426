/-!
Doubles as exact numbers. `shape` reads a double's bits as a sign and an exact `m · 2^e`, and
`ofRatio?` goes the other way: it rounds an exact positive fraction to the nearest double, a tie
going to the even mantissa, and reports a value too large for any double instead of guessing.
Everything is computed in `Nat` arithmetic, so a conversion never passes through a decimal
approximation.
-/

namespace Telemetry.Binary64

/-- What the bits of a double stand for. --/
inductive Shape where
  | nan
  | inf (neg : Bool)
  /-- The value `(-1)^neg · mant · 2^exp`, with `mant < 2^53`. --/
  | finite (neg : Bool) (mant : Nat) (exp : Int)
  deriving Repr, DecidableEq

/-- The mantissa width of a double, the hidden bit excluded. --/
def fracBits : Nat := 52

/-- The exponent of the unit in the last place of the smallest doubles. --/
def minExp : Int := -1074

/-- Read a double's sign, exponent and fraction fields. --/
def shape (x : Float) : Shape :=
  let b := x.toBits.toNat
  let neg := b / Nat.pow 2 63 % 2 == 1
  let biased := b / Nat.pow 2 fracBits % 2048
  let frac := b % Nat.pow 2 fracBits
  if biased == 2047 then
    if frac == 0 then .inf neg else .nan
  else if biased == 0 then .finite neg frac minExp
  else .finite neg (frac + Nat.pow 2 fracBits) ((biased : Int) - 1075)

/-- The double with the given sign, biased exponent and fraction fields. --/
def assemble (neg : Bool) (biased frac : Nat) : Float :=
  Float.ofBits (UInt64.ofNat ((if neg then Nat.pow 2 63 else 0) + biased * Nat.pow 2 fracBits + frac))

/-- Positive infinity. --/
def infinity : Float := assemble false 2047 0

/-- The quiet not-a-number. --/
def notANumber : Float := assemble false 2047 (Nat.pow 2 51)

/-- Zero with the given sign. --/
def zero (neg : Bool) : Float := assemble neg 0 0

/-- `2^k` as a fraction `(num, den)` of naturals. --/
def pow2Frac (k : Int) : Nat × Nat :=
  if k ≥ 0 then (Nat.pow 2 k.toNat, 1) else (1, Nat.pow 2 (-k).toNat)

/-- The exponent `E` with `2^E ≤ n / d < 2^(E+1)`, for positive `n` and `d`. --/
def floorLog2Ratio (n d : Nat) : Int :=
  let guess : Int := (n.log2 : Int) - (d.log2 : Int)
  let (a, b) := pow2Frac guess
  -- `2^guess ≤ n/d` exactly when `a · d ≤ n · b`
  if a * d ≤ n * b then guess else guess - 1

/-- Round `num / den` to the nearest natural, a tie going to the even one. --/
def roundHalfEven (num den : Nat) : Nat :=
  let q := num / den
  let r := num % den
  if 2 * r > den || (2 * r == den && q % 2 == 1) then q + 1 else q

/-- The nearest double to `n / d` (with `d > 0`), with the given sign; `none` when it is beyond the
largest double. A tie goes to the even mantissa. --/
def ofRatio? (neg : Bool) (n d : Nat) : Option Float :=
  if n == 0 || d == 0 then some (zero neg)
  else
    let e := floorLog2Ratio n d
    -- exponent of the last mantissa bit; the smallest doubles fix it at `minExp`
    let q := max (e - fracBits) minExp
    let (a, b) := pow2Frac q
    let m := roundHalfEven (n * b) (d * a)
    let (m, q) := if m == Nat.pow 2 (fracBits + 1) then (Nat.pow 2 fracBits, q + 1) else (m, q)
    if m < Nat.pow 2 fracBits then some (assemble neg 0 m)
    else
      let biased := q + 1075
      if biased ≥ 2047 then none
      else some (assemble neg biased.toNat (m - Nat.pow 2 fracBits))

/-- The nearest double to an integer; `none` when it is too large for any double. --/
def ofInt? (i : Int) : Option Float :=
  ofRatio? (i < 0) i.natAbs 1

/-- The number of decimal digits of a positive natural. --/
def digitCount (n : Nat) : Nat := (Nat.toDigits 10 n).length

/-- The nearest double to `digits · 10^exp10`; a value beyond every double is an infinity and a value
below half the smallest one is a zero, as a decimal reader gives them. --/
def ofDecimal (neg : Bool) (digits : Nat) (exp10 : Int) : Float :=
  if digits == 0 then zero neg
  else
    let k : Int := digitCount digits
    if k + exp10 > 311 then (if neg then -infinity else infinity)
    else if k + exp10 < -326 then zero neg
    else
      let n := if exp10 ≥ 0 then digits * Nat.pow 10 exp10.toNat else digits
      let d := if exp10 ≥ 0 then 1 else Nat.pow 10 (-exp10).toNat
      (ofRatio? neg n d).getD (if neg then -infinity else infinity)

/-- Whether a double is finite and has no fractional part. --/
def isIntegral (x : Float) : Bool :=
  match shape x with
  | .finite _ m e => e ≥ 0 || m % Nat.pow 2 (-e).toNat == 0
  | _ => false

/-- The integer a finite integral double stands for. --/
def toInt? (x : Float) : Option Int :=
  match shape x with
  | .finite neg m e =>
    if e ≥ 0 then
      let v : Int := m * Nat.pow 2 e.toNat
      some (if neg then -v else v)
    else if m % Nat.pow 2 (-e).toNat == 0 then
      let v : Int := m / Nat.pow 2 (-e).toNat
      some (if neg then -v else v)
    else none
  | _ => none

/-- The integer part of a finite double, its fraction dropped toward zero. --/
def truncate? (x : Float) : Option Int :=
  match shape x with
  | .finite neg m e =>
    let v : Int := if e ≥ 0 then m * Nat.pow 2 e.toNat else m / Nat.pow 2 (-e).toNat
    some (if neg then -v else v)
  | _ => none

end Telemetry.Binary64
