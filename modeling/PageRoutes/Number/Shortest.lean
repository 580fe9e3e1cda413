import PageRoutes.Number.Binary64
/-!
The shortest decimal text of a binary64 value.

The digits are the fewest that read back as the value: among the decimal numbers with
the fewest significant digits that round to the value, the one nearest to it, the one
with an even last digit on a tie. The text is positional for values from `1e-5` up to
`1e16`, with `.0` after an integer, and otherwise a mantissa and a signed exponent, as
in `1e+16` and `1.5e-7`.
-/
namespace PageRoutes

namespace Binary64

/-- The values that round to `x`, in units of `2 ^ (exponent - 2)`: the value is
`4 * significand`, the next value up lies 4 units above it, and the next value down 4
units below, or 2 at a power of two above the subnormal range. The halfway points bound
the values that round to `x`; they belong to it when its significand is even. -/
def halfways (x : Binary64) : Nat × Nat :=
  let v := 4 * x.significand
  let below := if x.significand = Nat.pow 2 52 && minExponent < x.exponent then 1 else 2
  (v - below, v + 2)

/-- The ratio `10 ^ e / 2 ^ (x.exponent - 2)`: a decimal step of `10 ^ e` in the units
of `halfways`. -/
def decimalStep (x : Binary64) (e : Int) : Nat × Nat :=
  let twos := x.exponent - 2
  (Nat.pow 2 (-twos).toNat * Nat.pow 10 e.toNat, Nat.pow 2 twos.toNat * Nat.pow 10 (-e).toNat)

/-- The least `c` with `c * n ≥ m`, for a positive `n`. -/
def ceilDiv (m n : Nat) : Nat := (m + n - 1) / n

/-- The multiples `c * 10 ^ e` that round to `x`, as the least and greatest `c`. -/
def candidates (x : Binary64) (e : Int) : Nat × Nat :=
  let bounds := x.halfways
  let step := x.decimalStep e
  let lo := bounds.1 * step.2
  let hi := bounds.2 * step.2
  if x.significand % 2 = 0 then (ceilDiv lo step.1, hi / step.1)
  else (lo / step.1 + 1, ceilDiv hi step.1 - 1)

/-- The multiple `c * 10 ^ e` nearest to `x` among those that round to it. -/
def nearestCandidate (x : Binary64) (e : Int) : Nat :=
  let range := x.candidates e
  let step := x.decimalStep e
  let c := roundHalfEven (4 * x.significand * step.2) step.1
  if c < range.1 then range.1 else if range.2 < c then range.2 else c

/-- The first decimal exponent from `e` down at which some multiple of a power of ten
rounds to `x`, with the nearest such multiple. Seventeen significant digits always
suffice, so the fuel is never the limit. -/
def shortestFrom (x : Binary64) : Nat → Int → Nat × Int
  | 0, e => (x.nearestCandidate e, e)
  | fuel + 1, e =>
    let range := x.candidates e
    if range.1 ≤ range.2 then (x.nearestCandidate e, e) else x.shortestFrom fuel (e - 1)

/-- A decimal exponent `e` with `10 ^ (e + 1)` above every value that rounds to `x`. -/
def startExponent (x : Binary64) : Int :=
  let top := scaleBinary (x.halfways.2) 1 (2 - x.exponent)
  if top.2 ≤ top.1 then (Nat.toDigits 10 (top.1 / top.2)).length
  else 1 - (Nat.toDigits 10 (top.2 / top.1)).length

/-- The shortest digits `c` and exponent `e` with `c * 10 ^ e` rounding to `x`, for a
value other than zero. -/
def shortest (x : Binary64) : Nat × Int := x.shortestFrom 40 (x.startExponent + 1)

/-- Splits off trailing zeros of a digit list, counting them. -/
def stripZeros (digits : List Char) : List Char × Nat :=
  let zeros := (digits.reverse.takeWhile (· = '0')).length
  (digits.take (digits.length - zeros), zeros)

/-- The text of an exponent: its sign, then its digits. -/
def exponentText (e : Int) : String :=
  if 0 ≤ e then "+" ++ toString e else toString e

/-- The text of `digits * 10 ^ k`, `digits` having no trailing zero: positional with
`.0` after an integer of up to 16 digits, positional for other values of up to 16
integer digits and for fractions of up to 4 leading zeros, and otherwise a mantissa
with an exponent. -/
def decimalText (digits : List Char) (k : Int) : String :=
  let kk : Int := digits.length + k
  if 0 ≤ k && kk ≤ 16 then
    String.ofList digits ++ String.ofList (List.replicate k.toNat '0') ++ ".0"
  else if 0 < kk && kk ≤ 16 then
    String.ofList (digits.take kk.toNat) ++ "." ++ String.ofList (digits.drop kk.toNat)
  else if -5 < kk && kk ≤ 0 then
    "0." ++ String.ofList (List.replicate (-kk).toNat '0') ++ String.ofList digits
  else
    match digits with
    | [d] => String.ofList [d] ++ "e" ++ exponentText (kk - 1)
    | d :: rest => String.ofList [d] ++ "." ++ String.ofList rest ++ "e" ++ exponentText (kk - 1)
    | [] => "0.0"

/-- The shortest text of a finite value that reads back as it. -/
def toText (x : Binary64) : String :=
  let sign := if x.negative then "-" else ""
  if x.isZero then sign ++ "0.0"
  else
    let found := x.shortest
    let stripped := stripZeros (Nat.toDigits 10 found.1)
    sign ++ decimalText stripped.1 (found.2 + stripped.2)

end Binary64

end PageRoutes
