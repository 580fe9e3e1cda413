/-!
Binary64 floating-point values computed exactly.

A value is a sign, a significand and a binary exponent. Every operation works on exact
ratios of natural numbers and rounds once, to the nearest value and to an even
significand on a tie, as binary64 arithmetic does. The exponent is not bounded above
here: a result past the largest finite value is recognised by `isFinite`. No runtime
floating-point operation is involved, so every result can be reasoned about.
-/
namespace PageRoutes

/-- The value `(-1) ^ negative * significand * 2 ^ exponent`. Rounding gives
significands below `2 ^ 53` and exponents of at least `-1074`; a value with an exponent
above `-1074` has a significand of at least `2 ^ 52`. Zero has significand `0`. -/
structure Binary64 where
  negative : Bool := false
  significand : Nat := 0
  exponent : Int := -1074
deriving DecidableEq, Inhabited, Repr

namespace Binary64

/-- The least binary exponent: that of the subnormal values. -/
def minExponent : Int := -1074

/-- The greatest binary exponent of a finite value. -/
def maxExponent : Int := 971

/-- The ratio `(num / den) / 2 ^ e`, as a numerator and a denominator. -/
def scaleBinary (num den : Nat) (e : Int) : Nat × Nat :=
  if 0 ≤ e then (num, den * Nat.pow 2 e.toNat) else (num * Nat.pow 2 (-e).toNat, den)

/-- The integer nearest to `num / den`, the even one on a tie. -/
def roundHalfEven (num den : Nat) : Nat :=
  let q := num / den
  let r := num % den
  if 2 * r < den then q
  else if den < 2 * r then q + 1
  else if q % 2 = 0 then q
  else q + 1

/-- The greatest `e` with `2 ^ e ≤ num / den`, for a positive ratio: the ratio lies
between `2 ^ (a - b - 1)` and `2 ^ (a - b + 1)` when `a` and `b` are the binary
logarithms of `num` and `den`, so one comparison decides. -/
def floorLog2 (num den : Nat) : Int :=
  let guess : Int := (Nat.log2 num : Int) - Nat.log2 den
  let scaled := scaleBinary num den guess
  if scaled.1 < scaled.2 then guess - 1 else guess

/-- The value nearest to `num / den` with the given sign: 53 significant bits, fewer
below the normal range, where the exponent stays at `-1074`. -/
def round (negative : Bool) (num den : Nat) : Binary64 :=
  if num = 0 then { negative }
  else
    let e := max (floorLog2 num den - 52) minExponent
    let scaled := scaleBinary num den e
    let m := roundHalfEven scaled.1 scaled.2
    if m = Nat.pow 2 53 then { negative, significand := Nat.pow 2 52, exponent := e + 1 }
    else { negative, significand := m, exponent := e }

/-- The value nearest to a natural number. -/
def ofNat (n : Nat) : Binary64 := round false n 1

/-- The value nearest to `10 ^ k`. -/
def pow10 (k : Nat) : Binary64 := ofNat (Nat.pow 10 k)

/-- The magnitude as a ratio of natural numbers. -/
def ratio (x : Binary64) : Nat × Nat := scaleBinary x.significand 1 (-x.exponent)

/-- Whether the value is zero, of either sign. -/
def isZero (x : Binary64) : Bool := x.significand = 0

/-- Whether the value lies within the finite range. -/
def isFinite (x : Binary64) : Bool := x.exponent ≤ maxExponent

/-- The value with the opposite sign. -/
def neg (x : Binary64) : Binary64 := { x with negative := !x.negative }

/-- The rounded product. -/
def mul (x y : Binary64) : Binary64 :=
  round (x.negative != y.negative) (x.ratio.1 * y.ratio.1) (x.ratio.2 * y.ratio.2)

/-- The rounded quotient; the divisor is not zero. -/
def div (x y : Binary64) : Binary64 :=
  round (x.negative != y.negative) (x.ratio.1 * y.ratio.2) (x.ratio.2 * y.ratio.1)

end Binary64

end PageRoutes
