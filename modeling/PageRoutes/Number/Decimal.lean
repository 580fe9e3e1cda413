import PageRoutes.Number.Binary64
/-!
The value of a number written in a configuration document.

A number without a fraction or an exponent is an integer when it fits: from `0` to
`2 ^ 64 - 1`, or from `-2 ^ 63` to `-1`; `-0` and the integers beyond those ranges are
binary64 values. Other numbers are binary64 values, computed the fast way: the
significant digits are gathered into a 64-bit significand, digits past what it holds
are dropped (counted in the exponent when they stand before the point), the
significand is rounded to binary64, and it is then multiplied or divided once by the
binary64 power of ten, in steps of `10 ^ 308` for larger exponents. A value that would
exceed the finite range is refused.
-/
namespace PageRoutes

/-- A number as written: its sign, the digits before the point, the digits after it,
and the exponent with its sign. -/
structure NumberText where
  negative : Bool := false
  whole : List Nat
  fraction : Option (List Nat) := none
  /-- Whether the exponent is negative, and its digits. -/
  exponent : Option (Bool × List Nat) := none
deriving DecidableEq, Inhabited, Repr

/-- What a number reads as. -/
inductive NumberValue where
  | integer (n : Int)
  | float (x : Binary64)
deriving DecidableEq, Inhabited, Repr

namespace NumberText

/-- The greatest 64-bit significand. -/
def maxSignificand : Nat := Nat.pow 2 64 - 1

/-- The greatest exponent that is counted; a longer exponent is out of range. -/
def maxExponent : Nat := Nat.pow 2 31 - 1

/-- Whether `n * 10 + d` exceeds `bound`. -/
def overflows (bound n d : Nat) : Bool :=
  bound / 10 < n || (n = bound / 10 && bound % 10 < d)

/-- Appends digits to `n` while the result stays within `bound`: the result and the
digits left over. -/
def gather (bound n : Nat) : List Nat → Nat × List Nat
  | [] => (n, [])
  | d :: ds => if overflows bound n d then (n, d :: ds) else gather bound (n * 10 + d) ds

/-- An exponent held within the signed 32-bit range. -/
def clampExponent (e : Int) : Int :=
  max (-(Nat.pow 2 31 : Int)) (min e (Nat.pow 2 31 - 1 : Nat))

/-- `f / 10 ^ k`, by steps of `10 ^ 308` while `k` exceeds it, stopping at zero. -/
def scaleDown (f : Binary64) (k : Nat) : Binary64 :=
  if k ≤ 308 then f.div (Binary64.pow10 k)
  else if f.isZero then f
  else scaleDown (f.div (Binary64.pow10 308)) (k - 308)
termination_by k
decreasing_by omega

/-- The magnitude `significand * 10 ^ exponent`: none when it leaves the finite range. -/
def fromParts (significand : Nat) (exponent : Int) : Option Binary64 :=
  let f := Binary64.ofNat significand
  if exponent < 0 then some (scaleDown f (-exponent).toNat)
  else if exponent.toNat ≤ 308 then
    let r := f.mul (Binary64.pow10 exponent.toNat)
    if r.isFinite then some r else none
  else if f.isZero then some f
  else none

/-- The value with sign and magnitude: the magnitude negated for a negative number. -/
def signed (negative : Bool) (x : Binary64) : Binary64 := if negative then x.neg else x

/-- The magnitude of `significand` and exponent `start`, followed by an exponent of the
given sign and digits. An exponent too long to count gives zero when it is negative or
the significand is zero, and is out of range otherwise. -/
def withExponent (significand : Nat) (start : Int) (negativeExp : Bool) (digits : List Nat) :
    Option Binary64 :=
  match gather maxExponent 0 digits with
  | (e, []) =>
    fromParts significand (clampExponent (if negativeExp then start - e else start + e))
  | _ => if significand = 0 || negativeExp then some {} else none

/-- The magnitude after the fraction and exponent, from the significand and exponent of
the digits before the point. -/
def magnitude (t : NumberText) (significand : Nat) (start : Int) : Option Binary64 :=
  let (significand, exp) := match t.fraction with
    | none => (significand, start)
    | some digits =>
      let (n, rest) := gather maxSignificand significand digits
      (n, start - (digits.length - rest.length : Nat))
  match t.exponent with
  | none => fromParts significand exp
  | some (negativeExp, digits) => withExponent significand exp negativeExp digits

/-- The value of a number; none when it leaves the finite range. -/
def value (t : NumberText) : Option NumberValue :=
  match gather maxSignificand 0 t.whole with
  | (n, []) =>
    if t.fraction.isNone && t.exponent.isNone then
      if !t.negative then some (.integer n)
      else if n = 0 || Nat.pow 2 63 < n then some (.float (Binary64.ofNat n).neg)
      else some (.integer (-(n : Int)))
    else (t.magnitude n 0).map fun x => .float (signed t.negative x)
  | (n, rest) => (t.magnitude n rest.length).map fun x => .float (signed t.negative x)

end NumberText

end PageRoutes
