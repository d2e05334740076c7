/-!
Double-precision numbers, held exactly.

A finite number is a sign, a significand below `2 ^ 53` and a binary exponent, and stands for
`± significand * 2 ^ exponent`. `Binary64.ofRatio` gives the number nearest to a quotient of natural
numbers, a tie going to the even significand; every other way to make a number goes through it.
-/

namespace AnnotatedApi.Decimal

/-- A double-precision number. -/
inductive Binary64 where
  | finite (negative : Bool) (significand : Nat) (exponent : Int)
  | infinite (negative : Bool)
  | nan
deriving DecidableEq, Repr, Inhabited

namespace Binary64

/-- The least binary exponent. -/
def minExponent : Int := -1074

/-- The greatest binary exponent. -/
def maxExponent : Int := 971

/-- Zero with the given sign. -/
def zero (negative : Bool) : Binary64 := .finite negative 0 0

/-- Whether the number is neither infinite nor undefined. -/
def isFinite : Binary64 → Bool
  | .finite .. => true
  | _ => false

/-- Changes the sign. -/
def negate : Binary64 → Binary64
  | .finite s m e => .finite (!s) m e
  | .infinite s => .infinite (!s)
  | .nan => .nan

/-- The quotient `num / (den * 2 ^ e)` rounded to a whole number, ties to even. -/
def roundAt (num den : Nat) (e : Int) : Nat :=
  let n := num * Nat.pow 2 (-e).toNat
  let d := den * Nat.pow 2 e.toNat
  let q := n / d
  let r := n % d
  if 2 * r < d then q else if d < 2 * r then q + 1 else q + q % 2

/-- The integral part of `num / (den * 2 ^ e)`. -/
def floorAt (num den : Nat) (e : Int) : Nat :=
  num * Nat.pow 2 (-e).toNat / (den * Nat.pow 2 e.toNat)

/-- The binary exponent at which `num / den` has a significand of 53 bits, or the least one. -/
def exponentFor (num den : Nat) : Int :=
  let guess := max minExponent ((num.log2 : Int) - (den.log2 : Int) - 53)
  if floorAt num den guess < Nat.pow 2 53 then guess else guess + 1

/-- The double nearest to `num / den`. -/
def ofRatio (negative : Bool) (num den : Nat) : Binary64 :=
  if num == 0 then zero negative
  else
    let e := exponentFor num den
    let m := roundAt num den e
    let (m, e) := if m == Nat.pow 2 53 then (Nat.pow 2 52, e + 1) else (m, e)
    if m == 0 then zero negative
    else if maxExponent < e then .infinite negative
    else .finite negative m e

/-- The double nearest to a natural number. -/
def ofNat (n : Nat) : Binary64 := ofRatio false n 1

/-- The double nearest to an integer. -/
def ofInt (n : Int) : Binary64 := ofRatio (n < 0) n.natAbs 1

/-- The number of decimal digits of a natural number. -/
def digitCount (n : Nat) : Nat := (Nat.toDigits 10 n).length

/-- The double nearest to `digits * 10 ^ exponent`. Values beyond the range are settled by their
magnitude alone, so that no power of ten outgrows the range. -/
def ofDecimal (negative : Bool) (digits : Nat) (exponent : Int) : Binary64 :=
  if digits == 0 then zero negative
  else
    let magnitude := exponent + (digitCount digits : Int)
    if 310 < magnitude then .infinite negative
    else if magnitude < -330 then zero negative
    else ofRatio negative (digits * Nat.pow 10 exponent.toNat) (Nat.pow 10 (-exponent).toNat)

/-- Numerator and denominator of the magnitude of a finite number. -/
def ratio : Binary64 → Option (Nat × Nat)
  | .finite _ m e => some (m * Nat.pow 2 e.toNat, Nat.pow 2 (-e).toNat)
  | _ => none

/-- The product of two magnitudes, rounded once. -/
def timesMagnitude (x y : Binary64) : Binary64 :=
  match x.ratio, y.ratio with
  | some (a, b), some (c, d) => ofRatio false (a * c) (b * d)
  | _, _ => .infinite false

/-- The quotient of two magnitudes, rounded once; the divisor is positive. -/
def overMagnitude (x y : Binary64) : Binary64 :=
  match x.ratio, y.ratio with
  | some (a, b), some (c, d) => ofRatio false (a * d) (b * c)
  | _, _ => .zero false

end Binary64

end AnnotatedApi.Decimal
