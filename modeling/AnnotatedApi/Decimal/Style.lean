import AnnotatedApi.Decimal.Shortest

/-!
Decimal texts of doubles.

Both document formats write the shortest digits. From `10 ^ -5` up to but not including `10 ^ 16`
a number is written positionally with at least one place after the point, otherwise with an
exponent. The formats differ in the sign of a positive exponent and in the texts of the numbers
that are not finite.
-/

namespace AnnotatedApi.Decimal

/-- What a format decides about the text of a double. -/
structure Style where
  /-- The mark in front of a positive exponent. -/
  positiveExponent : String
  undefined : String
  positiveInfinity : String
  negativeInfinity : String

namespace Style

/-- The digits of a natural number. -/
def digitText (n : Nat) : List Char := Nat.toDigits 10 n

/-- Positional notation of the digits `ds`, the first of which is worth `10 ^ e`. -/
def positional (ds : List Char) (e : Int) : List Char :=
  if e < 0 then
    '0' :: '.' :: (List.replicate ((-e).toNat - 1) '0' ++ ds)
  else
    let whole := e.toNat + 1
    if ds.length ≤ whole then
      ds ++ List.replicate (whole - ds.length) '0' ++ ['.', '0']
    else ds.take whole ++ '.' :: ds.drop whole

/-- Notation with an exponent of the digits `ds`, the first of which is worth `10 ^ e`. -/
def scientific (style : Style) (ds : List Char) (e : Int) : List Char :=
  let fraction := match ds with
    | [] => []
    | [d] => [d]
    | d :: rest => d :: '.' :: rest
  fraction ++ 'e' ::
    (if e < 0 then '-' :: digitText e.natAbs else style.positiveExponent.toList ++ digitText e.toNat)

/-- The text of a double. -/
def text (style : Style) : Binary64 → String
  | .nan => style.undefined
  | .infinite false => style.positiveInfinity
  | .infinite true => style.negativeInfinity
  | .finite negative m q =>
    let sign := if negative then ['-'] else []
    if m == 0 then .ofList (sign ++ ['0', '.', '0'])
    else
      let d := Scaled.shortest m q
      let ds := digitText d.digits
      let e := d.exponent + (ds.length : Int) - 1
      .ofList (sign ++ (if -5 ≤ e ∧ e < 16 then positional ds e else style.scientific ds e))

end Style

end AnnotatedApi.Decimal
