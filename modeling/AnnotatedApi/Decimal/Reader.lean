import AnnotatedApi.Decimal.Binary64
import AnnotatedApi.Text.Integer

/-!
Reading a decimal text as a double.

The text is an optional sign followed by `inf`, `infinity` or `nan` in any letter case, or by digits
with an optional point among or beside them and an optional exponent. The result is the nearest
double, so a text beyond the range reads as infinite.
-/

namespace AnnotatedApi.Decimal

/-- The decimal digits at the front, and what follows them. -/
def digitRun (cs : List Char) : List Char × List Char :=
  (cs.takeWhile Char.isDigit, cs.dropWhile Char.isDigit)

/-- The value of a run of decimal digits; the empty run is worth zero. -/
def runValue (cs : List Char) : Nat :=
  cs.foldl (fun n c => n * 10 + (c.toNat - '0'.toNat)) 0

/-- An exponent part that takes up all of the text, or no exponent at all. -/
def readExponent? : List Char → Option Int
  | [] => some 0
  | c :: rest =>
    if c == 'e' || c == 'E' then
      let (negative, digits) := match rest with
        | '-' :: r => (true, r)
        | '+' :: r => (false, r)
        | r => (false, r)
      if digits.isEmpty || !digits.all Char.isDigit then none
      else some (if negative then -(runValue digits : Int) else (runValue digits : Int))
    else none

/-- A number without a sign. -/
def readUnsigned? (negative : Bool) (cs : List Char) : Option Binary64 :=
  let (whole, rest) := digitRun cs
  let (fraction, rest) := match rest with
    | '.' :: r => digitRun r
    | r => ([], r)
  if whole.isEmpty && fraction.isEmpty then none
  else (readExponent? rest).map fun e =>
    .ofDecimal negative (runValue (whole ++ fraction)) (e - (fraction.length : Int))

/-- The double that a decimal text denotes. -/
def read? (s : String) : Option Binary64 :=
  let (negative, cs) := match s.toList with
    | '-' :: r => (true, r)
    | '+' :: r => (false, r)
    | r => (false, r)
  let name := String.ofList (cs.map Char.toLower)
  if name == "inf" || name == "infinity" then some (.infinite negative)
  else if name == "nan" then some .nan
  else readUnsigned? negative cs

end AnnotatedApi.Decimal
