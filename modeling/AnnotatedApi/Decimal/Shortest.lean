import AnnotatedApi.Decimal.Binary64

/-!
The shortest decimal that reads back as a given double.

The reals that round to `m * 2 ^ q` form an interval, its ends included when `m` is even. For one,
two, … digits the two neighbours of the value on that decimal grid are tested; the first grid with
a neighbour in the interval gives the digits, the nearer neighbour if both lie inside, and the even
one on an exact tie. Seventeen digits always suffice.
-/

namespace AnnotatedApi.Decimal

/-- The decimal `digits * 10 ^ exponent`. -/
structure Scaled where
  digits : Nat
  exponent : Int
deriving DecidableEq, Repr, Inhabited

namespace Scaled

/-- `10 ^ k ≤ num / den`. -/
def powerBelow (k : Int) (num den : Nat) : Bool :=
  Nat.pow 10 k.toNat * den ≤ num * Nat.pow 10 (-k).toNat

/-- Raises `k` while the next power of ten is still at most `num / den`. -/
def raise (num den : Nat) : Nat → Int → Int
  | 0, k => k
  | fuel + 1, k => if powerBelow (k + 1) num den then raise num den fuel (k + 1) else k

/-- The exponent of the greatest power of ten that is at most `num / den`. -/
def magnitude (num den : Nat) : Int :=
  raise num den 4 ((((num.log2 : Int) - (den.log2 : Int) - 1) * 30103).fdiv 100000 - 1)

/-- Moves the zeros at the end of the digits into the exponent. -/
def normalize (fuel : Nat) (d : Scaled) : Scaled :=
  match fuel with
  | 0 => d
  | fuel + 1 =>
    if d.digits % 10 == 0 && d.digits != 0 then normalize fuel ⟨d.digits / 10, d.exponent + 1⟩ else d

/-- Whether `c * 10 ^ g` lies between `low * unit` and `high * unit`, where the unit is
`2 ^ p` and the ends count if `closed`. -/
def inside (low high : Nat) (p : Int) (closed : Bool) (c : Nat) (g : Int) : Bool :=
  let grid := Nat.pow 10 g.toNat * Nat.pow 2 (-p).toNat
  let unit := Nat.pow 2 p.toNat * Nat.pow 10 (-g).toNat
  let x := c * grid
  if closed then low * unit ≤ x && x ≤ high * unit else low * unit < x && x < high * unit

/-- The decimal with `n` digits that reads back as `m * 2 ^ q`, if there is one. -/
def withDigits? (m : Nat) (q : Int) (k : Int) (n : Nat) : Option Scaled :=
  let p := q - 2
  let low := if m == Nat.pow 2 52 && Binary64.minExponent < q then 4 * m - 1 else 4 * m - 2
  let high := 4 * m + 2
  let closed := m % 2 == 0
  let g := k - (n : Int) + 1
  let grid := Nat.pow 10 g.toNat * Nat.pow 2 (-p).toNat
  let value := 4 * m * (Nat.pow 2 p.toNat * Nat.pow 10 (-g).toNat)
  let below := value / grid
  let above := below + 1
  let r := value % grid
  match inside low high p closed below g, inside low high p closed above g with
  | true, true =>
    if 2 * r < grid then some ⟨below, g⟩
    else if grid < 2 * r then some ⟨above, g⟩
    else some ⟨below + below % 2, g⟩
  | true, false => some ⟨below, g⟩
  | false, true => some ⟨above, g⟩
  | false, false => none

/-- The shortest decimal that reads back as `m * 2 ^ q`, for a positive significand. -/
def shortest (m : Nat) (q : Int) : Scaled :=
  let k := magnitude (m * Nat.pow 2 q.toNat) (Nat.pow 2 (-q).toNat)
  match (List.range 17).findSome? fun n => withDigits? m q k (n + 1) with
  | some d => d.normalize 400
  | none => ⟨m, 0⟩

end Scaled

end AnnotatedApi.Decimal
