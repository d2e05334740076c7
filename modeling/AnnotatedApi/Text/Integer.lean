/-!
Reading whole numbers.

A number is an optional sign and one or more decimal digits; leading zeros are allowed, and a value
outside the stated range is refused. The readers take a radix up to sixteen.
-/

namespace AnnotatedApi.Text

/-- The value of a digit below `radix`. -/
def digitValue? (radix : Nat) (c : Char) : Option Nat :=
  let n := c.toNat
  let value :=
    if '0'.toNat ≤ n ∧ n ≤ '9'.toNat then some (n - '0'.toNat)
    else if 'a'.toNat ≤ n ∧ n ≤ 'f'.toNat then some (n - 'a'.toNat + 10)
    else if 'A'.toNat ≤ n ∧ n ≤ 'F'.toNat then some (n - 'A'.toNat + 10)
    else none
  value.filter (· < radix)

/-- The value of a run of digits after the digits worth `acc`. -/
def digitsFrom? (radix acc : Nat) : List Char → Option Nat
  | [] => some acc
  | c :: rest => do digitsFrom? radix (acc * radix + (← digitValue? radix c)) rest

/-- The value of one or more digits. -/
def digits? (radix : Nat) (cs : List Char) : Option Nat :=
  if cs.isEmpty then none else digitsFrom? radix 0 cs

/-- A natural number below `bound`, with an optional plus sign. -/
def natural? (radix bound : Nat) (cs : List Char) : Option Nat :=
  (digits? radix (match cs with | '+' :: rest => rest | _ => cs)).filter (· < bound)

/-- A number from `-bound` up to but not including `bound`, with an optional sign. -/
def integer? (radix bound : Nat) (cs : List Char) : Option Int :=
  match cs with
  | '-' :: rest => ((digits? radix rest).filter (· ≤ bound)).map fun n => -(n : Int)
  | _ => (natural? radix bound cs).map Int.ofNat

/-- A signed 64-bit number in decimal. -/
def readInt64? (s : String) : Option Int :=
  integer? 10 (Nat.pow 2 63) s.toList

/-- An unsigned 64-bit number in decimal. -/
def readNat64? (s : String) : Option Nat :=
  natural? 10 (Nat.pow 2 64) s.toList

/-- Every number that is read lies in the stated range. -/
theorem natural?_lt {radix bound n : Nat} {cs : List Char} (h : natural? radix bound cs = some n) :
    n < bound := by
  simp only [natural?, Option.filter_eq_some_iff] at h
  simpa using h.2

end AnnotatedApi.Text
