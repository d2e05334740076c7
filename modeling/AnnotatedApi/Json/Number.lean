import AnnotatedApi.Json.Basic
import AnnotatedApi.Decimal.Reader

/-!
The number syntax of JSON texts.

A number without point and exponent that fits into 64 bits is whole. Any other is a double: as many
leading digits as fit into 64 bits form the significand, which is rounded and then scaled by a power
of ten with one more rounding. A double beyond the range is refused.
-/

namespace AnnotatedApi.Json

open Decimal (Binary64 digitRun runValue)

/-- The greatest power of ten a double is scaled by in one step. -/
def maxPower : Nat := 308

/-- Scales `x` by `10 ^ e`; a double beyond the range gives none. -/
def scaleBy (x : Binary64) (e : Int) : Nat → Option Binary64
  | 0 => some (.zero false)
  | fuel + 1 =>
    if e.natAbs ≤ maxPower then
      if 0 ≤ e then
        let y := x.timesMagnitude (.ofNat (Nat.pow 10 e.natAbs))
        if y.isFinite then some y else none
      else some (x.overMagnitude (.ofNat (Nat.pow 10 e.natAbs)))
    else if x == .zero false then some x
    else if 0 ≤ e then none
    else scaleBy (x.overMagnitude (.ofNat (Nat.pow 10 maxPower))) (e + maxPower) fuel

/-- The double with the given sign, significand and power of ten. -/
def double? (negative : Bool) (significand : Nat) (e : Int) : Option Json :=
  (scaleBy (.ofNat significand) e 8).map fun x => .float (if negative then x.negate else x)

/-- Appends digits to `sig` while it stays below `2 ^ 64`; gives the result, the number of digits
taken and what follows them. -/
def absorb (sig count : Nat) : List Char → Nat × Nat × List Char
  | [] => (sig, count, [])
  | c :: rest =>
    if c.isDigit then
      let next := sig * 10 + (c.toNat - '0'.toNat)
      if next < Nat.pow 2 64 then absorb next (count + 1) rest else (sig, count, c :: rest)
    else (sig, count, c :: rest)

/-- Reads the exponent after its mark, for a significand worth `sig * 10 ^ e`. -/
def readPower? (negative : Bool) (sig : Nat) (e : Int) (cs : List Char) :
    Option (Json × List Char) :=
  let (down, cs) := match cs with
    | '+' :: r => (false, r)
    | '-' :: r => (true, r)
    | r => (false, r)
  let (digits, rest) := digitRun cs
  if digits.isEmpty then none
  else
    let power := runValue digits
    if Nat.pow 2 31 ≤ power then
      if sig == 0 || down then some (.float (.zero negative), rest) else none
    else (double? negative sig (if down then e - power else e + power)).map (·, rest)

/-- Reads what follows the digits of a double worth `sig * 10 ^ e`. -/
def readScaled? (negative : Bool) (sig : Nat) (e : Int) (cs : List Char) :
    Option (Json × List Char) :=
  match cs with
  | 'e' :: rest | 'E' :: rest => readPower? negative sig e rest
  | rest => (double? negative sig e).map (·, rest)

/-- Reads what follows the digits in front of the point. The significand `sig` has lost `dropped`
digits. -/
def readTail? (negative : Bool) (sig dropped : Nat) (cs : List Char) : Option (Json × List Char) :=
  match cs with
  | '.' :: rest =>
    if (digitRun rest).1.isEmpty then none
    else
      let (sig, count, rest) := absorb sig 0 rest
      readScaled? negative sig ((dropped : Int) - (count : Int)) (digitRun rest).2
  | 'e' :: rest | 'E' :: rest => readPower? negative sig dropped rest
  | rest =>
    if 0 < dropped then (double? negative sig dropped).map (·, rest)
    else if !negative then some (.int sig, rest)
    else if 0 < sig && sig ≤ Nat.pow 2 63 then some (.int (-(sig : Int)), rest)
    else some (.float (Binary64.ofNat sig).negate, rest)

/-- Reads a number at the front of the text. -/
def readNumber? (cs : List Char) : Option (Json × List Char) :=
  let (negative, cs) := match cs with
    | '-' :: r => (true, r)
    | r => (false, r)
  match cs with
  | '0' :: rest => if (digitRun rest).1.isEmpty then readTail? negative 0 0 rest else none
  | c :: rest =>
    if c.isDigit then
      let (sig, _, rest) := absorb 0 0 (c :: rest)
      let (dropped, rest) := digitRun rest
      readTail? negative sig dropped.length rest
    else none
  | [] => none

end AnnotatedApi.Json
