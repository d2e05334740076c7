import AnnotatedApi.Decimal.Binary64
import Mathlib.Tactic.Ring

/-!
Doubles that stay in range.

A quotient of at most `2 ^ k` is rounded to a finite double if `k` is at most 1022
(`ofRatio_below`), and the double is at most `2 ^ (k + 1)`.  Hence a whole number of 64 bits is
finite as a double (`isFinite_ofInt`), and dividing by a number that is at least one does not lead
out of the range (`overMagnitude_below`).
-/

namespace AnnotatedApi.Decimal.Binary64

/-- The number is finite, and its magnitude is at most `2 ^ k`. -/
def Below (k : Nat) : Binary64 → Prop
  | .finite _ m e => m * 2 ^ e.toNat ≤ 2 ^ k * 2 ^ (-e).toNat
  | _ => False

theorem Below.isFinite {k : Nat} {x : Binary64} (h : x.Below k) : x.isFinite = true := by
  cases x with
  | finite => rfl
  | infinite => exact h.elim
  | nan => exact h.elim

theorem isFinite_negate (x : Binary64) : x.negate.isFinite = x.isFinite := by
  cases x <;> rfl

theorem zero_below (negative : Bool) (k : Nat) : (zero negative).Below k := by
  simp [zero, Below]

/-- Rounding at most doubles a quotient. -/
theorem roundAt_mul_le (num den : Nat) (e : Int) :
    roundAt num den e * (den * 2 ^ e.toNat) ≤ 2 * (num * 2 ^ (-e).toNat) := by
  simp only [roundAt, Nat.pow_eq]
  generalize num * 2 ^ (-e).toNat = n
  generalize den * 2 ^ e.toNat = d
  have hdiv : d * (n / d) + n % d = n := Nat.div_add_mod n d
  have hcomm : n / d * d = d * (n / d) := Nat.mul_comm _ _
  split
  · omega
  · split
    · rw [Nat.add_mul]
      omega
    · -- A tie: one step up at most, and the remainder is half of it.
      have htie : n / d % 2 * d ≤ d := by
        rcases Nat.mod_two_eq_zero_or_one (n / d) with h | h <;> simp [h]
      rw [Nat.add_mul]
      omega

/-- The exponent follows the magnitude of the quotient. -/
theorem exponentFor_le {num den k : Nat} (hle : num ≤ 2 ^ k * den) :
    exponentFor num den ≤ max minExponent ((k : Int) - 53) + 1 := by
  have hlog : num.log2 ≤ k + den.log2 := by
    by_cases hnum : num = 0
    · simp [hnum]
    · have hlt : num < 2 ^ (k + den.log2 + 1) := by
        calc num ≤ 2 ^ k * den := hle
          _ < 2 ^ k * 2 ^ (den.log2 + 1) :=
            Nat.mul_lt_mul_of_pos_left Nat.lt_log2_self (Nat.two_pow_pos k)
          _ = 2 ^ (k + den.log2 + 1) := by rw [← Nat.pow_add, Nat.add_assoc]
      exact Nat.le_of_lt_succ ((Nat.log2_lt hnum).mpr hlt)
  simp only [exponentFor]
  split <;> omega

/-- **A quotient of moderate size is rounded to a finite number**, at most twice as large. -/
theorem ofRatio_below {num den k : Nat} (negative : Bool) (hk : k ≤ 1022) (hden : 0 < den)
    (hle : num ≤ 2 ^ k * den) : (ofRatio negative num den).Below (k + 1) := by
  have he : exponentFor num den ≤ 970 := by
    have := exponentFor_le hle
    simp only [minExponent] at this
    omega
  have hround := roundAt_mul_le num den (exponentFor num den)
  simp only [ofRatio, Nat.pow_eq, beq_iff_eq]
  generalize exponentFor num den = e at he hround ⊢
  generalize roundAt num den e = m at hround ⊢
  have hvalue : m * 2 ^ e.toNat ≤ 2 ^ (k + 1) * 2 ^ (-e).toNat := by
    refine Nat.le_of_mul_le_mul_left ?_ hden
    calc den * (m * 2 ^ e.toNat) = m * (den * 2 ^ e.toNat) := by ring
      _ ≤ 2 * (num * 2 ^ (-e).toNat) := hround
      _ ≤ 2 * (2 ^ k * den * 2 ^ (-e).toNat) := by gcongr
      _ = den * (2 ^ (k + 1) * 2 ^ (-e).toNat) := by ring
  split
  · exact zero_below _ _
  · split
    · next hm =>
      -- The significand ran over: half of it, with the next exponent, is the same number.
      subst hm
      dsimp only
      rw [if_neg (by simp), if_neg (by simp only [maxExponent]; omega), Below]
      by_cases hneg : e < 0
      · have hup : (e + 1).toNat = e.toNat := by omega
        have hdown : (-e).toNat = (-(e + 1)).toNat + 1 := by omega
        have hsplit : 2 ^ (k + 1) * 2 ^ (-e).toNat = 2 * (2 ^ (k + 1) * 2 ^ (-(e + 1)).toNat) := by
          rw [hdown]
          ring
        rw [hup]
        omega
      · have hup : (e + 1).toNat = e.toNat + 1 := by omega
        have hdown : (-(e + 1)).toNat = (-e).toNat := by omega
        rw [hup, hdown, Nat.pow_succ]
        omega
    · split
      · exact zero_below _ _
      · rw [if_neg (by simp only [maxExponent]; omega), Below]
        exact hvalue

theorem ofNat_below {n : Nat} (h : n < 2 ^ 64) : (ofNat n).Below 65 :=
  ofRatio_below false (by decide) (by decide) (by omega)

/-- A whole number of 64 bits is finite as a double. -/
theorem isFinite_ofInt {n : Int} (hlow : -(2 ^ 63) ≤ n) (hhigh : n < 2 ^ 64) :
    (ofInt n).isFinite = true := by
  have hn : n.natAbs ≤ 2 ^ 64 * 1 := by omega
  exact (ofRatio_below _ (by decide) (by decide) hn).isFinite

/-- Dividing by a number that is at least one does not lead out of the range. -/
theorem overMagnitude_below {x y : Binary64} {k c d : Nat} (hk : k ≤ 1022) (hx : x.Below k)
    (hy : y.ratio = some (c, d)) (hd : 0 < d) (hone : d ≤ c) :
    (x.overMagnitude y).Below (k + 1) := by
  cases x with
  | infinite => exact hx.elim
  | nan => exact hx.elim
  | finite s m e =>
    rw [overMagnitude, hy]
    simp only [ratio, Nat.pow_eq]
    refine ofRatio_below false hk (Nat.mul_pos (Nat.two_pow_pos _) (by omega)) ?_
    calc m * 2 ^ e.toNat * d ≤ 2 ^ k * 2 ^ (-e).toNat * c := Nat.mul_le_mul hx hone
      _ = 2 ^ k * (2 ^ (-e).toNat * c) := by ring

end AnnotatedApi.Decimal.Binary64
