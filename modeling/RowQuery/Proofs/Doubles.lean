import Mathlib.Algebra.Group.Nat.Defs
import Mathlib.Algebra.Order.Group.Int
import RowQuery.Number.Double

/-! Doubles in range. A ratio is rounded in units of a power of two that is small enough for 53 bits
and no smaller than the least one, so the number it is rounded to is a double of 64 bits. An integer
that such a number is equal to is not larger than the largest double. -/

namespace RowQuery.Double

/-- The mantissa has 53 bits at most, and the exponent is one of a double of 64 bits. -/
def isInRange : Double → Bool
  | .finite _ m e => m < 2 ^ 53 && leastExponent ≤ e && e ≤ greatestExponent
  | _ => true

/-! ### Rounding -/

/-- How often the unit `2 ^ e` is contained in `n / d`. -/
def quotient (n d : Nat) (e : Int) : Nat := (scaled n d e).1 / (scaled n d e).2

variable {n d : Nat}

/-- A unit of twice the size is contained half as often. -/
theorem quotient_succ (n d : Nat) (e : Int) : quotient n d (e + 1) = quotient n d e / 2 := by
  simp only [quotient, scaled, Nat.pow_eq]
  by_cases he : e < 0
  · have hexp : (-e).toNat = (-(e + 1)).toNat + 1 := by omega
    have hhalf : n * 2 ^ (-e).toNat / d / 2 = n * 2 ^ (-(e + 1)).toNat / d := by
      rw [hexp, Nat.pow_succ, ← Nat.mul_assoc, Nat.div_div_eq_div_mul,
        Nat.mul_div_mul_right _ _ Nat.two_pos]
    rw [if_pos he, hhalf]
    split_ifs with hs
    · rfl
    · have hzero : (e + 1).toNat = 0 ∧ (-(e + 1)).toNat = 0 := by omega
      rw [hzero.1, hzero.2, Nat.pow_zero, Nat.mul_one, Nat.mul_one]
  · have hexp : (e + 1).toNat = e.toNat + 1 := by omega
    rw [if_neg he, if_neg (by omega), hexp, Nat.pow_succ, ← Nat.mul_assoc,
      ← Nat.div_div_eq_div_mul]

theorem quotient_anti {e f : Int} (h : e ≤ f) : quotient n d f ≤ quotient n d e := by
  induction f, h using Int.leInduction with
  | base => exact Nat.le_refl _
  | succ f _ ih =>
    rw [quotient_succ]
    exact (Nat.div_le_self _ _).trans ih

/-- The unit that rounding starts with leaves 54 bits at most. -/
theorem quotient_lt (hd : d ≠ 0) :
    quotient n d ((n.log2 : Int) - d.log2 - 53) < 2 ^ 54 := by
  have hlt : n < 2 ^ (n.log2 + 1) := Nat.lt_log2_self
  have hle : 2 ^ d.log2 ≤ d := Nat.log2_self_le hd
  simp only [quotient, scaled, Nat.pow_eq]
  split_ifs with he
  · refine (Nat.div_lt_iff_lt_mul (Nat.pos_of_ne_zero hd)).mpr ?_
    generalize hk : (-((n.log2 : Int) - d.log2 - 53)).toNat = k
    have hsum : n.log2 + 1 + k = 54 + d.log2 := by omega
    calc n * 2 ^ k < 2 ^ (n.log2 + 1) * 2 ^ k := Nat.mul_lt_mul_of_pos_right hlt (Nat.two_pow_pos k)
      _ = 2 ^ 54 * 2 ^ d.log2 := by rw [← Nat.pow_add, hsum, Nat.pow_add]
      _ ≤ 2 ^ 54 * d := Nat.mul_le_mul_left _ hle
  · generalize hk : ((n.log2 : Int) - d.log2 - 53).toNat = k
    have hsum : n.log2 + 1 = 54 + (d.log2 + k) := by omega
    refine (Nat.div_lt_iff_lt_mul (Nat.mul_pos (Nat.pos_of_ne_zero hd) (Nat.two_pow_pos k))).mpr ?_
    calc n < 2 ^ (n.log2 + 1) := hlt
      _ = 2 ^ 54 * (2 ^ d.log2 * 2 ^ k) := by rw [hsum, Nat.pow_add, Nat.pow_add]
      _ ≤ 2 ^ 54 * (d * 2 ^ k) := Nat.mul_le_mul_left _ (Nat.mul_le_mul_right _ hle)

theorem roundDiv_le (n d : Nat) : roundDiv n d ≤ n / d + 1 := by
  unfold roundDiv
  dsimp only
  split_ifs <;> omega

/-- The unit that a ratio is rounded in leaves 53 bits at most. -/
theorem exists_unit (negative : Bool) (hn : n ≠ 0) (hd : d ≠ 0) :
    ∃ e, leastExponent ≤ e ∧ quotient n d e < 2 ^ 53 ∧ ofRatio negative n d =
      (let m := roundDiv (scaled n d e).1 (scaled n d e).2
       let (m, e) := if m = Nat.pow 2 53 then (Nat.pow 2 52, e + 1) else (m, e)
       if greatestExponent < e then .infinite negative else .finite negative m e) := by
  refine ⟨_, le_max_left _ _, ?_, by rw [ofRatio, if_neg hn]⟩
  refine Nat.lt_of_le_of_lt (quotient_anti (le_max_right _ _)) ?_
  split_ifs with hq
  · exact hq
  · rw [quotient_succ]
    have hlt := quotient_lt (n := n) hd
    omega

theorem isInRange_ofRatio (negative : Bool) (n : Nat) (hd : d ≠ 0) :
    (ofRatio negative n d).isInRange = true := by
  by_cases hn : n = 0
  · rw [ofRatio, if_pos hn]
    rfl
  · obtain ⟨e, hleast, hq, h⟩ := exists_unit negative hn hd
    have hm := roundDiv_le (scaled n d e).1 (scaled n d e).2
    have hpow : Nat.pow 2 53 = 2 ^ 53 := rfl
    rw [h]
    unfold quotient at hq
    dsimp only
    split_ifs with hcarry hbig hbig
    · rfl
    · simp only [isInRange, Bool.and_eq_true, decide_eq_true_eq]
      exact ⟨⟨by decide, by omega⟩, by omega⟩
    · rfl
    · simp only [isInRange, Bool.and_eq_true, decide_eq_true_eq]
      exact ⟨⟨by omega, by omega⟩, by omega⟩

theorem isInRange_ofDecimal (negative : Bool) (n : Nat) (k : Int) :
    (ofDecimal negative n k).isInRange = true := by
  have hpow : ∀ i, Nat.pow 10 i ≠ 0 := fun i => (Nat.pow_pos (by decide)).ne'
  unfold ofDecimal
  dsimp only
  split_ifs
  · rfl
  · rfl
  · exact isInRange_ofRatio negative n (hpow _)
  · exact isInRange_ofRatio negative _ Nat.one_ne_zero

/-! ### Integers -/

/-- The numerator of a double in range is less than `2 ^ 53` of the largest unit. -/
theorem natAbs_lt_of_toFraction? {x : Double} {k : Int} (hx : x.isInRange = true)
    (h : x.toFraction? = some (k, d)) : k.natAbs < 2 ^ (53 + greatestExponent.toNat) := by
  cases x with
  | nan => contradiction
  | infinite negative => contradiction
  | finite negative m e =>
    simp only [isInRange, Bool.and_eq_true, decide_eq_true_eq] at hx
    obtain ⟨⟨hm, -⟩, he⟩ := hx
    have hsmall : m < 2 ^ (53 + greatestExponent.toNat) :=
      hm.trans_le (Nat.pow_le_pow_right Nat.two_pos (Nat.le_add_right 53 _))
    have hlarge : m * 2 ^ e.toNat < 2 ^ (53 + greatestExponent.toNat) := by
      calc m * 2 ^ e.toNat < 2 ^ 53 * 2 ^ e.toNat :=
            Nat.mul_lt_mul_of_pos_right hm (Nat.two_pow_pos _)
        _ ≤ 2 ^ 53 * 2 ^ greatestExponent.toNat := Nat.mul_le_mul_left _
            (Nat.pow_le_pow_right Nat.two_pos (Int.toNat_le_toNat he))
        _ = 2 ^ (53 + greatestExponent.toNat) := (pow_add 2 53 _).symm
    simp only [toFraction?, Nat.pow_eq] at h
    obtain ⟨rfl, -⟩ := Prod.mk.inj (Option.some.inj h)
    split_ifs <;> simpa only [Int.natAbs_neg, Int.natAbs_natCast]

/-- And so is an integer that it is equal to. -/
theorem natAbs_lt_of_toInt? {x : Double} {n : Int} (hx : x.isInRange = true)
    (h : x.toInt? = some n) : n.natAbs < 2 ^ (53 + greatestExponent.toNat) := by
  unfold toInt? at h
  split at h
  · rename_i k d hf
    split_ifs at h
    obtain rfl := Option.some.inj h
    exact (Int.natAbs_ediv_le_natAbs k d).trans_lt (natAbs_lt_of_toFraction? hx hf)
  · contradiction

end RowQuery.Double
