import Mathlib.Algebra.Order.Field.Power
import Mathlib.Data.Rat.Cast.Order
import Mathlib.Tactic.Positivity
import Stencil.Number.Dyadic

namespace Stencil

/-! Fractions that have a float near them. -/

theorem roundHalfEven_le {num den bound : Nat} (h : num < bound * den) :
    roundHalfEven num den ≤ bound := by
  have hquotient : num / den < bound := Nat.div_lt_of_lt_mul (Nat.mul_comm bound den ▸ h)
  unfold roundHalfEven
  dsimp only
  split_ifs <;> omega

theorem two_zpow (e : Int) : (2 : ℚ) ^ e = 2 ^ e.toNat / 2 ^ (-e).toNat := by
  rw [eq_div_iff (by positivity), ← zpow_natCast, ← zpow_natCast, ← zpow_add₀ two_ne_zero]
  congr 1
  omega

theorem lt_mul_shifted {num den bound : Nat} (hden : 0 < den) (e : Int) :
    num * 2 ^ e.toNat < bound * (den * 2 ^ (-e).toNat) ↔ (num / den : ℚ) * 2 ^ e < bound := by
  have hden' : (0 : ℚ) < den := Nat.cast_pos.mpr hden
  rw [two_zpow, div_mul_div_comm, div_lt_iff₀ (by positivity)]
  exact_mod_cast Iff.rfl

theorem log2_lt_of_lt_two_pow {n k : Nat} (hk : 0 < k) (h : n < 2 ^ k) : n.log2 < k := by
  by_cases hn : n = 0
  · rwa [hn, Nat.log2_zero]
  · exact (Nat.log2_lt hn).mpr h

theorem log2_le_of_lt_mul {num den k : Nat} (h : num < 2 ^ k * den) :
    num.log2 ≤ k + den.log2 := by
  have hden : den < 2 ^ (den.log2 + 1) := Nat.lt_log2_self
  have hnum : num < 2 ^ (k + den.log2 + 1) :=
    calc num < 2 ^ k * den := h
      _ ≤ 2 ^ k * 2 ^ (den.log2 + 1) := Nat.mul_le_mul_left _ hden.le
      _ = 2 ^ (k + den.log2 + 1) := by rw [← pow_add, Nat.add_assoc]
  exact Nat.lt_succ_iff.mp (log2_lt_of_lt_two_pow (Nat.succ_pos _) hnum)

/-- Fractions below half of the power of two beyond the largest float have a float near them. -/
theorem roundRatio?_isSome (negative : Bool) {num den : Nat} (hden : 0 < den)
    (h : num < 2 ^ 1023 * den) : (roundRatio? negative num den).isSome := by
  unfold roundRatio?
  split
  · rfl
  · extract_lets shift bits unit significand pattern
    have hratio : (num / den : ℚ) < 2 ^ (1023 : Int) := by
      have hcast : (num : ℚ) < 2 ^ 1023 * den := by exact_mod_cast h
      rw [div_lt_iff₀ (Nat.cast_pos.mpr hden)]
      exact_mod_cast hcast
    have hshift : -969 ≤ shift := by
      have hlog := log2_le_of_lt_mul h
      omega
    have hcount : bits = (num * 2 ^ shift.toNat / (den * 2 ^ (-shift).toNat)).log2 + 1 := rfl
    have hquotient : 0 < den * 2 ^ (-shift).toNat := by positivity
    -- the quotient fills `bits` bits, and they are no more than those of `2 ^ (1023 + shift)`
    have hfilled : (num / den : ℚ) * 2 ^ shift < (2 ^ bits : Nat) := by
      rw [← lt_mul_shifted hden, ← Nat.div_lt_iff_lt_mul hquotient]
      exact Nat.lt_log2_self
    have hbits : (bits : Int) ≤ 1023 + shift := by
      have hbound : num * 2 ^ shift.toNat / (den * 2 ^ (-shift).toNat) <
          2 ^ (1023 + shift).toNat := by
        rw [Nat.div_lt_iff_lt_mul hquotient, lt_mul_shifted hden, Nat.cast_pow, Nat.cast_ofNat,
          ← zpow_natCast, Int.toNat_of_nonneg (by omega), zpow_add₀ two_ne_zero]
        exact mul_lt_mul_of_pos_right hratio (by positivity)
      have hlog := log2_lt_of_lt_two_pow (by omega) hbound
      omega
    have hsignificand : significand ≤ 2 ^ 53 := by
      apply roundHalfEven_le
      have hscaled : (num / den : ℚ) * 2 ^ (-unit) < (2 ^ 53 : Nat) :=
        calc (num / den : ℚ) * 2 ^ (-unit)
            = num / den * 2 ^ shift * 2 ^ (-unit - shift) := by
              rw [mul_assoc, ← zpow_add₀ two_ne_zero, add_sub_cancel]
          _ < (2 ^ bits : Nat) * 2 ^ (-unit - shift) :=
              mul_lt_mul_of_pos_right hfilled (by positivity)
          _ = 2 ^ (bits + (-unit - shift)) := by
              rw [zpow_add₀ two_ne_zero, zpow_natCast, Nat.cast_pow, Nat.cast_ofNat]
          _ ≤ 2 ^ (53 : Int) := zpow_le_zpow_right₀ one_le_two (by omega)
          _ = (2 ^ 53 : Nat) := by norm_cast
      simpa using (lt_mul_shifted hden (-unit)).mpr hscaled
    have hunit : (unit + 1074).toNat ≤ 2044 := by omega
    have hpacked : pattern = significand + (unit + 1074).toNat * 2 ^ 52 := rfl
    have hpattern : pattern < 2047 * 2 ^ 52 := by omega
    have hfits : ¬2047 * Nat.pow 2 52 ≤ pattern := Nat.not_le.mpr hpattern
    rw [if_neg hfits]
    rfl

end Stencil
