import DecimalPowers.UlpError
import DecimalPowers.Proofs.BinaryFloat.Value
import DecimalPowers.Proofs.Scaling.Normalization

/-!
Errors as rational numbers. A measured error is the distance from `f * 10 ^ e` divided by the unit
of the float, and its comparisons by cross multiplication are those of the rationals.
-/

set_option autoImplicit false
set_option relaxedAutoImplicit false

namespace DecimalPowers.UlpError

def value (a : UlpError) : ℚ := a.numer / a.denom

theorem denom_cast_pos (a : UlpError) : (0 : ℚ) < a.denom := by exact_mod_cast a.denom_pos

theorem compareHalf_eq_compare (a : UlpError) : a.compareHalf = Ord.compare a.value (1 / 2) := by
  have cross := compare_div_div (a := a.numer) (c := 1) a.denom_pos two_pos
  rw [mul_comm, one_mul] at cross
  rw [compareHalf, ← cross]
  norm_num [value]

private theorem compareHalf_eq_lt_iff (a : UlpError) : a.compareHalf = .lt ↔ a.value < 1 / 2 := by
  rw [compareHalf_eq_compare, compare_lt_iff_lt]

theorem isBelowHalf_iff (a : UlpError) : a.isBelowHalf = true ↔ a.value < 1 / 2 := by
  rw [← compareHalf_eq_lt_iff, isBelowHalf]
  cases a.compareHalf <;> decide

private theorem cast_sub_add_sub (m n : ℕ) : ((m - n + (n - m) : ℕ) : ℚ) = |(m : ℚ) - n| := by
  rcases le_total m n with le | ge
  · rw [Nat.sub_eq_zero_of_le le, zero_add, Nat.cast_sub le, abs_sub_comm,
      abs_of_nonneg (by simpa using le)]
  · rw [Nat.sub_eq_zero_of_le ge, add_zero, Nat.cast_sub ge, abs_of_nonneg (by simpa using ge)]

private theorem abs_div_of_pos (a : ℚ) {b : ℚ} (hb : 0 < b) : |a| / b = |a / b| := by
  rw [abs_div, abs_of_pos hb]

theorem value_measure (f : ℕ) (e : ℤ) (z : BinaryFloat) :
    (measure f e z).value = |decimalValue f e - z.value| / z.ulp := by
  have hulp := z.ulp_pos
  have hd := (measure f e z).denom_cast_pos
  have scaled : decimalValue f e / z.ulp =
      (f * 10 ^ e.toNat * 2 ^ (-z.exponent).toNat : ℕ) / ((measure f e z).denom : ℚ) := by
    rw [decimalValue, BinaryFloat.ulp, zpow_eq_div (by norm_num) e,
      zpow_eq_div (by norm_num) z.exponent]
    simp only [measure, Nat.pow_eq]
    push_cast
    rw [← mul_div_assoc, div_div_div_eq]
  have numer : ((measure f e z).numer : ℚ) =
      |((f * 10 ^ e.toNat * 2 ^ (-z.exponent).toNat : ℕ) : ℚ) -
        (z.significand * (measure f e z).denom : ℕ)| := cast_sub_add_sub _ _
  calc (measure f e z).value
      = |((f * 10 ^ e.toNat * 2 ^ (-z.exponent).toNat : ℕ) : ℚ) -
          (z.significand * (measure f e z).denom : ℕ)| / (measure f e z).denom := by
        rw [value, numer]
    _ = |decimalValue f e / z.ulp - z.significand| := by
        rw [abs_div_of_pos _ hd, sub_div, scaled]
        congr 2
        push_cast
        exact mul_div_cancel_right₀ _ hd.ne'
    _ = |decimalValue f e - z.value| / z.ulp := by
        rw [abs_div_of_pos _ hulp, sub_div, BinaryFloat.value, mul_div_cancel_right₀ _ hulp.ne']

end DecimalPowers.UlpError
