import DecimalPowers.Scaling
import DecimalPowers.Proofs.Precision.Grid

/-!
Normalization of a scaled ratio. Every step keeps the value, and the steps end where the integer
part of the ratio is a normalized significand; so the value lies between two neighbouring points of
the grid.
-/

set_option autoImplicit false
set_option relaxedAutoImplicit false

namespace DecimalPowers

def decimalValue (f e : ℤ) : ℚ := f * 10 ^ e

theorem decimalValue_pos {f : ℤ} (hf : 0 < f) (e : ℤ) : 0 < decimalValue f e :=
  mul_pos (by exact_mod_cast hf) (zpow_pos (by norm_num) e)

theorem decimalValue_add_one (f e : ℤ) : decimalValue f (e + 1) = decimalValue f e * 10 := by
  rw [decimalValue, decimalValue, zpow_add_one₀ (by norm_num), mul_assoc]

theorem decimalValue_mono {f : ℤ} (hf : 0 < f) {e d : ℤ} (h : e ≤ d) :
    decimalValue f e ≤ decimalValue f d := by
  apply mul_le_mul_of_nonneg_left _ (by exact_mod_cast hf.le)
  exact zpow_le_zpow_right₀ (by norm_num) h

namespace Ratio

def value (r : Ratio) : ℚ := r.numer / r.denom

theorem denom_cast_pos (r : Ratio) : (0 : ℚ) < r.denom := by exact_mod_cast r.denom_pos

private theorem floor_le_value (r : Ratio) : (r.floor : ℚ) ≤ r.value := by
  rw [value, le_div_iff₀ r.denom_cast_pos]
  exact_mod_cast Nat.div_mul_le_self r.numer r.denom

private theorem value_lt_floor_add_one (r : Ratio) : r.value < r.floor + 1 := by
  rw [value, div_lt_iff₀ r.denom_cast_pos]
  exact_mod_cast (r.floor_lt_iff (r.floor + 1)).mp (Nat.lt_succ_self _)

private theorem value_double (r : Ratio) : r.double.value = r.value * 2 := by
  simp only [value, double]
  push_cast
  ring

private theorem value_halve (r : Ratio) : r.halve.value = r.value / 2 := by
  simp only [value, halve]
  push_cast
  rw [div_div]

theorem value_ofDecimal {f : ℕ} (e : ℤ) (hf : 0 < f) :
    (ofDecimal f e hf).value = decimalValue f e := by
  rw [decimalValue, zpow_eq_div (by norm_num) e]
  simp only [value, ofDecimal, Nat.pow_eq]
  push_cast
  rw [mul_div_assoc]

end Ratio

namespace Scaled

def value (s : Scaled) : ℚ := s.ratio.value * 2 ^ s.exponent

theorem value_unscaled (r : Ratio) : value ⟨r, 0⟩ = r.value := by
  rw [value, zpow_zero, mul_one]

theorem step?_eq_some {p : Precision} {s t : Scaled} (h : s.step? p = some t) :
    s.ratio.floor < p.minSig ∧ t = ⟨s.ratio.double, s.exponent - 1⟩ ∨
      p.maxSig < s.ratio.floor ∧ t = ⟨s.ratio.halve, s.exponent + 1⟩ := by
  unfold step? at h
  split at h
  · next below =>
    cases h
    exact .inl ⟨below, rfl⟩
  · split at h
    · next above =>
      cases h
      exact .inr ⟨above, rfl⟩
    · cases h

private theorem step?_eq_none_iff {p : Precision} {s : Scaled} :
    s.step? p = none ↔ p.Normalized s.ratio.floor := by
  unfold step? Precision.Normalized
  split
  · simp only [reduceCtorEq, false_iff]
    omega
  · split
    · simp only [reduceCtorEq, false_iff]
      omega
    · simp only [true_iff]
      omega

private theorem value_of_step? {p : Precision} {s t : Scaled} (h : s.step? p = some t) :
    t.value = s.value := by
  rcases step?_eq_some h with ⟨-, rfl⟩ | ⟨-, rfl⟩
  · have shift := two_zpow_succ (s.exponent - 1)
    rw [sub_add_cancel] at shift
    rw [value, value, Ratio.value_double, shift]
    ring
  · rw [value, value, Ratio.value_halve, two_zpow_succ]
    ring

theorem value_normalize (p : Precision) (s : Scaled) : (normalize p s).value = s.value := by
  fun_induction normalize p s with
  | case1 s t h ih => rw [ih, value_of_step? h]
  | case2 s h => rfl

theorem normalized_normalize (p : Precision) (s : Scaled) :
    p.Normalized (normalize p s).ratio.floor := by
  fun_induction normalize p s with
  | case1 s t h ih => exact ih
  | case2 s h => exact step?_eq_none_iff.mp h

theorem floor_mul_le_value (s : Scaled) : (s.ratio.floor : ℚ) * 2 ^ s.exponent ≤ s.value :=
  mul_le_mul_of_nonneg_right s.ratio.floor_le_value (two_zpow_pos _).le

theorem value_lt_succ_floor_mul (s : Scaled) :
    s.value < ((s.ratio.floor : ℚ) + 1) * 2 ^ s.exponent :=
  mul_lt_mul_of_pos_right s.ratio.value_lt_floor_add_one (two_zpow_pos _)

theorem exponent_bounds {p : Precision} {s : Scaled} (hs : p.Normalized s.ratio.floor) {a b : ℤ}
    (lower : (2 : ℚ) ^ a ≤ s.value) (upper : s.value < 2 ^ b) :
    a < p.bits + s.exponent ∧ s.exponent < b := by
  have hx := two_zpow_pos s.exponent
  constructor
  · have top : s.ratio.floor + 1 ≤ 2 ^ p.bits := by
      have := hs.2
      have := p.maxSig_add_one_eq_two_pow
      omega
    have : (2 : ℚ) ^ a < 2 ^ (p.bits + s.exponent) := by
      calc (2 : ℚ) ^ a < ((s.ratio.floor : ℚ) + 1) * 2 ^ s.exponent :=
            lower.trans_lt s.value_lt_succ_floor_mul
        _ ≤ 2 ^ p.bits * 2 ^ s.exponent := by
            apply mul_le_mul_of_nonneg_right _ hx.le
            exact_mod_cast top
        _ = 2 ^ (p.bits + s.exponent) := by
            rw [zpow_add₀ (by norm_num), zpow_natCast]
    exact (zpow_lt_zpow_iff_right₀ (by norm_num)).mp this
  · have bottom : 1 ≤ s.ratio.floor := le_trans p.minSig_pos hs.1
    have : (2 : ℚ) ^ s.exponent < 2 ^ b := by
      calc (2 : ℚ) ^ s.exponent ≤ s.ratio.floor * 2 ^ s.exponent := by
            apply le_mul_of_one_le_left hx.le
            exact_mod_cast bottom
        _ < 2 ^ b := s.floor_mul_le_value.trans_lt upper
    exact (zpow_lt_zpow_iff_right₀ (by norm_num)).mp this

end Scaled

theorem ten_zpow_bounds {e n : ℤ} (lower : -n ≤ e) (upper : e ≤ n) :
    (2 : ℚ) ^ (-(4 * n)) ≤ 10 ^ e ∧ (10 : ℚ) ^ e ≤ 2 ^ (4 * n) := by
  have hn : (10 : ℚ) ^ n ≤ 2 ^ (4 * n) := by
    rw [zpow_mul]
    exact zpow_le_zpow_left₀ (by omega) (by norm_num) (by norm_num)
  constructor
  · calc (2 : ℚ) ^ (-(4 * n)) = (2 ^ (4 * n))⁻¹ := zpow_neg _ _
      _ ≤ (10 ^ n)⁻¹ := inv_anti₀ (zpow_pos (by norm_num) n) hn
      _ = 10 ^ (-n) := (zpow_neg _ _).symm
      _ ≤ 10 ^ e := zpow_le_zpow_right₀ (by norm_num) lower
  · exact (zpow_le_zpow_right₀ (by norm_num) upper).trans hn

end DecimalPowers
