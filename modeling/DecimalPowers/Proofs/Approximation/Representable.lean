import DecimalPowers.Proofs.Approximation.SelfTest

/-!
Decimals that are floats. A decimal with the exact value of a float is approximated by that float
with no error at all, however it is written: with the power of two multiplied out, or, for a
negative exponent, as a multiple of a negative power of ten.
-/

set_option autoImplicit false
set_option relaxedAutoImplicit false

namespace DecimalPowers

namespace BinaryFloat

variable (z : BinaryFloat)

private theorem roundsTo_value : z.RoundsTo z.value := by
  have hulp := z.ulp_pos
  apply RoundsTo.down
  · exact ⟨le_rfl, by linarith⟩
  · rintro (past | ⟨tie, -⟩)
    · linarith
    · linarith

private theorem value_bounds :
    (2 : ℚ) ^ z.exponent ≤ z.value ∧ z.value < 2 ^ (z.exponent + 64) := by
  have hulp := z.ulp_pos
  constructor
  · apply le_mul_of_one_le_left hulp.le
    exact_mod_cast z.significand_pos
  · rw [zpow_add₀ (by norm_num), mul_comm]
    apply mul_lt_mul_of_pos_right _ hulp
    exact_mod_cast z.significand_lt

private theorem decimalValue_mul_two_pow {x : ℕ} (hx : z.exponent = x) :
    decimalValue (z.significand * 2 ^ x) 0 = z.value := by
  rw [decimalValue, value, ulp, hx, zpow_zero, zpow_natCast, mul_one]
  push_cast
  rfl

private theorem decimalValue_mul_five_pow {n : ℕ} (hn : z.exponent = -n) :
    decimalValue (z.significand * 5 ^ n) (-n) = z.value := by
  have ten : (10 : ℚ) ^ n = 2 ^ n * 5 ^ n := by
    rw [← mul_pow]
    norm_num
  have nonzero : (5 : ℚ) ^ n ≠ 0 := by positivity
  rw [decimalValue, value, ulp, hn, zpow_neg, zpow_neg, zpow_natCast, zpow_natCast, ten]
  push_cast
  rw [mul_assoc, mul_inv_rev, mul_inv_cancel_left₀ nonzero]

end BinaryFloat

section Decimal

variable {g d : ℤ} {z : BinaryFloat}

/-- The exponent is so far inside its range that no significand makes the value leave it. -/
abbrev HasRoom (x : ℤ) : Prop := minExponent + 64 ≤ x ∧ x + 64 ≤ maxExponent

private theorem hasRoom_of_bounds {x : ℤ} (lower : -2 ^ 31 ≤ x) (upper : x ≤ 2 ^ 61) :
    HasRoom x := by
  simp only [HasRoom, minExponent, maxExponent]
  omega

private theorem approximate_of_decimalValue_eq (hg : 0 < g) (room : HasRoom z.exponent)
    (same : decimalValue g d = z.value) : (approximate g d z.precision).outcome = .ok z := by
  obtain ⟨below, above⟩ := z.value_bounds
  rw [← same] at below above
  have two : (1 : ℚ) ≤ 2 := by norm_num
  have least := (zpow_le_zpow_right₀ two room.1).trans below
  have most := above.trans_le (zpow_le_zpow_right₀ two room.2)
  obtain ⟨w, hw, hp, rounds⟩ := exists_approximate_of_bounds hg least most z.precision
  rw [same] at rounds
  rw [hw, rounds.unique z.roundsTo_value hp]

private theorem numer_measure_eq_zero (hg : 0 < g) (same : decimalValue g d = z.value) :
    (UlpError.measure g.toNat d z).numer = 0 := by
  have cast : ((g.toNat : ℕ) : ℤ) = g := Int.toNat_of_nonneg hg.le
  have zero : (UlpError.measure g.toNat d z).value = 0 := by
    rw [UlpError.value_measure, cast, same, sub_self, abs_zero, zero_div]
  have nonzero := (UlpError.measure g.toNat d z).denom_cast_pos.ne'
  exact_mod_cast (div_eq_zero_iff.mp zero).resolve_right nonzero

private theorem approximateChecked_of_decimalValue_eq (hg : 0 < g) (room : HasRoom z.exponent)
    (same : decimalValue g d = z.value) :
    ∃ error, (approximateChecked g d z.precision).outcome = .ok ⟨z, error⟩ ∧ error.numer = 0 := by
  have no_error := numer_measure_eq_zero hg same
  have below : (UlpError.measure g.toNat d z).isBelowHalf = true := by
    rw [UlpError.isBelowHalf_iff, UlpError.value, no_error]
    norm_num
  refine ⟨_, ?_, no_error⟩
  rw [approximateChecked_outcome (approximate_of_decimalValue_eq hg room same), if_pos below]

end Decimal

/-- The exact value of a float is approximated by the float with the error zero. So rounding a
result of rounding once more, from any decimal of the same value, changes nothing. -/
theorem approximateChecked_exactValue (z : BinaryFloat) :
    (∀ x : ℕ, z.exponent = x → x ≤ 2 ^ 61 → ∃ error,
      (approximateChecked (z.significand * 2 ^ x) 0 z.precision).outcome = .ok ⟨z, error⟩ ∧
        error.numer = 0) ∧
    (∀ n : ℕ, z.exponent = -n → 1 ≤ n → n ≤ 2 ^ 31 → ∃ error,
      (approximateChecked (z.significand * 5 ^ n) (-n) z.precision).outcome = .ok ⟨z, error⟩ ∧
        error.numer = 0) ∧
    ∀ (f e : ℤ) (p : Precision), (approximate f e p).outcome = .ok z →
      -2 ^ 31 ≤ z.exponent → z.exponent ≤ 2 ^ 61 →
      ∀ g d : ℤ, 0 < g → decimalValue g d = (z.exactValue.1 : ℚ) / z.exactValue.2 →
        (approximate g d p).outcome = .ok z := by
  have positive : (0 : ℤ) < z.significand := by exact_mod_cast z.significand_pos
  refine ⟨fun x hx le => ?_, fun n hn _ le => ?_, fun f e p hz least most g d hg same => ?_⟩
  · have room : HasRoom z.exponent := hasRoom_of_bounds (by omega) (by omega)
    have same := z.decimalValue_mul_two_pow hx
    exact approximateChecked_of_decimalValue_eq (by positivity) room same
  · have room : HasRoom z.exponent := hasRoom_of_bounds (by omega) (by omega)
    have same := z.decimalValue_mul_five_pow hn
    exact approximateChecked_of_decimalValue_eq (by positivity) room same
  · rw [← z.value_eq_exactValue] at same
    rw [← precision_of_approximate hz]
    exact approximate_of_decimalValue_eq hg (hasRoom_of_bounds least most) same

theorem approximateChecked_exactValue_at_ends :
    (∃ z error, z.precision = Precision.full ∧ z.significand = 18446744073709551615 ∧
      z.exponent = 40 ∧
      (approximateChecked (18446744073709551615 * 2 ^ 40) 0 Precision.full).outcome =
        .ok ⟨z, error⟩ ∧ error.numer = 0) ∧
    ∃ z error, z.precision = ⟨1, by decide, by decide⟩ ∧ z.significand = 1 ∧ z.exponent = -1 ∧
      (approximateChecked 5 (-1) ⟨1, by decide, by decide⟩).outcome = .ok ⟨z, error⟩ ∧
        error.numer = 0 ∧ (approximate 50 (-2) ⟨1, by decide, by decide⟩).outcome = .ok z := by
  let top : BinaryFloat := ⟨Precision.full, 18446744073709551615, 40, by decide, by decide⟩
  let half : BinaryFloat := ⟨⟨1, by decide, by decide⟩, 1, -1, by decide, by decide⟩
  obtain ⟨error, checked, zero⟩ := (approximateChecked_exactValue top).1 40 rfl (by norm_num)
  obtain ⟨-, divided, again⟩ := approximateChecked_exactValue half
  obtain ⟨error', checked', zero'⟩ := divided 1 rfl (by norm_num) (by norm_num)
  refine ⟨⟨top, error, rfl, rfl, rfl, checked, zero⟩,
    half, error', rfl, rfl, rfl, checked', zero', ?_⟩
  have rounded := (approximateChecked_eq_ok_iff.mp checked').1
  apply again _ _ _ rounded (by decide) (by decide) 50 (-2) (by norm_num)
  rw [← half.value_eq_exactValue]
  norm_num [decimalValue, half, BinaryFloat.value, BinaryFloat.ulp]

end DecimalPowers
