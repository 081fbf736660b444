import DecimalPowers.Proofs.Approximation.SelfTest
import DecimalPowers.Proofs.Binary64.Positional
import DecimalPowers.Proofs.Binary64.Rounding
import DecimalPowers.Proofs.UlpError.Order

/-!
What is shown of an error. The error is cut to a multiple of `2 ^ -53`; below one unit the shown
magnitude is that multiple, and beyond it rounding keeps the order. So the shown magnitude is on the
same side of one half as the error.
-/

set_option autoImplicit false
set_option relaxedAutoImplicit false

namespace DecimalPowers.UlpError

open Binary64 (capped capped_mono roundedInteger roundedInteger_of_lt roundedInteger_mono)

/-- The error in units of `2 ^ -53`, cut to an integer. -/
def cut (a : UlpError) : ℕ := a.numer * 2 ^ 53 / a.denom

def shown (n : ℕ) : WithTop ℚ := (capped (roundedInteger n)).map (· / 2 ^ 53)

private theorem shown_mono {m n : ℕ} (h : m ≤ n) : shown m ≤ shown n := by
  have rounded : (roundedInteger m : ℚ) ≤ roundedInteger n := by
    exact_mod_cast roundedInteger_mono h
  have divided : Monotone fun q : ℚ => q / 2 ^ 53 :=
    fun q r le => div_le_div_of_nonneg_right le (by norm_num)
  exact divided.withTop_map (capped_mono rounded)

private theorem shown_of_lt {n : ℕ} (h : n < 2 ^ 53) :
    shown n = ((n / 2 ^ 53 : ℚ) : WithTop ℚ) := by
  have small : (n : ℚ) < 2 ^ (1024 : ℤ) := by
    calc (n : ℚ) < 2 ^ (53 : ℤ) := by exact_mod_cast h
      _ ≤ 2 ^ (1024 : ℤ) := zpow_le_zpow_right₀ (by norm_num) (by norm_num)
  rw [shown, roundedInteger_of_lt h, capped, if_pos small, WithTop.map_coe]

section Cut

variable (a : UlpError)

private theorem cut_le : (a.cut : ℚ) ≤ a.value * 2 ^ 53 := by
  rw [value, div_mul_eq_mul_div, le_div_iff₀ a.denom_cast_pos]
  exact_mod_cast Nat.div_mul_le_self (a.numer * 2 ^ 53) a.denom

private theorem lt_cut_add_one : a.value * 2 ^ 53 < a.cut + 1 := by
  rw [value, div_mul_eq_mul_div, div_lt_iff₀ a.denom_cast_pos]
  exact_mod_cast (Nat.div_lt_iff_lt_mul a.denom_pos).mp (Nat.lt_succ_self a.cut)

private theorem cut_lt_iff (n : ℕ) : a.cut < n ↔ a.value * 2 ^ 53 < n := by
  constructor
  · intro less
    have : (a.cut : ℚ) + 1 ≤ n := by exact_mod_cast less
    exact a.lt_cut_add_one.trans_le this
  · intro less
    exact_mod_cast a.cut_le.trans_lt less

private theorem toBinary64_spec : a.toBinary64.IsMagnitude ∧ a.toBinary64.value = shown a.cut := by
  have cut_eq : a.numer * Nat.pow 2 53 / a.denom = a.cut := rfl
  rw [toBinary64, cut_eq]
  rcases Nat.eq_zero_or_pos a.cut with cut_zero | cut_pos
  · rw [cut_zero, shown_of_lt (by norm_num)]
    refine ⟨.inl ⟨by decide, rfl⟩, ?_⟩
    simp [Binary64.ofRatio, Binary64.zero, Binary64.scaleDown, Binary64.value]
  · obtain ⟨normal, value⟩ := Binary64.ofRatio_one_spec cut_pos.ne'
    rw [Binary64.value_scaleDown, value]
    exact ⟨(normal.scaleDown 53).isMagnitude (by decide), rfl⟩

private theorem value_toBinary64_lt_half_iff :
    a.toBinary64.value < ((1 / 2 : ℚ) : WithTop ℚ) ↔ a.isBelowHalf = true := by
  have half : a.isBelowHalf = true ↔ a.cut < 2 ^ 52 := by
    rw [isBelowHalf_iff, cut_lt_iff]
    push_cast
    constructor
    · intro less
      linarith
    · intro less
      linarith
  rw [a.toBinary64_spec.2, half]
  constructor
  · intro less
    by_contra! ge
    have least := (shown_of_lt (n := 2 ^ 52) (by norm_num)).symm.le.trans (shown_mono ge)
    have := least.trans_lt less
    norm_num at this
  · intro less
    rw [shown_of_lt (by omega), WithTop.coe_lt_coe, div_lt_iff₀ (by norm_num)]
    have : (a.cut : ℚ) < 2 ^ 52 := by exact_mod_cast less
    linarith

private theorem value_toBinary64_of_lt_one (h : a.value < 1) :
    a.toBinary64.value ≤ a.value ∧
      (a.value : WithTop ℚ) < a.toBinary64.value + ((2 ^ (-53 : ℤ) : ℚ) : WithTop ℚ) := by
  have small : a.cut < 2 ^ 53 := by
    rw [cut_lt_iff]
    push_cast
    linarith
  have lower := a.cut_le
  have upper := a.lt_cut_add_one
  rw [a.toBinary64_spec.2, shown_of_lt small, ← WithTop.coe_add, WithTop.coe_le_coe,
    WithTop.coe_lt_coe, div_le_iff₀ (by norm_num)]
  refine ⟨lower, ?_⟩
  norm_num
  linarith

end Cut

private theorem value_toBinary64_mono {a b : UlpError} (h : (a.compare b).isLE) :
    a.toBinary64.value ≤ b.toBinary64.value := by
  rw [isLE_compare_iff_value_le] at h
  rw [a.toBinary64_spec.2, b.toBinary64_spec.2]
  apply shown_mono
  apply Nat.le_of_lt_succ
  rw [cut_lt_iff]
  have := b.lt_cut_add_one
  push_cast
  linarith

/-- A text that writes a number from one half on, or infinity. -/
def WritesAtLeastHalf (text : String) : Prop :=
  text = "inf" ∨ ∃ v, ShortDecimal.positionalValue? text.toList = some v ∧ 1 / 2 ≤ v

private theorem display_of_not_isBelowHalf {a : UlpError} (h : ¬ a.isBelowHalf = true) :
    ∃ text, a.display = text ++ " ULP" ∧ WritesAtLeastHalf text := by
  have magnitude := a.toBinary64_spec.1
  have half := mt (value_toBinary64_lt_half_iff a).mp h
  unfold display
  cases shown : a.toBinary64 with
  | infinite => exact ⟨_, rfl, .inl rfl⟩
  | finite m x =>
    refine ⟨_, rfl, .inr ⟨_, ShortDecimal.positionalValue?_positional _, ?_⟩⟩
    rw [shown, Binary64.value, WithTop.coe_lt_coe, not_lt] at half
    rw [shown, Binary64.IsMagnitude, Binary64.leastNormal_eq] at magnitude
    rcases magnitude with ⟨small, rfl⟩ | ⟨⟨lower, upper⟩, -⟩
    · -- a magnitude below the least normal one is far below one half
      have tiny : (m : ℚ) * 2 ^ Binary64.minExponent < 1 / 2 := by
        calc (m : ℚ) * 2 ^ Binary64.minExponent < 2 ^ 52 * 2 ^ Binary64.minExponent := by
              apply mul_lt_mul_of_pos_right _ (two_zpow_pos _)
              exact_mod_cast small
          _ ≤ 2 ^ 52 * 2 ^ (-53 : ℤ) := by
              apply mul_le_mul_of_nonneg_left _ (by norm_num)
              exact zpow_le_zpow_right₀ (by norm_num) (by decide)
          _ = 1 / 2 := by norm_num
      exact absurd half (not_le.mpr tiny)
    · exact ShortDecimal.half_le_value_ofFinite lower (by omega) half

end DecimalPowers.UlpError
