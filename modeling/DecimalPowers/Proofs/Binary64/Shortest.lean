import DecimalPowers.Binary64.Shortest
import DecimalPowers.Proofs.Binary64.Value
import Mathlib.Data.Nat.Cast.Order.Field

/-!
The shortest decimal of a magnitude lies between the ends of the interval that rounds to it. The
grid of seventeen digits is finer than that interval, so the search always finds a decimal.
-/

set_option autoImplicit false
set_option relaxedAutoImplicit false

namespace DecimalPowers.ShortDecimal

def value (s : ShortDecimal) : ℚ := s.digits * 10 ^ s.exponent

private theorem value_trim (fuel : ℕ) (s : ShortDecimal) : (trim fuel s).value = s.value := by
  induction fuel generalizing s with
  | zero => rfl
  | succ fuel ih =>
    unfold trim
    split
    · next trailing =>
      have whole : (s.digits : ℚ) = (s.digits / 10 : ℕ) * 10 := by
        exact_mod_cast (Nat.div_mul_cancel (Nat.dvd_of_mod_eq_zero trailing.2)).symm
      rw [ih, value, value, whole, zpow_add_one₀ (by norm_num)]
      ring
    · rfl

section Magnitude

private theorem lt_ten_pow_digitCount (n : ℕ) : n < 10 ^ digitCount n := by
  unfold digitCount
  split
  · next empty => simp [empty]
  · exact (Nat.length_toDigits_le_iff (by decide) Nat.length_toDigits_pos).mp le_rfl

private theorem ten_pow_digitCount_le {n : ℕ} (hn : n ≠ 0) : 10 ^ (digitCount n - 1) ≤ n := by
  rw [digitCount, if_neg hn]
  rcases Nat.eq_zero_or_pos ((Nat.toDigits 10 n).length - 1) with single | several
  · rw [single]
    omega
  · by_contra! less
    have := (Nat.length_toDigits_le_iff (by decide) several).mpr less
    omega

private theorem ten_zpow_floorLog10_le {n d : ℕ} (hn : 0 < n) (hd : 0 < d) :
    (10 : ℚ) ^ floorLog10 n d ≤ n / d := by
  have hd' : (0 : ℚ) < d := by exact_mod_cast hd
  have hn' : (0 : ℚ) < n := by exact_mod_cast hn
  unfold floorLog10
  split
  · next large =>
    have positive : n / d ≠ 0 := (Nat.div_pos large hd).ne'
    have count : 0 < digitCount (n / d) := by
      rw [digitCount, if_neg positive]
      exact Nat.length_toDigits_pos
    have exponent : (digitCount (n / d) : ℤ) - 1 = (digitCount (n / d) - 1 : ℕ) := by omega
    calc (10 : ℚ) ^ ((digitCount (n / d) : ℤ) - 1) = (10 ^ (digitCount (n / d) - 1) : ℕ) := by
          rw [exponent, zpow_natCast]
          push_cast
          rfl
      _ ≤ (n / d : ℕ) := by exact_mod_cast ten_pow_digitCount_le positive
      _ ≤ (n : ℚ) / d := Nat.cast_div_le
  · next small =>
    -- the ceiling of `d / n` has one more than the number whose digits are counted
    have ceiling : d ≤ n * 10 ^ digitCount ((d + n - 1) / n - 1) := by
      have bound := lt_ten_pow_digitCount ((d + n - 1) / n - 1)
      have split := Nat.div_add_mod (d + n - 1) n
      have rest := Nat.mod_lt (d + n - 1) hn
      have : (d + n - 1) / n ≤ 10 ^ digitCount ((d + n - 1) / n - 1) := by omega
      have := Nat.mul_le_mul_left n this
      omega
    rw [zpow_neg, zpow_natCast, inv_le_comm₀ (by positivity) (by positivity), inv_div,
      div_le_iff₀ hn', mul_comm]
    exact_mod_cast ceiling

end Magnitude

section Search

variable {t : Target} {tie : Tie} {e x : ℤ} {count : ℕ}

private theorem Target.le_of_contains {num den : ℕ} (h : t.contains num den = true) :
    t.low * den ≤ num ∧ num ≤ t.high * den := by
  unfold contains at h
  split at h
  · exact of_decide_eq_true h
  · have := of_decide_eq_true h
    omega

private theorem Target.le_of_not_contains {num den : ℕ} (h : t.contains num den = false) :
    num ≤ t.low * den ∨ t.high * den ≤ num := by
  unfold contains at h
  split at h
  · have := of_decide_eq_false h
    omega
  · have := of_decide_eq_false h
    omega

/-- The unit of a decimal grid against a binary unit, as the numerator of a fraction. -/
def gridNumer (k x : ℤ) : ℕ := Nat.pow 10 k.toNat * Nat.pow 2 (-x).toNat

def gridDenom (k x : ℤ) : ℕ := Nat.pow 10 (-k).toNat * Nat.pow 2 x.toNat

private theorem gridDenom_pos (k x : ℤ) : 0 < gridDenom k x :=
  Nat.mul_pos (Nat.pow_pos (by decide)) (Nat.two_pow_pos _)

private theorem gridNumer_pos (k x : ℤ) : 0 < gridNumer k x :=
  Nat.mul_pos (Nat.pow_pos (by decide)) (Nat.two_pow_pos _)

private theorem ten_zpow_eq_grid (k x : ℤ) :
    (10 : ℚ) ^ k = (gridNumer k x : ℚ) / gridDenom k x * 2 ^ x := by
  have hx : (2 : ℚ) ^ (-x).toNat ≠ 0 := by positivity
  have hx' : (2 : ℚ) ^ x.toNat ≠ 0 := by positivity
  rw [zpow_eq_div (by norm_num) k, zpow_eq_div two_ne_zero x]
  simp only [gridNumer, gridDenom, Nat.pow_eq]
  push_cast
  field_simp

private theorem contains_of_onGrid? {s : ShortDecimal} (h : onGrid? tie t e x count = some s) :
    t.contains (s.digits * gridNumer s.exponent x) (gridDenom s.exponent x) = true := by
  unfold onGrid? at h
  simp only at h
  split at h
  · next below above =>
    split at h
    · cases h
      exact below
    · cases h
      exact above
  · next below _ =>
    cases h
    exact below
  · next _ above =>
    cases h
    exact above
  · cases h

private theorem value_of_onGrid? {s : ShortDecimal} (h : onGrid? tie t e x count = some s) :
    t.low * 2 ^ x ≤ s.value ∧ s.value ≤ t.high * 2 ^ x := by
  obtain ⟨lower, upper⟩ := Target.le_of_contains (contains_of_onGrid? h)
  have hx := two_zpow_pos x
  have hd : (0 : ℚ) < gridDenom s.exponent x := by exact_mod_cast gridDenom_pos s.exponent x
  rw [value, ten_zpow_eq_grid s.exponent x, ← mul_assoc, mul_le_mul_iff_left₀ hx,
    mul_le_mul_iff_left₀ hx, ← mul_div_assoc, le_div_iff₀ hd, div_le_iff₀ hd]
  exact ⟨by exact_mod_cast lower, by exact_mod_cast upper⟩

private theorem not_contains_of_onGrid? (h : onGrid? tie t e x count = none) {k : ℤ}
    (hk : e - count + 1 = k) {below : ℕ}
    (hbelow : t.value * gridDenom k x / gridNumer k x = below) :
    t.contains (below * gridNumer k x) (gridDenom k x) = false ∧
      t.contains ((below + 1) * gridNumer k x) (gridDenom k x) = false := by
  subst hk hbelow
  unfold onGrid? at h
  simp only at h
  split at h
  · split at h
    · cases h
    · cases h
  · cases h
  · cases h
  · next below above => exact ⟨below, above⟩

private theorem width_le_of_onGrid?_eq_none (inside : t.low ≤ t.value ∧ t.value < t.high)
    (h : onGrid? tie t e x count = none) :
    (t.high : ℚ) * 2 ^ x ≤ t.low * 2 ^ x + 10 ^ (e - count + 1) := by
  obtain ⟨k, hk⟩ : ∃ k, e - count + 1 = k := ⟨_, rfl⟩
  obtain ⟨below, hbelow⟩ : ∃ below, t.value * gridDenom k x / gridNumer k x = below := ⟨_, rfl⟩
  obtain ⟨not_below, not_above⟩ := not_contains_of_onGrid? h hk hbelow
  have hd := gridDenom_pos k x
  have split := Nat.div_add_mod (t.value * gridDenom k x) (gridNumer k x)
  have rest := Nat.mod_lt (t.value * gridDenom k x) (gridNumer_pos k x)
  have least := Nat.mul_le_mul_right (gridDenom k x) inside.1
  have most := Nat.mul_lt_mul_of_pos_right inside.2 hd
  rw [hbelow, mul_comm] at split
  have wide : t.high * gridDenom k x ≤ t.low * gridDenom k x + gridNumer k x := by
    have short := Target.le_of_not_contains not_below
    have beyond := Target.le_of_not_contains not_above
    rw [Nat.succ_mul] at beyond
    omega
  have hd' : (0 : ℚ) < gridDenom k x := by exact_mod_cast hd
  have wide' : (t.high : ℚ) * gridDenom k x ≤ t.low * gridDenom k x + gridNumer k x := by
    exact_mod_cast wide
  rw [hk, ten_zpow_eq_grid k x, ← add_mul]
  apply mul_le_mul_of_nonneg_right _ (two_zpow_pos x).le
  rw [← div_le_div_iff_of_pos_right hd', add_div, mul_div_cancel_right₀ _ hd'.ne',
    mul_div_cancel_right₀ _ hd'.ne'] at wide'
  exact wide'

end Search

section Shortest

variable {m : ℕ} {x : ℤ}

private theorem fraction_eq (m : ℕ) (x : ℤ) :
    ((Binary64.fraction m x).1 : ℚ) / (Binary64.fraction m x).2 =
    m * 2 ^ x := by
  rw [zpow_eq_div two_ne_zero x]
  simp only [Binary64.fraction, Nat.pow_eq]
  push_cast
  rw [mul_div_assoc]

/-- Seventeen digits are always enough. -/
theorem onGrid?_seventeen_ne_none (tie : Tie) (positive : 0 < m) (upper : m < 2 ^ 53) {e : ℤ}
    (he : (10 : ℚ) ^ e ≤ m * 2 ^ x) : onGrid? tie (target m x) e (x - 2) 17 ≠ none := by
  intro none
  have inside : (target m x).low ≤ (target m x).value ∧ (target m x).value < (target m x).high := by
    unfold target
    simp only
    split <;> omega
  have wide := width_le_of_onGrid?_eq_none inside none
  have unit := two_zpow_pos (x - 2)
  have quarter : (2 : ℚ) ^ x = 4 * 2 ^ (x - 2) := by
    rw [← sub_add_cancel x 2, zpow_add₀ two_ne_zero]
    norm_num
    ring
  have grid : (10 : ℚ) ^ e = 10 ^ 16 * 10 ^ (e - (17 : ℕ) + 1) := by
    rw [← zpow_natCast, ← zpow_add₀ (by norm_num)]
    congr 1
    push_cast
    ring
  have narrow : (10 : ℚ) ^ 16 * ((target m x).high - (target m x).low) ≤ 4 * m := by
    rw [← mul_le_mul_iff_left₀ unit]
    rw [grid, quarter] at he
    linarith
  have narrow' : 10 ^ 16 * (target m x).high ≤ 4 * m + 10 ^ 16 * (target m x).low := by
    rw [mul_sub, sub_le_iff_le_add] at narrow
    exact_mod_cast narrow
  unfold target at narrow'
  simp only [Binary64.leastNormal_eq] at narrow'
  split at narrow' <;> omega

private theorem value_ofFinite (tie : Tie) (positive : 0 < m) (upper : m < 2 ^ 53) (x : ℤ) :
    (target m x).low * 2 ^ (x - 2) ≤ (ofFinite tie m x).value ∧
      (ofFinite tie m x).value ≤ (target m x).high * 2 ^ (x - 2) := by
  obtain ⟨e, he⟩ : ∃ e, floorLog10 (Binary64.fraction m x).1 (Binary64.fraction m x).2 = e :=
    ⟨_, rfl⟩
  have leading : (10 : ℚ) ^ e ≤ m * 2 ^ x := by
    rw [← he, ← fraction_eq]
    exact ten_zpow_floorLog10_le (Nat.mul_pos positive (Nat.two_pow_pos _)) (Nat.two_pow_pos _)
  rw [ofFinite, if_neg positive.ne']
  simp only [he]
  split
  · next s found =>
    obtain ⟨count, -, on_grid⟩ := List.exists_of_findSome?_eq_some found
    rw [value_trim]
    exact value_of_onGrid? on_grid
  · next missing =>
    have last := List.findSome?_eq_none_iff.mp missing 17 (by decide)
    exact absurd last (onGrid?_seventeen_ne_none tie positive upper leading)

/-- A normal magnitude from one half on has no shorter form below one half. -/
theorem half_le_value_ofFinite (lower : 2 ^ 52 ≤ m) (upper : m < 2 ^ 53)
    (half : (1 / 2 : ℚ) ≤ m * 2 ^ x) : 1 / 2 ≤ (ofFinite .up m x).value := by
  have above : -54 < x := by
    have : (2 : ℚ) ^ (-1 : ℤ) < 2 ^ (53 + x) := by
      rw [zpow_add₀ two_ne_zero]
      calc (2 : ℚ) ^ (-1 : ℤ) ≤ m * 2 ^ x := by
            rw [zpow_neg_one, ← one_div]
            exact half
        _ < 2 ^ (53 : ℤ) * 2 ^ x := by
            apply mul_lt_mul_of_pos_right _ (two_zpow_pos x)
            exact_mod_cast upper
    have := (zpow_lt_zpow_iff_right₀ (by norm_num)).mp this
    omega
  by_cases exact_half : m = 2 ^ 52 ∧ x = -53
  · -- the interval of one half itself reaches below it, so the decimal is computed
    obtain ⟨rfl, rfl⟩ := exact_half
    have five : ofFinite .up (2 ^ 52) (-53) = ⟨5, -1⟩ := by decide
    rw [five]
    norm_num [value]
  · refine le_trans ?_ (value_ofFinite .up (by omega) upper x).1
    rcases Int.lt_or_le x (-52) with least | rest
    · have low : 2 ^ 54 ≤ (target m x).low := by
        simp only [target, Binary64.leastNormal_eq]
        split <;> omega
      have low' : (2 : ℚ) ^ 54 ≤ (target m x).low := by exact_mod_cast low
      calc (1 / 2 : ℚ) = 2 ^ 54 * 2 ^ (-55 : ℤ) := by norm_num
        _ = 2 ^ 54 * 2 ^ (x - 2) := by
          congr 2
          omega
        _ ≤ (target m x).low * 2 ^ (x - 2) :=
          mul_le_mul_of_nonneg_right low' (two_zpow_pos _).le
    · have low : 2 ^ 53 ≤ (target m x).low := by
        simp only [target, Binary64.leastNormal_eq]
        split <;> omega
      have low' : (2 : ℚ) ^ 53 ≤ (target m x).low := by exact_mod_cast low
      calc (1 / 2 : ℚ) = 2 ^ 53 * 2 ^ (-54 : ℤ) := by norm_num
        _ ≤ 2 ^ 53 * 2 ^ (x - 2) := by
          apply mul_le_mul_of_nonneg_left _ (by norm_num)
          exact zpow_le_zpow_right₀ (by norm_num) (by omega)
        _ ≤ (target m x).low * 2 ^ (x - 2) :=
          mul_le_mul_of_nonneg_right low' (two_zpow_pos _).le

end Shortest

end DecimalPowers.ShortDecimal
