import DecimalPowers.Proofs.Binary64.Value

/-!
Rounding of integers to binary64. An integer keeps its 53 leading bits, rounded to the nearest, and
is infinite from `2 ^ 1024` on. Up to 53 bits this is exact, and it never changes the order of two
integers.
-/

set_option autoImplicit false
set_option relaxedAutoImplicit false

namespace DecimalPowers

section HalfEven

variable {m n d : ℕ}

private theorem roundHalfEven_eq_or (n d : ℕ) :
    roundHalfEven n d = n / d ∨ roundHalfEven n d = n / d + 1 := by
  unfold roundHalfEven
  split_ifs <;> simp

private theorem roundHalfEven_mono (h : m ≤ n) (d : ℕ) : roundHalfEven m d ≤ roundHalfEven n d := by
  rcases (Nat.div_le_div_right h : m / d ≤ n / d).lt_or_eq with less | same
  · have := roundHalfEven_eq_or m d
    have := roundHalfEven_eq_or n d
    omega
  · have hm := Nat.div_add_mod m d
    have hn := Nat.div_add_mod n d
    rw [same] at hm
    have rest : m % d ≤ n % d := by omega
    unfold roundHalfEven
    rw [same]
    split_ifs <;> omega

private theorem roundHalfEven_mul_right (n : ℕ) (hd : 0 < d) : roundHalfEven (n * d) d = n := by
  unfold roundHalfEven
  rw [Nat.mul_mod_left, Nat.mul_div_cancel n hd, if_pos (by omega)]

end HalfEven

namespace Binary64

/-- The distance between the integers of 53 leading bits around `n`. -/
def spacing (n : ℕ) : ℕ := 2 ^ (n.log2 - 52)

/-- An integer with its 53 leading bits rounded. -/
def roundedInteger (n : ℕ) : ℕ := roundHalfEven n (spacing n) * spacing n

private theorem spacing_pos (n : ℕ) : 0 < spacing n := by
  unfold spacing
  positivity

theorem roundedInteger_of_lt {n : ℕ} (h : n < 2 ^ 53) : roundedInteger n = n := by
  have short : spacing n = 1 := by
    unfold spacing
    rcases Nat.eq_zero_or_pos n with rfl | positive
    · rfl
    · have := (Nat.log2_lt positive.ne').mpr h
      rw [Nat.sub_eq_zero_of_le (by omega), pow_zero]
  have whole := roundHalfEven_mul_right n one_pos
  rw [roundedInteger, short, mul_one]
  rwa [mul_one] at whole

private theorem roundedInteger_bounds {n : ℕ} (hn : n ≠ 0) :
    2 ^ n.log2 ≤ roundedInteger n ∧ roundedInteger n ≤ 2 ^ (n.log2 + 1) := by
  have lower := Nat.log2_self_le hn
  have upper := (Nat.lt_log2_self (n := n)).le
  rcases Nat.lt_or_ge n.log2 53 with short | long
  · have : n < 2 ^ 53 := (Nat.log2_lt hn).mp short
    rw [roundedInteger_of_lt this]
    exact ⟨lower, upper⟩
  · have hd := spacing_pos n
    have least : 2 ^ n.log2 = 2 ^ 52 * spacing n := by
      rw [spacing, ← pow_add]
      congr 1
      omega
    have most : 2 ^ (n.log2 + 1) = 2 ^ 53 * spacing n := by
      rw [spacing, ← pow_add]
      congr 1
      omega
    rw [least] at lower ⊢
    rw [most] at upper ⊢
    have low := roundHalfEven_mono lower (spacing n)
    have high := roundHalfEven_mono upper (spacing n)
    rw [roundHalfEven_mul_right _ hd] at low high
    exact ⟨Nat.mul_le_mul_right _ low, Nat.mul_le_mul_right _ high⟩

theorem roundedInteger_mono {m n : ℕ} (h : m ≤ n) : roundedInteger m ≤ roundedInteger n := by
  rcases Nat.eq_zero_or_pos m with rfl | positive
  · exact Nat.zero_le _
  · have hn : n ≠ 0 := (positive.trans_le h).ne'
    have longer : m.log2 ≤ n.log2 :=
      (Nat.le_log2 hn).mpr ((Nat.log2_self_le positive.ne').trans h)
    rcases longer.lt_or_eq with less | same
    · calc roundedInteger m ≤ 2 ^ (m.log2 + 1) := (roundedInteger_bounds positive.ne').2
        _ ≤ 2 ^ n.log2 := Nat.pow_le_pow_right two_pos less
        _ ≤ roundedInteger n := (roundedInteger_bounds hn).1
    · have spaced : spacing m = spacing n := by rw [spacing, spacing, same]
      rw [roundedInteger, roundedInteger, spaced]
      exact Nat.mul_le_mul_right _ (roundHalfEven_mono h _)

private theorem floorLog2_one {n : ℕ} (hn : n ≠ 0) : floorLog2 n 1 = n.log2 := by
  have lower := Nat.log2_self_le hn
  have log2_one : Nat.log2 1 = 0 := by decide
  unfold floorLog2
  simp only [log2_one, Nat.cast_zero, sub_zero, Int.toNat_natCast, Nat.pow_eq]
  have no_shift : (-(n.log2 : ℤ)).toNat = 0 := by omega
  rw [no_shift, pow_zero, mul_one, one_mul, if_pos lower]

private theorem roundedInteger_eq_mul {n : ℕ} (hn : n ≠ 0) {k : ℤ} (hk : k = n.log2 - 52) :
    (roundedInteger n : ℚ) = roundHalfEven (n * 2 ^ (-k).toNat) (2 ^ k.toNat) * 2 ^ k := by
  have spaced : 2 ^ k.toNat = spacing n := by
    rw [spacing]
    congr 1
    omega
  rw [spaced, zpow_eq_div two_ne_zero k]
  rcases Nat.lt_or_ge n.log2 52 with short | long
  · have small : n < 2 ^ 53 := (Nat.log2_lt hn).mp (by omega)
    have unspaced : spacing n = 1 := by rw [spacing, Nat.sub_eq_zero_of_le short.le, pow_zero]
    have whole := roundHalfEven_mul_right (n * 2 ^ (-k).toNat) one_pos
    have unit : k.toNat = 0 := by omega
    rw [mul_one] at whole
    rw [roundedInteger_of_lt small, unspaced, whole, unit]
    push_cast
    field_simp
  · have whole : (-k).toNat = 0 := by omega
    rw [whole, pow_zero, pow_zero, mul_one, div_one, roundedInteger, ← spaced]
    push_cast
    rfl

private theorem ofRatio_one {n : ℕ} (hn : n ≠ 0) : ∃ (m : ℕ) (k : ℤ),
    (leastNormal ≤ m ∧ m ≤ 2 * leastNormal) ∧ -52 ≤ k ∧
      (roundedInteger n : ℚ) = m * 2 ^ k ∧ ofRatio n 1 = carry m k := by
  obtain ⟨k, hk⟩ : ∃ k : ℤ, k = n.log2 - 52 := ⟨_, rfl⟩
  have exponent : max minExponent (floorLog2 n 1 - 52) = k := by
    rw [floorLog2_one hn, minExponent]
    omega
  have value := roundedInteger_eq_mul hn hk
  obtain ⟨lower, upper⟩ := roundedInteger_bounds hn
  refine ⟨_, k, ?_, by omega, value, ?_⟩
  · have hpos := two_zpow_pos k
    have least : ((2 ^ n.log2 : ℕ) : ℚ) = (2 ^ 52 : ℕ) * 2 ^ k := by
      rw [Nat.cast_pow, Nat.cast_pow, Nat.cast_ofNat, ← zpow_natCast, ← zpow_natCast,
        ← zpow_add₀ two_ne_zero]
      congr 1
      omega
    rw [pow_succ'] at upper
    have upper' : (roundedInteger n : ℚ) ≤ (2 * 2 ^ n.log2 : ℕ) := by exact_mod_cast upper
    have lower' : ((2 ^ n.log2 : ℕ) : ℚ) ≤ roundedInteger n := by exact_mod_cast lower
    rw [Nat.cast_mul, least, value, ← mul_assoc, mul_le_mul_iff_left₀ hpos] at upper'
    rw [least, value, mul_le_mul_iff_left₀ hpos] at lower'
    rw [leastNormal_eq]
    exact ⟨by exact_mod_cast lower', by exact_mod_cast upper'⟩
  · rw [ofRatio, if_neg hn, exponent]
    simp only [Nat.pow_eq, one_mul]

/-- A number of the format's range, and infinity for one past its end. -/
def capped (q : ℚ) : WithTop ℚ := if q < 2 ^ (1024 : ℤ) then (q : WithTop ℚ) else ⊤

theorem capped_mono {q r : ℚ} (h : q ≤ r) : capped q ≤ capped r := by
  unfold capped
  split
  · split
    · exact WithTop.coe_le_coe.mpr h
    · exact le_top
  · next past => rw [if_neg (not_lt.mpr ((not_lt.mp past).trans h))]

private theorem mul_zpow_lt_iff {m : ℕ} {k : ℤ} (lower : 2 ^ 52 ≤ m) (upper : m < 2 ^ 53) :
    (m : ℚ) * 2 ^ k < 2 ^ (1024 : ℤ) ↔ k ≤ maxExponent := by
  have hk := two_zpow_pos k
  have lower' : (2 : ℚ) ^ (52 : ℤ) ≤ m := by exact_mod_cast lower
  have upper' : (m : ℚ) < 2 ^ (53 : ℤ) := by exact_mod_cast upper
  unfold maxExponent
  constructor
  · intro less
    have : (2 : ℚ) ^ (52 + k) < 2 ^ (1024 : ℤ) := by
      rw [zpow_add₀ two_ne_zero]
      exact (mul_le_mul_of_nonneg_right lower' hk.le).trans_lt less
    have := (zpow_lt_zpow_iff_right₀ (by norm_num)).mp this
    omega
  · intro le
    calc (m : ℚ) * 2 ^ k < 2 ^ (53 : ℤ) * 2 ^ k := mul_lt_mul_of_pos_right upper' hk
      _ = 2 ^ (53 + k) := (zpow_add₀ two_ne_zero _ _).symm
      _ ≤ 2 ^ (1024 : ℤ) := zpow_le_zpow_right₀ (by norm_num) (by omega)

/-- A mantissa of 53 bits at an exponent from `least` on, or infinity. -/
def IsNormalFrom (least : ℤ) : Binary64 → Prop
  | finite m x => (leastNormal ≤ m ∧ m < 2 * leastNormal) ∧ least ≤ x ∧ x ≤ maxExponent
  | infinite => True

theorem IsNormalFrom.isMagnitude {least : ℤ} {b : Binary64} (h : b.IsNormalFrom least)
    (fits : minExponent ≤ least) : b.IsMagnitude := by
  cases b with
  | infinite => trivial
  | finite m x => exact .inr ⟨h.1, fits.trans h.2.1, h.2.2⟩

theorem IsNormalFrom.scaleDown {least : ℤ} {b : Binary64} (h : b.IsNormalFrom least) (n : ℕ) :
    (b.scaleDown n).IsNormalFrom (least - n) := by
  cases b with
  | infinite => trivial
  | finite m x =>
    obtain ⟨normal, lower, upper⟩ := h
    have positive : 0 < leastNormal := by decide
    rw [Binary64.scaleDown, if_neg (by omega)]
    exact ⟨normal, by omega, by omega⟩

theorem value_scaleDown (n : ℕ) (b : Binary64) :
    (b.scaleDown n).value = b.value.map (· / 2 ^ n) := by
  cases b with
  | infinite => rfl
  | finite m x =>
    rw [scaleDown, value, WithTop.map_coe]
    split
    · next empty =>
      subst empty
      simp [zero, value]
    · rw [value, mul_div_assoc, ← zpow_natCast, ← zpow_sub₀ two_ne_zero]

section Carry

variable {m : ℕ} {k least : ℤ}

private theorem finite_or_infinite_spec (lower : leastNormal ≤ m) (upper : m < 2 * leastNormal)
    (from_least : least ≤ k) :
    (if maxExponent < k then infinite else finite m k).IsNormalFrom least ∧
      (if maxExponent < k then infinite else finite m k).value = capped (m * 2 ^ k) := by
  have fits := mul_zpow_lt_iff (k := k) (leastNormal_eq ▸ lower)
    (by rw [leastNormal_eq] at upper; omega)
  rw [capped]
  split
  · next past =>
    rw [if_neg (by rw [fits]; omega)]
    exact ⟨trivial, rfl⟩
  · next within =>
    rw [if_pos (by rw [fits]; omega)]
    exact ⟨⟨⟨lower, upper⟩, from_least, by omega⟩, rfl⟩

private theorem carry_spec (lower : leastNormal ≤ m) (upper : m ≤ 2 * leastNormal)
    (from_least : least ≤ k) :
    (carry m k).IsNormalFrom least ∧ (carry m k).value = capped (m * 2 ^ k) := by
  unfold carry
  by_cases full : m = 2 * leastNormal
  · subst full
    have same : ((2 * leastNormal : ℕ) : ℚ) * 2 ^ k = leastNormal * 2 ^ (k + 1) := by
      rw [two_zpow_succ]
      push_cast
      ring
    rw [if_pos rfl, same]
    exact finite_or_infinite_spec le_rfl (by decide) (by omega)
  · rw [if_neg full]
    exact finite_or_infinite_spec lower (by omega) from_least

end Carry

theorem ofRatio_one_spec {n : ℕ} (hn : n ≠ 0) :
    (ofRatio n 1).IsNormalFrom (-52) ∧ (ofRatio n 1).value = capped (roundedInteger n) := by
  obtain ⟨m, k, ⟨lower, upper⟩, least, value, rounded⟩ := ofRatio_one hn
  rw [rounded, value]
  exact carry_spec lower upper least

end Binary64

end DecimalPowers
