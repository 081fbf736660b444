import DecimalPowers.Precision
import Mathlib.Algebra.Order.Ring.Rat
import Mathlib.Tactic.FieldSimp
import Mathlib.Tactic.Linarith
import Mathlib.Tactic.Positivity
import Mathlib.Tactic.Ring

/-!
The grid of a precision: the rationals `s * 2 ^ x` with a normalized significand `s` and any integer
exponent `x`. Its points have one pair of parts each, and the next point above `q * 2 ^ k` is
`(q + 1) * 2 ^ k`, whatever the exponents of the others are. A positive word is a normalized
significand of one precision only.
-/

set_option autoImplicit false
set_option relaxedAutoImplicit false

namespace DecimalPowers

theorem two_zpow_pos (k : ℤ) : (0 : ℚ) < 2 ^ k := zpow_pos (by norm_num) k

theorem two_zpow_succ (k : ℤ) : (2 : ℚ) ^ (k + 1) = 2 * 2 ^ k := by
  rw [zpow_add_one₀ (by norm_num), mul_comm]

theorem natCast_mul_zpow_le {a b : ℕ} (h : a ≤ b) (k : ℤ) : (a : ℚ) * 2 ^ k ≤ b * 2 ^ k := by
  apply mul_le_mul_of_nonneg_right _ (two_zpow_pos k).le
  exact_mod_cast h

theorem zpow_eq_div {b : ℚ} (hb : b ≠ 0) (e : ℤ) : b ^ e = b ^ e.toNat / b ^ (-e).toNat := by
  rw [← zpow_natCast, ← zpow_natCast, ← zpow_sub₀ hb, Int.toNat_sub_toNat_neg]

theorem compare_div_div {a b c d : ℕ} (hb : 0 < b) (hd : 0 < d) :
    compare ((a : ℚ) / b) (c / d) = compare (a * d) (c * b) := by
  have hb' : (0 : ℚ) < b := by exact_mod_cast hb
  have hd' : (0 : ℚ) < d := by exact_mod_cast hd
  have left : (a : ℚ) / b * (b * d) = (a * d : ℕ) := by
    push_cast
    field_simp
  have right : (c : ℚ) / d * (b * d) = (c * b : ℕ) := by
    push_cast
    field_simp
  calc compare ((a : ℚ) / b) (c / d)
      = cmp ((a : ℚ) / b * (b * d)) (c / d * (b * d)) := by
        rw [cmp_mul_pos_right (mul_pos hb' hd'), cmp_eq_compare]
    _ = cmp ((a * d : ℕ) : ℚ) (c * b : ℕ) := by rw [left, right]
    _ = compare (a * d) (c * b) := by rw [Nat.strictMono_cast.cmp_map_eq, cmp_eq_compare]

namespace Precision

theorem minSig_eq (p : Precision) : p.minSig = 2 ^ (p.bits - 1) := Nat.pow_eq

theorem maxSig_eq (p : Precision) : p.maxSig = 2 ^ p.bits - 1 := by
  rw [maxSig, Nat.pow_eq]

theorem maxSig_add_one_eq_two_pow (p : Precision) : p.maxSig + 1 = 2 ^ p.bits := by
  rw [maxSig_eq, Nat.sub_add_cancel Nat.one_le_two_pow]

theorem cast_maxSig_add_one (R : Type) [Semiring R] (p : Precision) :
    (p.maxSig : R) + 1 = 2 * p.minSig := by
  exact_mod_cast congrArg (Nat.cast : ℕ → R) p.maxSig_add_one

theorem maxSig_mod_two (p : Precision) : p.maxSig % 2 = 1 := by
  have := p.maxSig_add_one
  omega

theorem minSig_cast_pos (p : Precision) : (0 : ℤ) < p.minSig := by exact_mod_cast p.minSig_pos

theorem normalized_minSig (p : Precision) : p.Normalized p.minSig :=
  ⟨le_rfl, p.minSig_le_maxSig⟩

theorem normalized_maxSig (p : Precision) : p.Normalized p.maxSig :=
  ⟨p.minSig_le_maxSig, le_rfl⟩

private theorem normalized_iff_bits_eq {p : Precision} {s : ℕ} (hs : 0 < s) :
    p.Normalized s ↔ p.bits = s.log2 + 1 := by
  have width := p.bits_pos
  have top := p.maxSig_add_one_eq_two_pow
  have log : s.log2 = p.bits - 1 ↔ 2 ^ (p.bits - 1) ≤ s ∧ s < 2 ^ p.bits := by
    rw [Nat.log2_eq_iff hs.ne', Nat.sub_add_cancel width]
  rw [← minSig_eq] at log
  unfold Normalized
  omega

theorem existsUnique_normalized {s : ℕ} (hs : 0 < s) (word : s < UInt64.size) :
    ∃! p : Precision, p.Normalized s := by
  have le : s.log2 + 1 ≤ 64 := (Nat.log2_lt hs.ne').mpr word
  refine ⟨⟨s.log2 + 1, by omega, le⟩, (normalized_iff_bits_eq hs).mpr rfl, fun q hq => ?_⟩
  exact eq_of_bits ((normalized_iff_bits_eq hs).mp hq)

theorem eq_of_normalized {p q : Precision} {s : ℕ} (hp : p.Normalized s) (hq : q.Normalized s) :
    p = q := by
  have hs : 0 < s := p.minSig_pos.trans_le hp.1
  have hp' := (normalized_iff_bits_eq hs).mp hp
  have hq' := (normalized_iff_bits_eq hs).mp hq
  exact eq_of_bits (hp'.trans hq'.symm)

theorem succ_mul_zpow_le {p : Precision} {q s : ℕ} {k x : ℤ} (hq : p.Normalized q)
    (hs : p.Normalized s) (h : x < k) : ((s : ℚ) + 1) * 2 ^ x ≤ q * 2 ^ k := by
  have top : s + 1 ≤ 2 * p.minSig := by
    have := p.maxSig_add_one
    omega
  calc ((s : ℚ) + 1) * 2 ^ x = (s + 1 : ℕ) * 2 ^ x := by rw [Nat.cast_succ]
    _ ≤ (2 * p.minSig : ℕ) * 2 ^ x := natCast_mul_zpow_le top x
    _ = p.minSig * 2 ^ (x + 1) := by
        rw [two_zpow_succ]
        push_cast
        ring
    _ ≤ p.minSig * 2 ^ k := by
        apply mul_le_mul_of_nonneg_left _ (Nat.cast_nonneg _)
        exact zpow_le_zpow_right₀ (by norm_num) (by omega)
    _ ≤ q * 2 ^ k := natCast_mul_zpow_le hq.1 k

theorem mul_zpow_lt_of_exponent_lt {p : Precision} {q s : ℕ} {k x : ℤ} (hq : p.Normalized q)
    (hs : p.Normalized s) (h : x < k) : (s : ℚ) * 2 ^ x < q * 2 ^ k := by
  have far := succ_mul_zpow_le hq hs h
  have hx := two_zpow_pos x
  linarith

/-- No normalized significand, with any exponent, lies strictly between `q * 2 ^ k` and the point
one unit above it. -/
theorem mul_zpow_le_or_succ_le {p : Precision} {q s : ℕ} (hq : p.Normalized q)
    (hs : p.Normalized s) (k x : ℤ) :
    (s : ℚ) * 2 ^ x ≤ q * 2 ^ k ∨ ((q : ℚ) + 1) * 2 ^ k ≤ s * 2 ^ x := by
  rcases lt_trichotomy x k with below | same | above
  · left
    exact (mul_zpow_lt_of_exponent_lt hq hs below).le
  · subst same
    rcases Nat.lt_or_ge q s with less | more
    · right
      rw [← Nat.cast_succ]
      exact natCast_mul_zpow_le less x
    · left
      exact natCast_mul_zpow_le more x
  · right
    exact succ_mul_zpow_le hs hq above

theorem parts_eq_of_mul_zpow_eq {p : Precision} {q s : ℕ} {k x : ℤ} (hq : p.Normalized q)
    (hs : p.Normalized s) (h : (s : ℚ) * 2 ^ x = q * 2 ^ k) : s = q ∧ x = k := by
  rcases lt_trichotomy x k with below | same | above
  · exact absurd h (mul_zpow_lt_of_exponent_lt hq hs below).ne
  · subst same
    exact ⟨by exact_mod_cast mul_right_cancel₀ (two_zpow_pos x).ne' h, rfl⟩
  · exact absurd h (mul_zpow_lt_of_exponent_lt hs hq above).ne'

end Precision

end DecimalPowers
