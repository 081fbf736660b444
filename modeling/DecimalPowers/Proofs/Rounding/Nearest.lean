import DecimalPowers.Rounding
import DecimalPowers.Proofs.BinaryFloat.Value

/-!
Rounding to the nearest float. A positive rational is truncated to the greatest float not above it;
`RoundsTo` keeps the truncation or takes its successor, by the midpoint between the two. The result
is nearest among all points of the grid, it does not decrease when the rational grows, and its
distance is half a unit exactly at the midpoints inside a binade.
-/

set_option autoImplicit false
set_option relaxedAutoImplicit false

namespace DecimalPowers

namespace BinaryFloat

/-- The float is the greatest one of its precision that is not above `V`. -/
def Truncates (t : BinaryFloat) (V : ℚ) : Prop :=
  t.value ≤ V ∧ V < t.value + t.ulp

/-- Whether `V`, truncated to `t`, is to be rounded up: past the midpoint, and from the midpoint
when `t` is odd. -/
def RoundsUp (t : BinaryFloat) (V : ℚ) : Prop :=
  t.value + t.ulp / 2 < V ∨ V = t.value + t.ulp / 2 ∧ t.significand % 2 = 1

/-- The float is `V` rounded to nearest, a tie going to the even significand. -/
inductive RoundsTo (V : ℚ) : BinaryFloat → Prop
  | down {t : BinaryFloat} : t.Truncates V → ¬ t.RoundsUp V → RoundsTo V t
  | up {t z : BinaryFloat} : t.Truncates V → t.RoundsUp V → t.succ = .ok z → RoundsTo V z

theorem RoundsUp.midpoint_le {t : BinaryFloat} {V : ℚ} (h : t.RoundsUp V) :
    t.value + t.ulp / 2 ≤ V := by
  rcases h with past | ⟨tie, -⟩
  · exact past.le
  · exact tie.ge

theorem le_midpoint_of_not_roundsUp {t : BinaryFloat} {V : ℚ} (h : ¬ t.RoundsUp V) :
    V ≤ t.value + t.ulp / 2 := by
  by_contra past
  exact h (.inl (not_le.mp past))

theorem RoundsUp.mono {t : BinaryFloat} {V W : ℚ} (h : t.RoundsUp V) (hle : V ≤ W) :
    t.RoundsUp W := by
  rcases h with past | ⟨tie, odd⟩
  · exact .inl (past.trans_le hle)
  · rcases hle.lt_or_eq with less | same
    · exact .inl (tie ▸ less)
    · exact .inr ⟨same ▸ tie, odd⟩

theorem Truncates.parts_eq {t : BinaryFloat} {V : ℚ} (ht : t.Truncates V) {q : ℕ} {k : ℤ}
    (hq : t.precision.Normalized q) (lower : (q : ℚ) * 2 ^ k ≤ V)
    (upper : V < ((q : ℚ) + 1) * 2 ^ k) : t.significand = q ∧ t.exponent = k := by
  apply Precision.parts_eq_of_mul_zpow_eq hq t.normalized
  apply le_antisymm
  · rcases Precision.mul_zpow_le_or_succ_le hq t.normalized k t.exponent with le | ge
    · exact le
    · exact absurd ht.1 (not_le.mpr (upper.trans_le ge))
  · rcases t.mul_zpow_le_value_or hq k with le | ge
    · exact le
    · exact absurd lower (not_le.mpr (ht.2.trans_le ge))

/-- A rounded value is nearest among all points of the grid, those of other binades included. -/
theorem RoundsTo.nearest {z : BinaryFloat} {V : ℚ} (h : z.RoundsTo V) {s : ℕ}
    (hs : z.precision.Normalized s) (x : ℤ) : |V - z.value| ≤ |V - s * 2 ^ x| := by
  cases h with
  | down ht hn =>
    have half := le_midpoint_of_not_roundsUp hn
    rw [abs_of_nonneg (sub_nonneg.mpr ht.1)]
    rcases z.mul_zpow_le_value_or hs x with below | above
    · exact le_trans (by linarith) (le_abs_self _)
    · rw [abs_sub_comm]
      exact le_trans (by linarith) (le_abs_self _)
  | @up t z ht hr hz =>
    have half := hr.midpoint_le
    have hp := (succ_eq_ok_iff.mp hz).1
    rw [value_of_succ hz, abs_sub_comm, abs_of_nonneg (by linarith [ht.2])]
    rcases t.mul_zpow_le_value_or (hp ▸ hs) x with below | above
    · exact le_trans (by linarith) (le_abs_self _)
    · rw [abs_sub_comm]
      exact le_trans (by linarith) (le_abs_self _)

theorem RoundsTo.tie {z : BinaryFloat} {V : ℚ} (h : z.RoundsTo V) {q : ℕ} {k : ℤ}
    (hq : z.precision.Normalized q) (mid : V = (q + 1 / 2) * 2 ^ k) :
    ∃ w, ofParts z.precision q k = .ok w ∧ (q % 2 = 0 → z = w) ∧ (q % 2 = 1 → w.succ = .ok z) := by
  have hk := two_zpow_pos k
  have lower : (q : ℚ) * 2 ^ k ≤ V := by
    rw [mid]
    linarith
  have upper : V < ((q : ℚ) + 1) * 2 ^ k := by
    rw [mid]
    linarith
  cases h with
  | down ht hn =>
    obtain ⟨hs, hx⟩ := ht.parts_eq hq lower upper
    refine ⟨z, ofParts_eq_ok_iff.mpr ⟨rfl, hs, hx⟩, fun _ => rfl, fun odd => ?_⟩
    have : z.RoundsUp V := .inr ⟨by rw [mid, value, ulp, hs, hx]; ring, hs ▸ odd⟩
    exact absurd this hn
  | @up t z ht hr hz =>
    have hp := (succ_eq_ok_iff.mp hz).1
    obtain ⟨hs, hx⟩ := ht.parts_eq (hp ▸ hq) lower upper
    refine ⟨t, ofParts_eq_ok_iff.mpr ⟨hp.symm, hs, hx⟩, fun even => ?_, fun _ => hz⟩
    rcases hr with past | ⟨-, odd⟩
    · rw [mid, value, ulp, hs, hx] at past
      linarith
    · omega

private theorem RoundsTo.exists_truncation {z : BinaryFloat} {V : ℚ} (h : z.RoundsTo V) :
    ∃ t, t.precision = z.precision ∧ t.Truncates V ∧ t.value ≤ z.value ∧
      z.value ≤ t.value + t.ulp ∧ (¬ t.RoundsUp V ∧ z = t ∨ t.RoundsUp V ∧ t.succ = .ok z) := by
  cases h with
  | down ht hn =>
    have := z.ulp_pos
    exact ⟨z, rfl, ht, le_rfl, by linarith, .inl ⟨hn, rfl⟩⟩
  | @up t z ht hr hz =>
    have := t.ulp_pos
    have hv := value_of_succ hz
    exact ⟨t, (succ_eq_ok_iff.mp hz).1.symm, ht, by linarith, hv.le, .inr ⟨hr, hz⟩⟩

theorem RoundsTo.mono {z w : BinaryFloat} {V W : ℚ} (hz : z.RoundsTo V) (hw : w.RoundsTo W)
    (hp : z.precision = w.precision) (h : V ≤ W) : z.value ≤ w.value := by
  obtain ⟨t, htp, ht, -, hzt, hz⟩ := hz.exists_truncation
  obtain ⟨u, hup, hu, huw, -, hw⟩ := hw.exists_truncation
  have hn : t.precision = u.precision := htp.trans (hp.trans hup.symm)
  rcases t.mul_zpow_le_value_or (hn ▸ u.normalized) u.exponent with le | ge
  · have ge : t.value ≤ u.value := by
      rcases u.mul_zpow_le_value_or (hn ▸ t.normalized) t.exponent with le' | above
      · exact le'
      · exact absurd ht.1 (not_le.mpr (h.trans_lt (hu.2.trans_le above)))
    obtain rfl : t = u := eq_of_value_eq hn (le_antisymm ge le)
    rcases hz with ⟨-, rfl⟩ | ⟨up, hz⟩
    · exact huw
    · rcases hw with ⟨down, -⟩ | ⟨-, hw⟩
      · exact absurd (up.mono h) down
      · rw [value_of_succ hz, value_of_succ hw]
  · exact hzt.trans (le_trans ge huw)

theorem RoundsTo.unique {z w : BinaryFloat} {V : ℚ} (hz : z.RoundsTo V) (hw : w.RoundsTo V)
    (hp : z.precision = w.precision) : z = w :=
  eq_of_value_eq hp (le_antisymm (hz.mono hw hp le_rfl) (hw.mono hz hp.symm le_rfl))

/-- The exponent passes `k` where the midpoint above the greatest float of exponent `k` is
reached. -/
theorem RoundsTo.exponent_le_iff {z : BinaryFloat} {V : ℚ} (h : z.RoundsTo V) (k : ℤ) :
    z.exponent ≤ k ↔ V < (z.precision.maxSig + 1 / 2) * 2 ^ k := by
  have hk := two_zpow_pos k
  obtain ⟨t, htp, ht, -, -, hz⟩ := h.exists_truncation
  constructor
  · intro hx
    have top := value_le_maxSig_mul hx
    rcases hz with ⟨down, rfl⟩ | ⟨-, hz⟩
    · rcases z.mul_zpow_le_value_or z.precision.normalized_maxSig k with le | above
      · obtain ⟨hs, rfl⟩ := Precision.parts_eq_of_mul_zpow_eq z.precision.normalized_maxSig
          z.normalized (le_antisymm top le)
        -- the greatest significand is odd, so its upper midpoint rounds up
        have odd : z.significand % 2 = 1 := hs ▸ z.precision.maxSig_mod_two
        have half := (le_midpoint_of_not_roundsUp down).lt_of_ne
          fun tie => down (.inr ⟨tie, odd⟩)
        rw [value, ulp, hs] at half
        linarith
      · linarith [ht.2]
    · rw [value_of_succ hz] at top
      linarith [ht.2]
  · contrapose!
    intro hx
    rw [← htp]
    rcases lt_or_ge k t.exponent with less | ge
    · have := Precision.succ_mul_zpow_le t.normalized t.precision.normalized_maxSig less
      have : (t.significand : ℚ) * 2 ^ t.exponent ≤ V := ht.1
      linarith
    · rcases hz with ⟨-, rfl⟩ | ⟨up, hz⟩
      · omega
      · obtain ⟨-, ⟨top, -, hx'⟩ | ⟨-, -, hx'⟩⟩ := succ_eq_ok_iff.mp hz
        · have half := up.midpoint_le
          rw [value, ulp, top, show t.exponent = k by omega] at half
          linarith
        · omega

end BinaryFloat

end DecimalPowers
