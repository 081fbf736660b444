import DecimalPowers.Parameters
import DecimalPowers.Proofs.ExponentRange.Listing

/-!
Validation of parameters. It succeeds exactly when the width, the range and the mantissa are all
possible, and the validated parameters are those given.
-/

set_option autoImplicit false
set_option relaxedAutoImplicit false

namespace DecimalPowers

private theorem Precision.ofBits?_bits (p : Precision) : ofBits? p.bits = some p := by
  unfold ofBits?
  rw [dif_pos ⟨p.bits_pos, p.bits_le⟩]

namespace Parameters

def IsValid (c : Parameters) : Prop :=
  (1 ≤ c.bits ∧ c.bits ≤ 64) ∧ c.minExp ≤ c.maxExp ∧ FitsInt16 c.minExp ∧ FitsInt16 c.maxExp ∧
    0 < c.mantissa

private theorem precision_eq_ok_iff {c : Parameters} {p : Precision} :
    c.precision = .ok p ↔ p.bits = c.bits := by
  unfold precision
  constructor
  · intro h
    split at h
    · next found =>
      cases h
      exact Precision.bits_of_ofBits? found
    · cases h
  · intro h
    rw [← h, Precision.ofBits?_bits]

theorem validate_eq_ok_iff {c : Parameters} {v : Valid} :
    c.validate = .ok v ↔ v.precision.bits = c.bits ∧ v.range.min = c.minExp ∧
      v.range.max = c.maxExp ∧ v.mantissa = c.mantissa := by
  constructor
  · intro h
    unfold validate at h
    cases hp : c.precision with
    | error cause => rw [hp] at h; cases h
    | ok p =>
      cases hr : c.range with
      | error cause => rw [hp, hr] at h; cases h
      | ok r =>
        rw [hp, hr] at h
        change (if h : 0 < c.mantissa then Except.ok _ else .error _) = _ at h
        split at h
        · cases h
          obtain ⟨hmin, hmax⟩ := ExponentRange.ofBounds_eq_ok_iff.mp hr
          exact ⟨precision_eq_ok_iff.mp hp, hmin, hmax, rfl⟩
        · cases h
  · obtain ⟨p, r, m, positive⟩ := v
    rintro ⟨hp, hmin, hmax, rfl⟩
    have hr : c.range = .ok r := ExponentRange.ofBounds_eq_ok_iff.mpr ⟨hmin, hmax⟩
    unfold validate
    rw [precision_eq_ok_iff.mpr hp, hr]
    change (if h : 0 < c.mantissa then Except.ok _ else .error _) = _
    rw [dif_pos positive]

theorem exists_validate_iff {c : Parameters} : (∃ v, c.validate = .ok v) ↔ c.IsValid := by
  constructor
  · rintro ⟨v, h⟩
    obtain ⟨hp, hmin, hmax, hm⟩ := validate_eq_ok_iff.mp h
    refine ⟨?_, ?_, ?_, ?_, ?_⟩
    · exact hp ▸ ⟨v.precision.bits_pos, v.precision.bits_le⟩
    · exact hmin ▸ hmax ▸ v.range.min_le_max
    · exact hmin ▸ v.range.min_fits
    · exact hmax ▸ v.range.max_fits
    · exact hm ▸ v.mantissa_pos
  · rintro ⟨width, nonempty, low, high, positive⟩
    exact ⟨⟨⟨c.bits, width.1, width.2⟩, ⟨c.minExp, c.maxExp, nonempty, low, high⟩, c.mantissa,
      positive⟩, validate_eq_ok_iff.mpr ⟨rfl, rfl, rfl, rfl⟩⟩

theorem exists_validate_error_iff {c : Parameters} :
    (∃ cause, c.validate = .error cause) ↔ ¬ c.IsValid := by
  rw [← exists_validate_iff]
  cases c.validate with
  | error cause => simp
  | ok v => simp

end Parameters

end DecimalPowers
