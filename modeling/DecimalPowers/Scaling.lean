import DecimalPowers.Precision

/-!
Scaling a ratio into the significand window. A `Scaled` value is a positive ratio times a power of
two. `step?` doubles the numerator while the truncated ratio is below the window and the
denominator while it is above, keeping the value, and `normalize` repeats it until neither applies.
-/

set_option autoImplicit false
set_option relaxedAutoImplicit false

namespace DecimalPowers

structure Ratio where
  numer : Nat
  denom : Nat
  numer_pos : 0 < numer
  denom_pos : 0 < denom
  deriving DecidableEq

namespace Ratio

def ofDecimal (f : Nat) (e : Int) (f_pos : 0 < f) : Ratio where
  numer := f * Nat.pow 10 e.toNat
  denom := Nat.pow 10 (-e).toNat
  numer_pos := Nat.mul_pos f_pos (Nat.pow_pos (by decide))
  denom_pos := Nat.pow_pos (by decide)

def floor (r : Ratio) : Nat := r.numer / r.denom

def double (r : Ratio) : Ratio where
  numer := r.numer * 2
  denom := r.denom
  numer_pos := Nat.mul_pos r.numer_pos (by decide)
  denom_pos := r.denom_pos

def halve (r : Ratio) : Ratio where
  numer := r.numer
  denom := r.denom * 2
  numer_pos := r.numer_pos
  denom_pos := Nat.mul_pos r.denom_pos (by decide)

theorem floor_lt_iff (r : Ratio) (n : Nat) : r.floor < n ↔ r.numer < n * r.denom :=
  Nat.div_lt_iff_lt_mul r.denom_pos

theorem lt_floor_iff (r : Ratio) (n : Nat) : n < r.floor ↔ (n + 1) * r.denom ≤ r.numer :=
  Nat.le_div_iff_mul_le r.denom_pos

end Ratio

/-- The value `ratio * 2 ^ exponent`. -/
structure Scaled where
  ratio : Ratio
  exponent : Int
  deriving DecidableEq

namespace Scaled

/-- Moves the ratio by a factor of two towards the significand window, unless its integer part lies
in the window already. -/
def step? (p : Precision) (s : Scaled) : Option Scaled :=
  if s.ratio.floor < p.minSig then some ⟨s.ratio.double, s.exponent - 1⟩
  else if p.maxSig < s.ratio.floor then some ⟨s.ratio.halve, s.exponent + 1⟩
  else none

/-- How far the ratio is below or above the window; every step makes it less. -/
def distance (p : Precision) (s : Scaled) : Nat :=
  (p.minSig * s.ratio.denom - s.ratio.numer)
    + (s.ratio.numer + 1 - 2 * (p.minSig * s.ratio.denom))

private theorem distance_lt_of_step? {p : Precision} {s t : Scaled} (h : s.step? p = some t) :
    t.distance p < s.distance p := by
  obtain ⟨⟨u, v, hu, hv⟩, k⟩ := s
  have hw : p.minSig * (v * 2) = 2 * (p.minSig * v) := by
    rw [← Nat.mul_assoc, Nat.mul_comm]
  have hm : 0 < p.minSig * v := Nat.mul_pos p.minSig_pos hv
  unfold step? at h
  split at h
  · next below =>
    cases h
    rw [Ratio.floor_lt_iff] at below
    simp only [distance, Ratio.double] at below ⊢
    omega
  · split at h
    · next above =>
      cases h
      rw [Ratio.lt_floor_iff, p.maxSig_add_one, Nat.mul_assoc] at above
      simp only [distance, Ratio.halve] at above ⊢
      rw [hw]
      omega
    · cases h

def normalize (p : Precision) (s : Scaled) : Scaled :=
  match _h : s.step? p with
  | some t => normalize p t
  | none => s
termination_by s.distance p
decreasing_by exact distance_lt_of_step? _h

end Scaled

end DecimalPowers
