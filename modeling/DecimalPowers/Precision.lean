/-!
Significand widths. A `Precision` is a width between 1 and 64 bits; the significands it admits are
the integers of exactly that many bits, the window from `minSig` to `maxSig`.

Powers are written with `Nat.pow` throughout, so that a definition is the same term whichever
instances for `^` are in scope.
-/

set_option autoImplicit false
set_option relaxedAutoImplicit false

namespace DecimalPowers

structure Precision where
  bits : Nat
  bits_pos : 1 ≤ bits
  bits_le : bits ≤ 64
  deriving DecidableEq

namespace Precision

def ofBits? (bits : Nat) : Option Precision :=
  if h : 1 ≤ bits ∧ bits ≤ 64 then some ⟨bits, h.1, h.2⟩ else none

def full : Precision := ⟨64, by decide, by decide⟩

def minSig (p : Precision) : Nat := Nat.pow 2 (p.bits - 1)

def maxSig (p : Precision) : Nat := Nat.pow 2 p.bits - 1

/-- A significand is normalized when it has exactly the width of the precision. -/
abbrev Normalized (p : Precision) (sig : Nat) : Prop :=
  p.minSig ≤ sig ∧ sig ≤ p.maxSig

def isFull (p : Precision) : Bool := p.bits == 64

theorem minSig_pos (p : Precision) : 0 < p.minSig := Nat.two_pow_pos _

theorem maxSig_add_one (p : Precision) : p.maxSig + 1 = 2 * p.minSig := by
  have h : p.bits = (p.bits - 1) + 1 := by have := p.bits_pos; omega
  have hp : 0 < 2 ^ p.bits := Nat.two_pow_pos _
  have : 2 ^ p.bits = 2 * 2 ^ (p.bits - 1) := by
    rw [h, Nat.pow_succ, Nat.add_sub_cancel, Nat.mul_comm]
  simp only [maxSig, minSig, Nat.pow_eq]
  omega

theorem minSig_le_maxSig (p : Precision) : p.minSig ≤ p.maxSig := by
  have := p.maxSig_add_one
  have := p.minSig_pos
  omega

theorem maxSig_lt (p : Precision) : p.maxSig < UInt64.size := by
  have : 2 ^ p.bits ≤ UInt64.size := Nat.pow_le_pow_right (by decide) p.bits_le
  have : 0 < 2 ^ p.bits := Nat.two_pow_pos _
  simp only [maxSig, Nat.pow_eq]
  omega

theorem eq_of_bits {p q : Precision} (h : p.bits = q.bits) : p = q := by
  cases p
  cases q
  cases h
  rfl

theorem bits_of_ofBits? {bits : Nat} {p : Precision} (h : ofBits? bits = some p) :
    p.bits = bits := by
  unfold ofBits? at h
  split at h
  · cases h; rfl
  · cases h

end Precision

end DecimalPowers
