import DecimalPowers.Binary64
import DecimalPowers.Proofs.Precision.Grid
import Mathlib.Algebra.Order.Monoid.WithTop
import Mathlib.Algebra.Order.Field.Rat

/-!
Magnitudes as numbers. A finite magnitude is a rational and the infinite one lies above all of them;
the bits of a magnitude, read by the layout of the format, denote that value.
-/

set_option autoImplicit false
set_option relaxedAutoImplicit false

namespace DecimalPowers.Binary64

def value : Binary64 → WithTop ℚ
  | finite m x => ((m * 2 ^ x : ℚ) : WithTop ℚ)
  | infinite => ⊤

/-- The magnitudes of the format: infinity, the normal ones and those below the least normal. -/
def IsMagnitude : Binary64 → Prop
  | finite m x => m < leastNormal ∧ x = minExponent ∨
      (leastNormal ≤ m ∧ m < 2 * leastNormal) ∧ minExponent ≤ x ∧ x ≤ maxExponent
  | infinite => True

/-- What an exponent field and a fraction of 52 bits denote, if it is a number. -/
def fieldsValue? (exponent fraction : ℕ) : Option (WithTop ℚ) :=
  if exponent = 0 then some ((fraction * 2 ^ (-1074 : ℤ) : ℚ) : WithTop ℚ)
  else if exponent < 2047 then
    some (((2 ^ 52 + fraction) * 2 ^ ((exponent : ℤ) - 1075) : ℚ) : WithTop ℚ)
  else if exponent = 2047 ∧ fraction = 0 then some ⊤
  else none

/-- What 64 bits denote under a sign bit that is not set. -/
def bitsValue? (bits : ℕ) : Option (WithTop ℚ) := fieldsValue? (bits / 2 ^ 52) (bits % 2 ^ 52)

theorem leastNormal_eq : leastNormal = 2 ^ 52 := Nat.pow_eq

private theorem bitsValue?_of_fields {exponent fraction : ℕ} (h : fraction < 2 ^ 52) :
    bitsValue? (exponent * 2 ^ 52 + fraction) = fieldsValue? exponent fraction := by
  rw [bitsValue?, Nat.mul_add_mod_self_right, Nat.mod_eq_of_lt h, mul_comm,
    Nat.mul_add_div (by norm_num), Nat.div_eq_of_lt h, Nat.add_zero]

theorem bitsValue?_toBits {b : Binary64} (h : b.IsMagnitude) :
    bitsValue? b.toBits = some b.value := by
  cases b with
  | infinite =>
    have top : bitsValue? (2047 * 2 ^ 52 + 0) = fieldsValue? 2047 0 :=
      bitsValue?_of_fields (Nat.pow_pos (by decide))
    rw [toBits, leastNormal_eq]
    exact top
  | finite m x =>
    rw [IsMagnitude, leastNormal_eq] at h
    rw [toBits, leastNormal_eq]
    rcases h with ⟨small, rfl⟩ | ⟨⟨lower, upper⟩, least, most⟩
    · rw [if_pos small]
      have subnormal : bitsValue? (0 * 2 ^ 52 + m) = fieldsValue? 0 m := bitsValue?_of_fields small
      rw [zero_mul, zero_add] at subnormal
      exact subnormal
    · unfold minExponent at least ⊢
      unfold maxExponent at most
      have hm : (2 ^ 52 : ℚ) + (m - 2 ^ 52 : ℕ) = m := by
        rw [Nat.cast_sub lower]
        push_cast
        ring
      have hx : ((x - -1074 + 1).toNat : ℤ) - 1075 = x := by omega
      rw [if_neg (by omega), bitsValue?_of_fields (by omega), fieldsValue?, if_neg (by omega),
        if_pos (by omega), hm, hx]
      rfl

end DecimalPowers.Binary64
