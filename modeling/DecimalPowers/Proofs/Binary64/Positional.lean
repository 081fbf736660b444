import DecimalPowers.Proofs.Binary64.Shortest
import Mathlib.Data.List.TakeWhile

/-!
Decimals written without an exponent. The text of a decimal, read digit by digit with its point,
denotes the decimal itself.
-/

set_option autoImplicit false
set_option relaxedAutoImplicit false

namespace DecimalPowers.ShortDecimal

/-- The number that a decimal text writes, with a point or without: the number of its digits over a
power of ten for each digit behind the point. -/
def positionalValue? (s : List Char) : Option ℚ :=
  let whole := s.takeWhile (· ≠ '.')
  let part := (s.dropWhile (· ≠ '.')).tail
  if whole ≠ [] ∧ (whole ++ part).all Char.isDigit then
    some ((Nat.ofDigitChars 10 (whole ++ part) 0 : ℚ) / 10 ^ part.length)
  else none

section Read

variable {whole part : List Char}

private theorem ne_point_of_digits (digits : ∀ c ∈ whole, c.isDigit = true) :
    ∀ c ∈ whole, decide (c ≠ '.') = true := by
  intro c member
  rw [decide_eq_true_eq]
  rintro rfl
  exact absurd (digits '.' member) (by decide)

private theorem positionalValue?_of_digits (nonempty : whole ≠ [])
    (digits : ∀ c ∈ whole, c.isDigit = true) :
    positionalValue? whole = some (Nat.ofDigitChars 10 whole 0 : ℚ) := by
  have plain := ne_point_of_digits digits
  have all := List.takeWhile_eq_self_iff.mpr plain
  have rest := List.dropWhile_eq_nil_iff.mpr plain
  unfold positionalValue?
  simp only [all, rest, List.tail_nil, List.append_nil, List.length_nil, pow_zero, div_one]
  rw [if_pos ⟨nonempty, List.all_eq_true.mpr digits⟩]

private theorem positionalValue?_of_point (nonempty : whole ≠ [])
    (digits : ∀ c ∈ whole ++ part, c.isDigit = true) :
    positionalValue? (whole ++ '.' :: part) =
      some ((Nat.ofDigitChars 10 (whole ++ part) 0 : ℚ) / 10 ^ part.length) := by
  have plain := ne_point_of_digits fun c member => digits c (List.mem_append_left _ member)
  have all : (whole ++ '.' :: part).takeWhile (· ≠ '.') = whole := by
    rw [List.takeWhile_append_of_pos plain, List.takeWhile_cons_of_neg (by decide),
      List.append_nil]
  have rest : (whole ++ '.' :: part).dropWhile (· ≠ '.') = '.' :: part := by
    rw [List.dropWhile_append_of_pos plain, List.dropWhile_cons_of_neg (by decide)]
  unfold positionalValue?
  simp only [all, rest, List.tail_cons]
  rw [if_pos ⟨nonempty, List.all_eq_true.mpr digits⟩]

private theorem positionalValue?_insert_point {ds : List Char} {places : ℕ}
    (long : places < ds.length)
    (digits : ∀ c ∈ ds, c.isDigit = true) :
    positionalValue? (ds.take (ds.length - places) ++ '.' :: ds.drop (ds.length - places)) =
      some ((Nat.ofDigitChars 10 ds 0 : ℚ) / 10 ^ places) := by
  have joined := List.take_append_drop (ds.length - places) ds
  have nonempty : ds.take (ds.length - places) ≠ [] := by
    rw [← List.length_pos_iff, List.length_take]
    omega
  have behind : (ds.drop (ds.length - places)).length = places := by
    rw [List.length_drop]
    omega
  rw [positionalValue?_of_point nonempty (joined.symm ▸ digits), joined, behind]

end Read

section Digits

variable (s : ShortDecimal)

private theorem isDigit_of_mem_digitText : ∀ c ∈ s.digitText, c.isDigit = true :=
  fun _ member => Nat.isDigit_of_mem_toDigits (by decide) (by decide) member

private theorem ofDigitChars_digitText : Nat.ofDigitChars 10 s.digitText 0 = s.digits :=
  Nat.ofDigitChars_toDigits (by decide) (by decide)

private theorem isDigit_of_mem_zeros (n : ℕ) : ∀ c ∈ List.replicate n '0', c.isDigit = true := by
  intro c member
  rw [List.eq_of_mem_replicate member]
  decide

theorem positionalValue?_positional : positionalValue? s.positional.toList = some s.value := by
  unfold positional
  split
  · next integer =>
    have digits : ∀ c ∈ s.digitText ++ List.replicate s.exponent.toNat '0', c.isDigit = true :=
      List.forall_mem_append.mpr ⟨s.isDigit_of_mem_digitText, isDigit_of_mem_zeros _⟩
    have nonempty : s.digitText ++ List.replicate s.exponent.toNat '0' ≠ [] :=
      List.append_ne_nil_of_left_ne_nil Nat.toDigits_ne_nil _
    have power : (10 : ℚ) ^ s.exponent = 10 ^ s.exponent.toNat := by
      rw [← zpow_natCast, Int.toNat_of_nonneg integer]
    rw [String.toList_ofList, positionalValue?_of_digits nonempty digits, Nat.ofDigitChars_append,
      ofDigitChars_digitText, Nat.ofDigitChars_replicate_zero, value, power]
    push_cast
    rw [mul_comm]
  · next fraction =>
    simp only [String.toList_ofList]
    obtain ⟨padded, hpadded⟩ : ∃ padded, List.replicate
        (s.exponent.natAbs + 1 - s.digitText.length) '0' ++ s.digitText = padded := ⟨_, rfl⟩
    have long : s.exponent.natAbs < padded.length := by
      rw [← hpadded, List.length_append, List.length_replicate]
      omega
    have digits : ∀ c ∈ padded, c.isDigit = true := by
      rw [← hpadded]
      exact List.forall_mem_append.mpr ⟨isDigit_of_mem_zeros _, s.isDigit_of_mem_digitText⟩
    have number : Nat.ofDigitChars 10 padded 0 = s.digits := by
      rw [← hpadded, Nat.ofDigitChars_append, Nat.ofDigitChars_replicate_zero, Nat.mul_zero,
        ofDigitChars_digitText]
    have power : (10 : ℚ) ^ s.exponent = (10 ^ s.exponent.natAbs)⁻¹ := by
      rw [← zpow_natCast, ← zpow_neg]
      congr 1
      omega
    rw [hpadded, positionalValue?_insert_point long digits, number, value, power, div_eq_mul_inv]

end Digits

end DecimalPowers.ShortDecimal
