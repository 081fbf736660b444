import DecimalPowers.Proofs.Table.Contents

/-!
How the binary exponents grow. A rounded exponent passes `k` at one bound that doubles with every
`k`, so a value multiplied by ten, which lies between eight and sixteen times the old one, has an
exponent greater by three or four. The column of exponents of a table grows by these steps.
-/

set_option autoImplicit false
set_option relaxedAutoImplicit false

namespace DecimalPowers

private theorem BinaryFloat.RoundsTo.exponent_le_add {z w : BinaryFloat} {V W : ℚ} {n : ℤ}
    (hz : z.RoundsTo V) (hw : w.RoundsTo W) (hp : z.precision = w.precision)
    (h : W ≤ V * 2 ^ n) : w.exponent ≤ z.exponent + n := by
  have below : V < (z.precision.maxSig + 1 / 2) * 2 ^ z.exponent :=
    (hz.exponent_le_iff z.exponent).mp le_rfl
  rw [hw.exponent_le_iff, ← hp, zpow_add₀ two_ne_zero, ← mul_assoc]
  exact h.trans_lt (mul_lt_mul_of_pos_right below (two_zpow_pos n))

def ThreeOrFourApart (a b : ℤ) : Prop := b - a = 3 ∨ b - a = 4

section Approximate

variable {f e : ℤ} {p : Precision}

private theorem threeOrFourApart_of_approximate {z w : BinaryFloat} (hf : Admissible f e)
    (hf' : Admissible f (e + 1)) (hz : (approximate f e p).outcome = .ok z)
    (hw : (approximate f (e + 1) p).outcome = .ok w) :
    ThreeOrFourApart z.exponent w.exponent := by
  obtain ⟨hzp, hzr⟩ := approximate_roundsTo hf hz
  obtain ⟨hwp, hwr⟩ := approximate_roundsTo hf' hw
  have hp : z.precision = w.precision := hzp.trans hwp.symm
  have positive := decimalValue_pos hf.pos e
  rw [decimalValue_add_one] at hwr
  have most : w.exponent ≤ z.exponent + 4 := by
    apply hzr.exponent_le_add hwr hp
    norm_num
    linarith
  have least : z.exponent ≤ w.exponent + (-3) := by
    apply hwr.exponent_le_add hzr hp.symm
    norm_num
    linarith
  unfold ThreeOrFourApart
  omega

end Approximate

namespace Table

section Column

variable {f : ℕ} {p : Precision}

private theorem exists_approximate_of_entryFor {e : ℤ} {entry : Entry}
    (made : (entryFor f p e).outcome = .ok entry) :
    ∃ z, (approximate f e p).outcome = .ok z ∧ z.exponent = entry.exponent := by
  obtain ⟨z, error, hz, -, stored⟩ := entryFor_eq_ok_iff.mp made
  exact ⟨z, hz, (BinaryFloat.ofParts_eq_ok_iff.mp stored).2.2⟩

private theorem isChain_exponents {es : List ℤ} {entries : List Entry}
    (run : List.Forall₂ (fun e entry => (entryFor f p e).outcome = .ok entry) es entries)
    (consecutive : es.IsChain fun a b => b = a + 1) (admissible : ∀ e ∈ es, Admissible f e) :
    (entries.map Entry.exponent).IsChain ThreeOrFourApart := by
  induction run with
  | nil => exact .nil
  | cons first rest ih =>
    cases rest with
    | nil => exact .singleton _
    | cons second rest =>
      obtain ⟨rfl, consecutive⟩ := List.isChain_cons_cons.mp consecutive
      rw [List.forall_mem_cons] at admissible
      obtain ⟨z, hz, hzx⟩ := exists_approximate_of_entryFor first
      obtain ⟨w, hw, hwx⟩ := exists_approximate_of_entryFor second
      have step := threeOrFourApart_of_approximate admissible.1
        (admissible.2 _ List.mem_cons_self) hz hw
      rw [hzx, hwx] at step
      exact .cons_cons step (ih consecutive admissible.2)

end Column

/-- A factor of ten raises the binary exponent by three or four, at every precision; so the
exponents of a generated table are strictly ascending, in steps of three or four. -/
theorem generate_exponents_grow :
    (∀ f e : ℤ, Admissible f e → FitsInt32 (e + 1) → ∀ p : Precision, ∃ z w,
      (approximate f e p).outcome = .ok z ∧ (approximate f (e + 1) p).outcome = .ok w ∧
        (w.exponent - z.exponent = 3 ∨ w.exponent - z.exponent = 4)) ∧
    ∀ (c : Parameters) (t : Table), c.mantissa < UInt64.size → (generate c).outcome = .ok t →
      t.exponents.Pairwise (· < ·) ∧
        t.exponents.IsChain fun a b => b - a = 3 ∨ b - a = 4 := by
  constructor
  · intro f e h fits p
    have h' : Admissible f (e + 1) := ⟨h.pos, h.lt, fits⟩
    obtain ⟨z, hz, -⟩ := exists_approximate h p
    obtain ⟨w, hw, -⟩ := exists_approximate h' p
    exact ⟨z, w, hz, hw, threeOrFourApart_of_approximate h h' hz hw⟩
  · intro c t hm made
    obtain ⟨⟨-, -, -, mantissa, positive⟩, complete⟩ := generate_eq_ok_iff.mp made
    rw [← mantissa] at hm positive
    let v : Parameters.Valid := ⟨t.precision, t.range, t.mantissa, positive⟩
    have admissible : ∀ e ∈ t.range.toList, Admissible t.mantissa e := by
      intro e member
      obtain ⟨lower, upper⟩ := ExponentRange.mem_toList_iff.mp member
      exact admissible_of_mem (v := v) hm lower upper
    have steps : t.exponents.IsChain ThreeOrFourApart :=
      isChain_exponents complete t.range.isChain_toList admissible
    refine ⟨?_, steps⟩
    apply List.isChain_iff_pairwise.mp
    apply steps.imp
    intro a b step
    unfold ThreeOrFourApart at step
    omega

theorem generate_exponents_grow_reference :
    (Admissible 5 0 ∧ ∃ z w : BinaryFloat,
      (approximate 5 0 ⟨1, by decide, by decide⟩).outcome = .ok z ∧
        (approximate 5 1 ⟨1, by decide, by decide⟩).outcome = .ok w ∧
        w.exponent - z.exponent = 4) ∧
    ∃ t, (generate {}).outcome = .ok t ∧ t.exponents.Pairwise (· < ·) := by
  obtain ⟨apart, column⟩ := generate_exponents_grow
  have five : Admissible 5 0 := .of_word (m := 5) (by decide) (by decide) (by decide)
  have fifty : Admissible 5 1 := .of_word (m := 5) (by decide) (by decide) (by decide)
  obtain ⟨z, w, hz, hw, difference⟩ := apart 5 0 five (by decide) ⟨1, by decide, by decide⟩
  obtain ⟨hzp, hzr⟩ := approximate_roundsTo five hz
  obtain ⟨hwp, hwr⟩ := approximate_roundsTo fifty hw
  have down : z.exponent ≤ 2 := by
    rw [hzr.exponent_le_iff, hzp]
    norm_num [decimalValue, Precision.maxSig]
  have up : ¬ w.exponent ≤ 5 := by
    rw [hwr.exponent_le_iff, hwp]
    norm_num [decimalValue, Precision.maxSig]
  obtain ⟨t, made⟩ : ∃ t, (generate {}).outcome = .ok t :=
    (exists_generate_full_iff (by decide) (by decide) (by decide)).mpr (by decide)
  refine ⟨⟨five, z, w, hz, hw, by omega⟩, t, made, (column {} t (by decide) made).1⟩

end Table

end DecimalPowers
