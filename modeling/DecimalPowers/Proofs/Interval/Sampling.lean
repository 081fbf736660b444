import DecimalPowers.Interval
import DecimalPowers.Proofs.BinaryFloat.Order
import DecimalPowers.Proofs.Interval.Uniform
import DecimalPowers.Proofs.Outcome

/-!
Random floats of an interval. The exponents that a draw can take all have a significand left, so a
draw fails only when the words run out, each that is left being passed over; what it returns lies in
the interval, and two words can draw each float of the interval.
-/

set_option autoImplicit false
set_option relaxedAutoImplicit false

namespace DecimalPowers

namespace Interval

structure Contains (i : Interval) (x : BinaryFloat) : Prop where
  precision : x.precision = i.precision
  low_le : (i.low.compare x).isLE = true
  le_high : (x.compare i.high).isLE = true
  lt_high : i.inclusive = false → x.compare i.high = .lt

/-- The words yield the exponent `e`, and the rest come after those that it takes. It takes none
when the bounds have one exponent. -/
def YieldsExponent (i : Interval) (words : List UInt64) (e : ℤ) (rest : List UInt64) : Prop :=
  if i.low.exponent = i.high.exponent then e = i.low.exponent ∧ rest = words
  else Words.Yields i.low.exponent i.lastExponent words e rest

/-- The words run out at the exponent or at the significand: each that is left is passed over. -/
inductive RunsOut (i : Interval) (words : List UInt64) : Prop
  | exponent : i.low.exponent ≠ i.high.exponent →
      Words.PassesOver i.low.exponent i.lastExponent words → RunsOut i words
  | significand {e : ℤ} {rest : List UInt64} : i.YieldsExponent words e rest →
      Words.PassesOver (i.firstSignificand e) (i.lastSignificand e) rest → RunsOut i words

section Ranges

variable {i : Interval} {x : BinaryFloat} {e s : ℤ}

private theorem low_normalized (i : Interval) : i.precision.Normalized i.low.significand :=
  i.low.normalized

private theorem high_normalized (i : Interval) : i.precision.Normalized i.high.significand := by
  rw [precision, i.precision_eq]
  exact i.high.normalized

private theorem low_lt_high_or (i : Interval) :
    i.low.exponent < i.high.exponent ∨ i.low.exponent = i.high.exponent ∧
      (i.low.significand < i.high.significand ∨
        i.low.significand = i.high.significand ∧ i.inclusive = true) := by
  rcases i.nonempty with less | ⟨same, closed⟩
  · rcases BinaryFloat.compare_eq_lt_iff.mp less with below | ⟨same, less⟩
    · exact .inl below
    · exact .inr ⟨same, .inl less⟩
  · have same := BinaryFloat.compare_eq_eq_iff.mp same
    exact .inr ⟨congrArg BinaryFloat.exponent same,
      .inr ⟨congrArg BinaryFloat.significand same, closed⟩⟩

private theorem le_lastExponent_iff : e ≤ i.lastExponent ↔
    e < i.high.exponent ∨
      e = i.high.exponent ∧ (i.inclusive = true ∨ i.precision.minSig < i.high.significand) := by
  have window := i.high_normalized.1
  unfold lastExponent
  cases closed : i.inclusive with
  | true =>
    simp only [Bool.true_eq_false, false_and, if_false, true_or, and_true]
    omega
  | false =>
    simp only [true_and, Bool.false_eq_true, false_or]
    split
    · omega
    · omega

private theorem firstSignificand_le_iff : (i.firstSignificand e : ℤ) ≤ s ↔
    e = i.low.exponent ∧ (i.low.significand : ℤ) ≤ s ∨
      e ≠ i.low.exponent ∧ (i.precision.minSig : ℤ) ≤ s := by
  unfold firstSignificand
  split
  · next bottom => simp [bottom]
  · next inner => simp [inner]

private theorem le_lastSignificand_iff : s ≤ i.lastSignificand e ↔
    e ≠ i.high.exponent ∧ s ≤ i.precision.maxSig ∨
      e = i.high.exponent ∧ (s < i.high.significand ∨
        s = i.high.significand ∧ i.inclusive = true) := by
  unfold lastSignificand
  by_cases top : e = i.high.exponent
  · cases closed : i.inclusive with
    | true =>
      simp only [top, ne_eq, not_true_eq_false, if_false, if_true, false_and, false_or, true_and,
        and_true]
      omega
    | false =>
      simp only [top, ne_eq, not_true_eq_false, if_false, Bool.false_eq_true, false_and, and_false,
        false_or, or_false, true_and]
      omega
  · simp [top]

theorem contains_iff (hp : x.precision = i.precision) : i.Contains x ↔
    (i.low.exponent < x.exponent ∨
      i.low.exponent = x.exponent ∧ i.low.significand ≤ x.significand) ∧
    (x.exponent < i.high.exponent ∨ x.exponent = i.high.exponent ∧
      (x.significand < i.high.significand ∨
        x.significand = i.high.significand ∧ i.inclusive = true)) := by
  constructor
  · rintro ⟨-, low_le, le_high, lt_high⟩
    refine ⟨BinaryFloat.isLE_compare_iff.mp low_le, ?_⟩
    cases closed : i.inclusive with
    | true =>
      have := BinaryFloat.isLE_compare_iff.mp le_high
      grind
    | false =>
      have := BinaryFloat.compare_eq_lt_iff.mp (lt_high closed)
      grind
  · rintro ⟨low_le, high⟩
    refine ⟨hp, BinaryFloat.isLE_compare_iff.mpr low_le, BinaryFloat.isLE_compare_iff.mpr ?_,
      fun opened => BinaryFloat.compare_eq_lt_iff.mpr ?_⟩
    · grind
    · grind

theorem low_exponent_le_lastExponent (i : Interval) : i.low.exponent ≤ i.lastExponent := by
  have := i.low_lt_high_or
  have := i.low_normalized.1
  rw [le_lastExponent_iff]
  grind

theorem firstSignificand_le_lastSignificand (upper : e ≤ i.lastExponent) :
    (i.firstSignificand e : ℤ) ≤ i.lastSignificand e := by
  have := i.low_lt_high_or
  have := i.low_normalized.2
  have := i.high_normalized.1
  have := i.precision.minSig_le_maxSig
  rw [le_lastExponent_iff] at upper
  rw [le_lastSignificand_iff, firstSignificand]
  grind

theorem contains_iff_ranges (hp : x.precision = i.precision) : i.Contains x ↔
    (i.low.exponent ≤ x.exponent ∧ x.exponent ≤ i.lastExponent) ∧
      (i.firstSignificand x.exponent : ℤ) ≤ x.significand ∧
      (x.significand : ℤ) ≤ i.lastSignificand x.exponent := by
  have window : i.precision.Normalized x.significand := hp ▸ x.normalized
  have lower := window.1
  have upper := window.2
  rw [contains_iff hp, le_lastExponent_iff, firstSignificand_le_iff, le_lastSignificand_iff]
  grind

theorem exists_float_of_ranges (lower : i.low.exponent ≤ e) (upper : e ≤ i.lastExponent)
    (first : (i.firstSignificand e : ℤ) ≤ s) (last : s ≤ i.lastSignificand e) :
    ∃ x, BinaryFloat.ofParts i.precision s.toNat e = .ok x ∧ i.Contains x := by
  have low := i.low_normalized.1
  have high := i.high_normalized.2
  have range : ExponentInRange e := by
    have := i.low.exponent_mem.1
    have := i.high.exponent_mem.2
    have := le_lastExponent_iff.mp upper
    exact ⟨by omega, by omega⟩
  have window : i.precision.Normalized s.toNat := by
    have := firstSignificand_le_iff.mp first
    have := le_lastSignificand_iff.mp last
    exact ⟨by omega, by omega⟩
  obtain ⟨x, hx⟩ := BinaryFloat.exists_ofParts window range
  obtain ⟨hp, hs, rfl⟩ := BinaryFloat.ofParts_eq_ok_iff.mp hx
  have cast : (x.significand : ℤ) = s := by
    have := firstSignificand_le_iff.mp first
    omega
  exact ⟨x, hx, (contains_iff_ranges hp).mpr ⟨⟨lower, upper⟩, cast ▸ first, cast ▸ last⟩⟩

end Ranges

section Draw

variable {i : Interval} {x : BinaryFloat} {e s : ℤ} {words rest : List UInt64} {fault : Fault}

theorem lastExponent_eq_of_exponent_eq (h : i.low.exponent = i.high.exponent) :
    i.lastExponent = i.low.exponent := by
  apply le_antisymm _ i.low_exponent_le_lastExponent
  have := le_lastExponent_iff.mp (le_refl i.lastExponent)
  omega

private theorem drawExponent_eq_ok_iff :
    i.drawExponent words = .ok (e, rest) ↔ i.YieldsExponent words e rest := by
  unfold drawExponent YieldsExponent
  split
  · simp only [Except.ok.injEq, Prod.mk.injEq, eq_comm]
  · rw [mapError_eq_ok_iff, Words.uniform_eq_ok_iff]
    exact and_iff_right i.low_exponent_le_lastExponent

private theorem drawExponent_eq_error_iff : i.drawExponent words = .error fault ↔
    fault = .words .exhausted ∧ i.low.exponent ≠ i.high.exponent ∧
      Words.PassesOver i.low.exponent i.lastExponent words := by
  have ordered := not_lt.mpr i.low_exponent_le_lastExponent
  unfold drawExponent
  split
  · next same => simp [same]
  · next differ =>
    simp only [mapError_eq_error_iff, Words.uniform_eq_error_iff, ordered, false_and, false_or,
      i.low_exponent_le_lastExponent, true_and]
    constructor
    · rintro ⟨cause, ⟨passed, rfl⟩, rfl⟩
      exact ⟨rfl, differ, passed⟩
    · rintro ⟨rfl, -, passed⟩
      exact ⟨_, ⟨passed, rfl⟩, rfl⟩

theorem drawExponent_mem (h : i.drawExponent words = .ok (e, rest)) :
    i.low.exponent ≤ e ∧ e ≤ i.lastExponent := by
  unfold drawExponent at h
  split at h
  · next same =>
    cases h
    exact ⟨le_rfl, i.low_exponent_le_lastExponent⟩
  · exact Words.uniform_mem (mapError_eq_ok_iff.mp h)

theorem drawSignificand_mem (h : i.drawSignificand e words = .ok (s, rest)) :
    (i.firstSignificand e : ℤ) ≤ s ∧ s ≤ i.lastSignificand e :=
  Words.uniform_mem (mapError_eq_ok_iff.mp h)

private theorem drawSignificand_eq_ok_iff (upper : e ≤ i.lastExponent) :
    i.drawSignificand e words = .ok (s, rest) ↔
      Words.Yields (i.firstSignificand e) (i.lastSignificand e) words s rest := by
  unfold drawSignificand
  rw [mapError_eq_ok_iff, Words.uniform_eq_ok_iff]
  exact and_iff_right (firstSignificand_le_lastSignificand upper)

private theorem drawSignificand_eq_error_iff (upper : e ≤ i.lastExponent) :
    i.drawSignificand e words = .error fault ↔ fault = .words .exhausted ∧
      Words.PassesOver (i.firstSignificand e) (i.lastSignificand e) words := by
  have inside := firstSignificand_le_lastSignificand upper
  simp only [drawSignificand, mapError_eq_error_iff, Words.uniform_eq_error_iff, not_lt.mpr inside,
    false_and, false_or, inside, true_and]
  constructor
  · rintro ⟨cause, ⟨passed, rfl⟩, rfl⟩
    exact ⟨rfl, passed⟩
  · rintro ⟨rfl, passed⟩
    exact ⟨_, ⟨passed, rfl⟩, rfl⟩

theorem draw_eq (i : Interval) (words : List UInt64) : i.draw words =
    (i.drawExponent words).bind fun a => (i.drawSignificand a.1 a.2).bind fun b =>
      ((BinaryFloat.ofParts i.precision b.1.toNat a.1).mapError Fault.float).bind fun z =>
        .ok (z, b.2) := rfl

theorem draw_contains (h : i.draw words = .ok (x, rest)) : i.Contains x := by
  rw [draw_eq] at h
  obtain ⟨⟨e, afterExponent⟩, he, h⟩ := bind_eq_ok_iff.mp h
  obtain ⟨⟨s, afterSignificand⟩, hs, h⟩ := bind_eq_ok_iff.mp h
  obtain ⟨z, hz, h⟩ := bind_eq_ok_iff.mp h
  cases h
  obtain ⟨lower, upper⟩ := drawExponent_mem he
  obtain ⟨first, last⟩ := drawSignificand_mem hs
  obtain ⟨y, hy, inside⟩ := exists_float_of_ranges lower upper first last
  have same : .ok y = Except.ok x := hy.symm.trans (mapError_eq_ok_iff.mp hz)
  cases same
  exact inside

theorem draw_of_float {tail : List UInt64} (hp : x.precision = i.precision)
    (he : i.drawExponent words = .ok (x.exponent, tail))
    (hs : i.drawSignificand x.exponent tail = .ok ((x.significand : ℤ), rest)) :
    i.draw words = .ok (x, rest) := by
  have hx : BinaryFloat.ofParts i.precision x.significand x.exponent = .ok x :=
    BinaryFloat.ofParts_eq_ok_iff.mpr ⟨hp, rfl, rfl⟩
  rw [draw_eq, he]
  change (i.drawSignificand x.exponent tail).bind _ = _
  rw [hs]
  change ((BinaryFloat.ofParts i.precision (x.significand : ℤ).toNat x.exponent).mapError _).bind
    _ = _
  rw [Int.toNat_natCast, hx]
  rfl

private theorem exists_draw_of_yields {tail : List UInt64}
    (exponent : i.YieldsExponent words e tail)
    (significand : Words.Yields (i.firstSignificand e) (i.lastSignificand e) tail s rest) :
    ∃ x, i.draw words = .ok (x, rest) ∧ x.exponent = e ∧ (x.significand : ℤ) = s := by
  have he := drawExponent_eq_ok_iff.mpr exponent
  obtain ⟨lower, upper⟩ := drawExponent_mem he
  have hs := (drawSignificand_eq_ok_iff upper).mpr significand
  obtain ⟨first, last⟩ := drawSignificand_mem hs
  obtain ⟨x, hx, inside⟩ := exists_float_of_ranges lower upper first last
  obtain ⟨-, sig, rfl⟩ := BinaryFloat.ofParts_eq_ok_iff.mp hx
  obtain rfl : (x.significand : ℤ) = s := by omega
  exact ⟨x, draw_of_float inside.precision he hs, rfl, rfl⟩

/-- A draw fails exactly when the words run out. -/
theorem draw_eq_error_iff :
    i.draw words = .error fault ↔ fault = .words .exhausted ∧ i.RunsOut words := by
  rw [draw_eq, bind_eq_error_iff]
  constructor
  · rintro (failed | ⟨⟨e, tail⟩, he, failed⟩)
    · obtain ⟨rfl, differ, passed⟩ := drawExponent_eq_error_iff.mp failed
      exact ⟨rfl, .exponent differ passed⟩
    obtain ⟨lower, upper⟩ := drawExponent_mem he
    rcases bind_eq_error_iff.mp failed with failed | ⟨⟨s, rest⟩, hs, failed⟩
    · obtain ⟨rfl, passed⟩ := (drawSignificand_eq_error_iff upper).mp failed
      exact ⟨rfl, .significand (drawExponent_eq_ok_iff.mp he) passed⟩
    -- the parts that have been drawn are those of a float, so nothing fails after them
    obtain ⟨first, last⟩ := drawSignificand_mem hs
    obtain ⟨x, hx, -⟩ := exists_float_of_ranges lower upper first last
    rw [hx] at failed
    cases failed
  · rintro ⟨rfl, ⟨differ, passed⟩ | ⟨exponent, passed⟩⟩
    · exact .inl (drawExponent_eq_error_iff.mpr ⟨rfl, differ, passed⟩)
    · have he := drawExponent_eq_ok_iff.mpr exponent
      refine .inr ⟨_, he, bind_eq_error_iff.mpr (.inl ?_)⟩
      exact (drawSignificand_eq_error_iff (drawExponent_mem he).2).mpr ⟨rfl, passed⟩

theorem lastExponent_sub_low_lt_count (i : Interval) :
    i.lastExponent - i.low.exponent < Words.count := by
  have low := i.low.exponent_mem.1
  have high := i.high.exponent_mem.2
  have last := le_lastExponent_iff.mp (le_refl i.lastExponent)
  have words : (Words.count : ℤ) = 2 ^ 64 := by decide
  unfold minExponent at low
  unfold maxExponent at high
  omega

theorem lastSignificand_sub_first_lt_count (i : Interval) (e : ℤ) :
    i.lastSignificand e - i.firstSignificand e < Words.count := by
  have widest := i.precision.maxSig_lt
  have high := i.high.significand_lt
  have last := le_lastSignificand_iff.mp (le_refl (i.lastSignificand e))
  unfold Words.count
  omega

private theorem exists_drawExponent (lower : i.low.exponent ≤ e) (upper : e ≤ i.lastExponent)
    (rest : List UInt64) :
    ∃ front, front.length ≤ 1 ∧ i.drawExponent (front ++ rest) = .ok (e, rest) := by
  by_cases same : i.low.exponent = i.high.exponent
  · have only : i.low.exponent = e := by
      have := lastExponent_eq_of_exponent_eq same
      omega
    exact ⟨[], by simp, by rw [drawExponent, if_pos same, only, List.nil_append]⟩
  · have span := i.lastExponent_sub_low_lt_count
    obtain ⟨word, drawn⟩ := Words.exists_uniform span lower upper rest
    exact ⟨[word], by simp, by rw [drawExponent, if_neg same, List.singleton_append, drawn]; rfl⟩

private theorem exists_drawSignificand (first : (i.firstSignificand e : ℤ) ≤ s)
    (last : s ≤ i.lastSignificand e) (rest : List UInt64) :
    ∃ word, i.drawSignificand e (word :: rest) = .ok (s, rest) := by
  have span := i.lastSignificand_sub_first_lt_count e
  obtain ⟨word, drawn⟩ := Words.exists_uniform span first last rest
  exact ⟨word, by rw [drawSignificand, drawn]; rfl⟩

private theorem exists_draw (h : i.Contains x) :
    ∃ words, words.length ≤ 2 ∧ i.draw words = .ok (x, []) := by
  obtain ⟨⟨lower, upper⟩, first, last⟩ := (contains_iff_ranges h.precision).mp h
  obtain ⟨word, hs⟩ := exists_drawSignificand first last []
  obtain ⟨front, short, he⟩ := exists_drawExponent lower upper [word]
  refine ⟨front ++ [word], ?_, draw_of_float h.precision he hs⟩
  simp only [List.length_append, List.length_singleton]
  omega

private theorem YieldsExponent.suffix (h : i.YieldsExponent words e rest) : rest <:+ words := by
  unfold YieldsExponent at h
  split at h
  · rw [h.2]
  · exact h.suffix

private theorem suffix_of_draw (h : i.draw words = .ok (x, rest)) : rest <:+ words := by
  rw [draw_eq] at h
  obtain ⟨⟨e, tail⟩, he, h⟩ := bind_eq_ok_iff.mp h
  obtain ⟨⟨s, left⟩, hs, h⟩ := bind_eq_ok_iff.mp h
  obtain ⟨z, -, h⟩ := bind_eq_ok_iff.mp h
  cases h
  have exponent := drawExponent_eq_ok_iff.mp he
  have significand := (drawSignificand_eq_ok_iff (drawExponent_mem he).2).mp hs
  exact significand.suffix.trans exponent.suffix

/-- The floats of a run are draws, each from words that the ones before it have left. -/
theorem exists_draw_of_mem_draws {n : ℕ} {drawn : BinaryFloat × List UInt64}
    (h : drawn ∈ (i.draws n words).1) : ∃ left, left <:+ words ∧ i.draw left = .ok drawn := by
  induction n generalizing words with
  | zero => simp [draws] at h
  | succ n ih =>
    unfold draws at h
    cases first : i.draw words with
    | error fault => simp [first] at h
    | ok result =>
      rw [first] at h
      rcases List.mem_cons.mp h with rfl | later
      · exact ⟨words, List.suffix_rfl, first⟩
      · obtain ⟨left, after, drawn⟩ := ih later
        exact ⟨left, after.trans (suffix_of_draw first), drawn⟩

/-- A run draws as many floats as were asked for, or it stops where the words that the floats have
left run out. -/
theorem draws_complete_or_runsOut (i : Interval) (n : ℕ) (words : List UInt64) :
    (i.draws n words).2 = none ∧ (i.draws n words).1.length = n ∨
      (i.draws n words).2 = some (.words .exhausted) ∧ (i.draws n words).1.length < n ∧
        i.RunsOut (((i.draws n words).1.map Prod.snd).getLastD words) := by
  induction n generalizing words with
  | zero => exact .inl ⟨rfl, rfl⟩
  | succ n ih =>
    unfold draws
    cases drawn : i.draw words with
    | error fault =>
      obtain ⟨rfl, out⟩ := draw_eq_error_iff.mp drawn
      exact .inr ⟨rfl, Nat.succ_pos n, out⟩
    | ok result =>
      simp only [List.length_cons, List.map_cons, List.getLastD_cons, Nat.add_right_cancel_iff,
        Nat.add_lt_add_iff_right]
      exact ih result.2

end Draw

theorem ofBounds_eq_ok_iff {low high : BinaryFloat} {inclusive : Bool} {i : Interval} :
    ofBounds low high inclusive = .ok i ↔
      i.low = low ∧ i.high = high ∧ i.inclusive = inclusive := by
  constructor
  · intro h
    unfold ofBounds at h
    split at h
    · split at h
      · cases h
        exact ⟨rfl, rfl, rfl⟩
      · cases h
    · cases h
  · rintro ⟨rfl, rfl, rfl⟩
    rw [ofBounds, dif_pos i.precision_eq, dif_pos i.nonempty]

private theorem exists_ofBounds_error_iff {low high : BinaryFloat} {inclusive : Bool} :
    (∃ fault, ofBounds low high inclusive = .error fault) ↔
      low.precision ≠ high.precision ∨ low.compare high = .gt ∨
        low = high ∧ inclusive = false := by
  unfold ofBounds
  by_cases hp : low.precision = high.precision
  · rw [dif_pos hp, ← BinaryFloat.compare_eq_eq_iff]
    by_cases ordered : low.compare high = .lt ∨ low.compare high = .eq ∧ inclusive = true
    · rw [dif_pos ordered]
      simp only [reduceCtorEq, exists_false, false_iff]
      rintro (differ | greater | ⟨same, opened⟩)
      · exact differ hp
      · simp [greater] at ordered
      · simp [same, opened] at ordered
    · rw [dif_neg ordered]
      refine iff_of_true ⟨_, rfl⟩ (.inr ?_)
      cases order : low.compare high with
      | lt => exact absurd (.inl order) ordered
      | eq => simpa [order] using ordered
      | gt => exact .inl rfl
  · rw [dif_neg hp]
    simp [hp]

/-- There is an interval between two floats of one precision unless they are in the wrong order, or
equal with the upper one excluded. Whatever the words, the floats drawn from it, one by one or in a
run, are normalized and lie in it, and no range that is drawn from is empty. A draw fails exactly
when the words run out: all that are left, for the exponent or for the significand, are passed over.
Words that yield both draw the float of both, and two words can draw each float of the interval. -/
theorem sampling_exact (low high : BinaryFloat) (inclusive : Bool) :
    ((∃ fault, ofBounds low high inclusive = .error fault) ↔
      low.precision ≠ high.precision ∨ low.compare high = .gt ∨
        low = high ∧ inclusive = false) ∧
    ∀ i, ofBounds low high inclusive = .ok i →
      (∀ (words : List UInt64) (x : BinaryFloat) (rest : List UInt64),
        i.draw words = .ok (x, rest) →
          x.precision = low.precision ∧ low.precision.Normalized x.significand ∧
          (low.compare x).isLE = true ∧ (x.compare high).isLE = true ∧
          (inclusive = false → x.compare high = .lt)) ∧
      (∀ (n : ℕ) (words : List UInt64), ∀ drawn ∈ (i.draws n words).1,
        ∃ left, left <:+ words ∧ i.draw left = .ok drawn) ∧
      i.low.exponent ≤ i.lastExponent ∧
      (∀ (words : List UInt64) (e : ℤ) (rest : List UInt64),
        i.drawExponent words = .ok (e, rest) →
          (i.firstSignificand e : ℤ) ≤ i.lastSignificand e) ∧
      (∀ (words : List UInt64) (fault : Fault),
        i.draw words = .error fault ↔ fault = .words .exhausted ∧ i.RunsOut words) ∧
      (∀ (n : ℕ) (words : List UInt64),
        (i.draws n words).2 = none ∧ (i.draws n words).1.length = n ∨
          (i.draws n words).2 = some (.words .exhausted) ∧ (i.draws n words).1.length < n ∧
            i.RunsOut (((i.draws n words).1.map Prod.snd).getLastD words)) ∧
      (∀ (words tail rest : List UInt64) (e s : ℤ), i.YieldsExponent words e tail →
        Words.Yields (i.firstSignificand e) (i.lastSignificand e) tail s rest →
          ∃ x, i.draw words = .ok (x, rest) ∧ x.exponent = e ∧ (x.significand : ℤ) = s) ∧
      ∀ x : BinaryFloat, x.precision = low.precision → (low.compare x).isLE = true →
        (x.compare high).isLE = true → (inclusive = false → x.compare high = .lt) →
          ∃ words : List UInt64, words.length ≤ 2 ∧ i.draw words = .ok (x, []) := by
  refine ⟨exists_ofBounds_error_iff, fun i made => ?_⟩
  obtain ⟨rfl, rfl, rfl⟩ := ofBounds_eq_ok_iff.mp made
  refine ⟨fun words x rest drawn => ?_, fun n words drawn => exists_draw_of_mem_draws,
    i.low_exponent_le_lastExponent,
    fun words e rest drawn => firstSignificand_le_lastSignificand (drawExponent_mem drawn).2,
    fun words fault => draw_eq_error_iff, i.draws_complete_or_runsOut,
    fun words tail rest e s => exists_draw_of_yields, fun x hp above below strict => ?_⟩
  · obtain ⟨hp, above, below, strict⟩ := draw_contains drawn
    change x.precision = i.low.precision at hp
    exact ⟨hp, hp ▸ x.normalized, above, below, strict⟩
  · exact exists_draw ⟨hp, above, below, strict⟩

/-- Over all exponents but the last at once: the floats of 1 bit are the powers of two, and the word
1 is passed over by the exponent however often it comes. -/
theorem sampling_exact_over_all_exponents :
    ∃ low high i x, low.exponent = minExponent ∧ high.exponent = maxExponent ∧
      ofBounds low high false = .ok i ∧ x.significand = 1 ∧ x.exponent = 0 ∧
      (∃ words : List UInt64, words.length ≤ 2 ∧ i.draw words = .ok (x, [])) ∧
      (∀ n, i.draw (List.replicate n 1) = .error (.words .exhausted)) ∧
      ∃ fault, ofBounds high low true = .error fault := by
  let at_exponent (e : ℤ) (h : ExponentInRange e) : BinaryFloat :=
    ⟨⟨1, by decide, by decide⟩, 1, e, by decide, h⟩
  let low := at_exponent minExponent (by decide)
  let high := at_exponent maxExponent (by decide)
  let x := at_exponent 0 (by decide)
  obtain ⟨-, ordered⟩ := sampling_exact low high false
  obtain ⟨reversed, -⟩ := sampling_exact high low true
  obtain ⟨-, -, -, -, fails, -, -, drawn⟩ :=
    ordered ⟨low, high, false, rfl, .inl (by decide)⟩ rfl
  refine ⟨low, high, _, x, rfl, rfl, rfl, rfl, rfl,
    drawn x rfl (by decide) (by decide) (fun _ => by decide), fun n => ?_,
    reversed.mpr (.inr (.inl (by decide)))⟩
  refine (fails _ _).mpr ⟨rfl, .exponent (by decide) fun word repeated => ?_⟩
  rw [List.eq_of_mem_replicate repeated]
  decide

end Interval

end DecimalPowers
