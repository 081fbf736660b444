import DecimalPowers.Proofs.Interval.Sampling
import Mathlib.Data.Int.Interval
import Mathlib.Data.Set.Card.Arithmetic
import Mathlib.Order.Interval.Finset.Nat

/-!
How many words stand for each result. The words that stand for one integer follow each other, and
there are as many of them for every integer between the bounds; fewer words than results are passed
over, so more than half of all words are accepted. Both stages of a draw are therefore uniform.
-/

set_option autoImplicit false
set_option relaxedAutoImplicit false

namespace DecimalPowers

namespace Words

private theorem ncard_between {first n : ℕ} (fits : first + n ≤ count) :
    {word : UInt64 | first ≤ word.toNat ∧ word.toNat < first + n}.ncard = n := by
  have numbers : UInt64.toNat '' {word | first ≤ word.toNat ∧ word.toNat < first + n} =
      (Finset.Ico first (first + n) : Set ℕ) := by
    ext m
    simp only [Set.mem_image, Set.mem_ofPred_eq, Finset.coe_Ico, Set.mem_Ico]
    constructor
    · rintro ⟨word, between, rfl⟩
      exact between
    · intro between
      obtain ⟨word, rfl⟩ := exists_word (between.2.trans_le fits)
      exact ⟨word, between, rfl⟩
  rw [← Set.ncard_image_of_injective _ (fun _ _ => UInt64.toNat_inj.mp), numbers,
    Set.ncard_coe_finset, Nat.card_Ico, Nat.add_sub_cancel_left]

section Offset

variable {size i : ℕ}

private theorem le_zone_iff (pos : 0 < size) (hs : size ≤ count) {rest : ℕ} :
    rest ≤ zone size ↔ rest < count / size * size := by
  have rounds := Nat.div_add_mod' count size
  have uneven : count % size = (count - size) % size := Nat.mod_eq_sub_mod hs
  have := Nat.mod_lt (count - size) pos
  unfold zone
  omega

private theorem exists_offset?_eq_some_iff (h : i < size) (hs : size ≤ count) :
    ∃ first, first + count / size ≤ count ∧ ∀ word, offset? size word = some i ↔
      first ≤ word.toNat ∧ word.toNat < first + count / size := by
  have pos : 0 < size := by omega
  have rounds : count / size * size ≤ count := Nat.div_mul_le_self count size
  have last : (i + 1) * count ≤ count * size := by
    rw [Nat.mul_comm count]
    exact Nat.mul_le_mul_right count h
  obtain ⟨first, rest, reaches, less⟩ := exists_mul_eq_add pos (i * count)
  refine ⟨first, ?_, fun word => ?_⟩
  · by_contra beyond
    have : (count + 1) * size ≤ (first + count / size) * size :=
      Nat.mul_le_mul_right size (by omega)
    rw [Nat.succ_mul, Nat.add_mul] at this
    rw [Nat.succ_mul] at last
    omega
  · rw [offset?_eq_some_iff, le_zone_iff pos hs]
    have split := Nat.div_add_mod' (word.toNat * size) count
    constructor
    · rintro ⟨accepted, rfl⟩
      constructor
      · by_contra before
        have : (word.toNat + 1) * size ≤ first * size := Nat.mul_le_mul_right size (by omega)
        rw [Nat.succ_mul] at this
        omega
      · apply Nat.lt_of_mul_lt_mul_right (a := size)
        rw [Nat.add_mul]
        omega
    · rintro ⟨lower, upper⟩
      have above : first * size ≤ word.toNat * size := Nat.mul_le_mul_right size lower
      have below : (word.toNat + 1) * size ≤ (first + count / size) * size :=
        Nat.mul_le_mul_right size upper
      rw [Nat.succ_mul, Nat.add_mul] at below
      have quotient : word.toNat * size / count = i := by
        apply Nat.div_eq_of_lt_le
        · omega
        · rw [Nat.succ_mul]
          omega
      rw [quotient] at split
      exact ⟨by omega, quotient⟩

private theorem ncard_offset? (h : i < size) (hs : size ≤ count) :
    {word | offset? size word = some i}.ncard = count / size := by
  obtain ⟨first, fits, between⟩ := exists_offset?_eq_some_iff h hs
  simp only [between]
  exact ncard_between fits

end Offset

section Value

variable {low high x : ℤ}

private theorem residue_injective (low : ℤ) : Function.Injective (residue low) := by
  intro word other same
  have less := toNat_lt_count word
  have less' := toNat_lt_count other
  unfold residue at same
  apply UInt64.toNat_inj.mp
  have congruent : (word.toNat : ℤ) % count = other.toNat % count :=
    Int.emod_sub_cancel_right low |>.mp (add_left_cancel same)
  rw [Int.emod_eq_of_lt (by omega) (by omega), Int.emod_eq_of_lt (by omega) (by omega)] at congruent
  omega

/-- Each integer between the bounds has the same number of words. -/
theorem ncard_value? (span : high - low < count) (lower : low ≤ x) (upper : x ≤ high) :
    {word | value? low high word = some x}.ncard = count / (high - low + 1).toNat := by
  unfold value?
  dsimp only
  split
  · next whole =>
    obtain ⟨word, rfl⟩ := exists_residue lower (show x < low + count by omega)
    have only : {other | some (residue low other) = some (residue low word)} = {word} := by
      ext other
      simp only [Option.some.injEq, (residue_injective low).eq_iff, Set.mem_ofPred_eq,
        Set.mem_singleton_iff]
    rw [only, Set.ncard_singleton, whole, Nat.div_self (by decide)]
  · have less : (x - low).toNat < (high - low + 1).toNat := by omega
    rw [← ncard_offset? less (by omega)]
    congr 1
    ext word
    simp only [Set.mem_ofPred_eq, Option.map_eq_some_iff]
    constructor
    · rintro ⟨i, offset, rfl⟩
      rw [offset]
      congr 1
      omega
    · intro offset
      exact ⟨_, offset, by omega⟩

private theorem ncard_accepted (h : low ≤ high) (span : high - low < count) :
    {word | ∃ x, value? low high word = some x}.ncard =
      (high - low + 1).toNat * (count / (high - low + 1).toNat) := by
  have by_result : {word | ∃ x, value? low high word = some x} =
      ⋃ x ∈ (Finset.Icc low high : Set ℤ), {word | value? low high word = some x} := by
    ext word
    simp only [Set.mem_ofPred_eq, Set.mem_iUnion, Finset.coe_Icc, Set.mem_Icc, exists_prop]
    constructor
    · rintro ⟨x, drawn⟩
      exact ⟨x, value?_mem h drawn, drawn⟩
    · rintro ⟨x, -, drawn⟩
      exact ⟨x, drawn⟩
  have share : ∀ x ∈ Finset.Icc low high,
      {word | value? low high word = some x}.ncard = count / (high - low + 1).toNat := by
    intro x inside
    obtain ⟨lower, upper⟩ := Finset.mem_Icc.mp inside
    exact ncard_value? span lower upper
  have positive : 0 < count / (high - low + 1).toNat := Nat.div_pos (by omega) (by omega)
  rw [by_result, Set.Finite.ncard_biUnion (Finset.finite_toSet _), finsum_mem_coe_finset,
    Finset.sum_congr rfl share, Finset.sum_const, Int.card_Icc, smul_eq_mul]
  · congr 2
    omega
  · intro x inside
    exact Set.finite_of_ncard_pos (share x inside ▸ positive)
  · intro x _ y _ differ
    refine Set.disjoint_left.mpr fun word drawn drawn' => differ ?_
    exact Option.some.inj (drawn.symm.trans drawn')

private theorem count_lt_two_mul_ncard_accepted (h : low ≤ high) (span : high - low < count) :
    count < 2 * {word | ∃ x, value? low high word = some x}.ncard := by
  have pos : 0 < (high - low + 1).toNat := by omega
  have rounds := Nat.div_add_mod' count (high - low + 1).toNat
  have rest := Nat.mod_lt count pos
  have one_round : (high - low + 1).toNat ≤
      count / (high - low + 1).toNat * (high - low + 1).toNat :=
    Nat.le_mul_of_pos_left _ (Nat.div_pos (by omega) pos)
  rw [ncard_accepted h span, Nat.mul_comm (high - low + 1).toNat]
  omega

end Value

private theorem uniform_cons_eq_ok_iff {low high x : ℤ} {word : UInt64} {rest : List UInt64} :
    uniform low high (word :: rest) = .ok (x, rest) ↔
      low ≤ high ∧ value? low high word = some x := by
  rw [uniform_eq_ok_iff, yields_cons_iff]
  refine and_congr_right fun _ => ⟨?_, fun drawn => .inl ⟨drawn, rfl⟩⟩
  rintro (⟨drawn, -⟩ | ⟨-, later⟩)
  · exact drawn
  · obtain ⟨passed, other, cut, -⟩ := later
    have length := congrArg List.length cut
    simp only [List.length_append, List.length_cons] at length
    omega

end Words

namespace Interval

section Stages

variable {i : Interval} {x : BinaryFloat} {e s : ℤ} {word : UInt64} {words tail rest : List UInt64}

private theorem drawExponent_cons_iff (differ : i.low.exponent ≠ i.high.exponent) :
    i.drawExponent (word :: rest) = .ok (e, rest) ↔
      Words.value? i.low.exponent i.lastExponent word = some e := by
  rw [drawExponent, if_neg differ, mapError_eq_ok_iff, Words.uniform_cons_eq_ok_iff]
  exact and_iff_right i.low_exponent_le_lastExponent

private theorem drawSignificand_cons_iff (upper : e ≤ i.lastExponent) :
    i.drawSignificand e (word :: rest) = .ok (s, rest) ↔
      Words.value? (i.firstSignificand e) (i.lastSignificand e) word = some s := by
  rw [drawSignificand, mapError_eq_ok_iff, Words.uniform_cons_eq_ok_iff]
  exact and_iff_right (firstSignificand_le_lastSignificand upper)

private theorem draw_eq_ok_iff (he : i.drawExponent words = .ok (e, tail)) :
    i.draw words = .ok (x, rest) ↔
      i.Contains x ∧ x.exponent = e ∧
        i.drawSignificand e tail = .ok ((x.significand : ℤ), rest) := by
  obtain ⟨lower, upper⟩ := drawExponent_mem he
  constructor
  · intro drawn
    have inside := draw_contains drawn
    rw [draw_eq, he] at drawn
    change (i.drawSignificand e tail).bind _ = _ at drawn
    obtain ⟨⟨s, left⟩, hs, drawn⟩ := bind_eq_ok_iff.mp drawn
    obtain ⟨z, hz, drawn⟩ := bind_eq_ok_iff.mp drawn
    cases drawn
    obtain ⟨-, sig, exp⟩ := BinaryFloat.ofParts_eq_ok_iff.mp (mapError_eq_ok_iff.mp hz)
    obtain ⟨first, -⟩ := drawSignificand_mem hs
    have cast : (x.significand : ℤ) = s := by
      change x.significand = s.toNat at sig
      omega
    exact ⟨inside, exp, cast ▸ hs⟩
  · rintro ⟨inside, rfl, hs⟩
    exact draw_of_float inside.precision he hs

private theorem ncard_drawExponent (differ : i.low.exponent ≠ i.high.exponent)
    (lower : i.low.exponent ≤ e) (upper : e ≤ i.lastExponent) (rest : List UInt64) :
    {word | i.drawExponent (word :: rest) = .ok (e, rest)}.ncard =
      Words.count / (i.lastExponent - i.low.exponent + 1).toNat := by
  simp only [drawExponent_cons_iff differ]
  exact Words.ncard_value? i.lastExponent_sub_low_lt_count lower upper

private theorem count_lt_two_mul_ncard_drawExponent (differ : i.low.exponent ≠ i.high.exponent)
    (rest : List UInt64) :
    Words.count < 2 * {word | ∃ e, i.drawExponent (word :: rest) = .ok (e, rest)}.ncard := by
  simp only [drawExponent_cons_iff differ]
  exact Words.count_lt_two_mul_ncard_accepted i.low_exponent_le_lastExponent
    i.lastExponent_sub_low_lt_count

variable {front : List UInt64} (he : ∀ tail, i.drawExponent (front ++ tail) = .ok (e, tail))
include he

private theorem ncard_draw (inside : i.Contains x) (same : x.exponent = e) (rest : List UInt64) :
    {word | i.draw (front ++ word :: rest) = .ok (x, rest)}.ncard =
      Words.count / (i.lastSignificand e - i.firstSignificand e + 1).toNat := by
  obtain ⟨⟨-, upper⟩, first, last⟩ := (contains_iff_ranges inside.precision).mp inside
  rw [same] at upper first last
  rw [← Words.ncard_value? (i.lastSignificand_sub_first_lt_count e) first last]
  congr 1
  ext word
  rw [Set.mem_ofPred_eq, Set.mem_ofPred_eq, draw_eq_ok_iff (he (word :: rest)),
    drawSignificand_cons_iff upper, and_iff_right inside, and_iff_right same]

private theorem count_lt_two_mul_ncard_draw (rest : List UInt64) :
    Words.count < 2 * {word | ∃ x, i.draw (front ++ word :: rest) = .ok (x, rest)}.ncard := by
  obtain ⟨lower, upper⟩ := drawExponent_mem (he [])
  have accepted : {word | ∃ x, i.draw (front ++ word :: rest) = .ok (x, rest)} =
      {word | ∃ s, Words.value? (i.firstSignificand e) (i.lastSignificand e) word = some s} := by
    ext word
    rw [Set.mem_ofPred_eq, Set.mem_ofPred_eq]
    simp only [draw_eq_ok_iff (he (word :: rest)), drawSignificand_cons_iff upper]
    constructor
    · rintro ⟨x, -, -, drawn⟩
      exact ⟨_, drawn⟩
    · rintro ⟨s, drawn⟩
      obtain ⟨first, last⟩ :=
        Words.value?_mem (firstSignificand_le_lastSignificand upper) drawn
      obtain ⟨x, hx, inside⟩ := exists_float_of_ranges lower upper first last
      obtain ⟨-, sig, exp⟩ := BinaryFloat.ofParts_eq_ok_iff.mp hx
      refine ⟨x, inside, exp, ?_⟩
      rw [drawn, sig, Int.toNat_of_nonneg (by omega)]
  rw [accepted]
  exact Words.count_lt_two_mul_ncard_accepted (firstSignificand_le_lastSignificand upper)
    (i.lastSignificand_sub_first_lt_count e)

end Stages

/-- A draw is uniform in two stages. When the bounds have one exponent, each float of the interval
is drawn by the same number of words. Otherwise each exponent up to the last is, and, whatever the
words by which an exponent has been drawn, each float of the interval with that exponent. Every
stage accepts more than half of all words. -/
theorem draw_equidistributed {low high : BinaryFloat} {inclusive : Bool} {i : Interval}
    (made : ofBounds low high inclusive = .ok i) :
    (low.exponent = high.exponent →
      (∃ n, 0 < n ∧ ∀ x, i.Contains x → ∀ rest,
        {word | i.draw (word :: rest) = .ok (x, rest)}.ncard = n) ∧
      ∀ rest, Words.count < 2 * {word | ∃ x, i.draw (word :: rest) = .ok (x, rest)}.ncard) ∧
    (low.exponent ≠ high.exponent → ∃ last,
      last = (if inclusive = false ∧ high.significand = low.precision.minSig then high.exponent - 1
        else high.exponent) ∧
      (∃ n, 0 < n ∧ ∀ e, low.exponent ≤ e → e ≤ last → ∀ rest,
        {word | i.drawExponent (word :: rest) = .ok (e, rest)}.ncard = n) ∧
      (∀ rest, Words.count <
        2 * {word | ∃ e, i.drawExponent (word :: rest) = .ok (e, rest)}.ncard) ∧
      ∀ e, low.exponent ≤ e → e ≤ last → ∃ n, 0 < n ∧
        ∀ front, (∀ tail, i.drawExponent (front ++ tail) = .ok (e, tail)) →
          (∀ x, i.Contains x → x.exponent = e → ∀ rest,
            {word | i.draw (front ++ word :: rest) = .ok (x, rest)}.ncard = n) ∧
          ∀ rest, Words.count <
            2 * {word | ∃ x, i.draw (front ++ word :: rest) = .ok (x, rest)}.ncard) := by
  obtain ⟨rfl, rfl, rfl⟩ := ofBounds_eq_ok_iff.mp made
  have share {e : ℤ} (upper : e ≤ i.lastExponent) :
      0 < Words.count / (i.lastSignificand e - i.firstSignificand e + 1).toNat := by
    have := firstSignificand_le_lastSignificand upper
    have := i.lastSignificand_sub_first_lt_count e
    exact Nat.div_pos (by omega) (by omega)
  constructor
  · intro same
    have he (tail : List UInt64) : i.drawExponent ([] ++ tail) = .ok (i.low.exponent, tail) :=
      if_pos same
    refine ⟨⟨_, share i.low_exponent_le_lastExponent, fun x inside rest => ?_⟩, fun rest => ?_⟩
    · have exponent : x.exponent = i.low.exponent := by
        have := ((contains_iff_ranges inside.precision).mp inside).1
        have := lastExponent_eq_of_exponent_eq same
        omega
      simpa only [List.nil_append] using ncard_draw he inside exponent rest
    · simpa only [List.nil_append] using count_lt_two_mul_ncard_draw he rest
  · intro differ
    refine ⟨i.lastExponent, rfl,
      ⟨_, ?_, fun e lower upper => ncard_drawExponent differ lower upper⟩,
      count_lt_two_mul_ncard_drawExponent differ, fun e lower upper => ⟨_, share upper,
        fun front he => ⟨fun x inside same => ncard_draw he inside same,
          count_lt_two_mul_ncard_draw he⟩⟩⟩
    have := i.low_exponent_le_lastExponent
    have := i.lastExponent_sub_low_lt_count
    exact Nat.div_pos (show (i.lastExponent - i.low.exponent + 1).toNat ≤ Words.count by omega)
      (by omega)

theorem draw_equidistributed_across_binades : ∃ (low high : BinaryFloat) (i : Interval),
    low.significand = low.precision.maxSig ∧ high.significand = high.precision.minSig + 1 ∧
      ofBounds low high true = .ok i ∧
      {word | i.drawExponent [word] = .ok (0, [])}.ncard =
        {word | i.drawExponent [word] = .ok (1, [])}.ncard ∧
      Words.count < 2 * {word | ∃ e, i.drawExponent [word] = .ok (e, [])}.ncard := by
  let low : BinaryFloat := ⟨.full, 18446744073709551615, 0, by decide, by decide⟩
  let high : BinaryFloat := ⟨.full, 9223372036854775809, 1, by decide, by decide⟩
  have made : ofBounds low high true = .ok ⟨low, high, true, rfl, .inl (by decide)⟩ := rfl
  obtain ⟨-, differ⟩ := draw_equidistributed made
  obtain ⟨last, hlast, ⟨n, -, share⟩, accepted, -⟩ := differ (by decide)
  obtain rfl : last = 1 := hlast
  exact ⟨low, high, _, by decide, by decide, made,
    (share 0 (by decide) (by decide) []).trans (share 1 (by decide) (by decide) []).symm,
    accepted []⟩

end Interval

end DecimalPowers
