import DecimalPowers.Table
import DecimalPowers.Proofs.Approximation.SelfTest
import DecimalPowers.Proofs.Parameters.Validation

/-!
The outcome of table generation. One exponent is refused when its value is an inner midpoint, and
otherwise when the binary exponent does not fit in 16 bits; a table is refused for the least refused
exponent of its range. Binary exponents do not decrease along the range, so the two ends decide
whether all of them fit.
-/

set_option autoImplicit false
set_option relaxedAutoImplicit false

namespace DecimalPowers

theorem Entry.ofFloat_of_fits {z : BinaryFloat} (h : FitsInt16 z.exponent) (decimal : ℤ) :
    Entry.ofFloat decimal z = .ok ⟨z.significand, z.exponent, z.significand_lt, h⟩ := dif_pos h

theorem Entry.ofFloat_of_not_fits {z : BinaryFloat} (h : ¬ FitsInt16 z.exponent) (decimal : ℤ) :
    Entry.ofFloat decimal z = .error (.exponentOutOfRange decimal z.exponent) := dif_neg h

namespace Table

/-- Why there is no entry for an exponent: a midpoint before an exponent out of range. -/
inductive EntryRefused (f : ℕ) (p : Precision) (e : ℤ) : Failure → Prop
  | inaccurate {z : BinaryFloat} : (approximate f e p).outcome = .ok z →
      IsInnerMidpoint p (decimalValue f e) →
      EntryRefused f p e (.refused (.inaccurate e z (UlpError.measure f e z)))
  | outOfRange {z : BinaryFloat} : (approximate f e p).outcome = .ok z →
      ¬ IsInnerMidpoint p (decimalValue f e) → ¬ FitsInt16 z.exponent →
      EntryRefused f p e (.refused (.exponentOutOfRange e z.exponent))

section Entry

variable {f : ℕ} {p : Precision} {e : ℤ} {z : BinaryFloat}

private theorem entryFor_of_isInnerMidpoint (h : Admissible f e)
    (hz : (approximate f e p).outcome = .ok z) (mid : IsInnerMidpoint p (decimalValue f e)) :
    (entryFor f p e).outcome = .error (.refused (.inaccurate e z (UlpError.measure f e z))) := by
  have failed := (approximateChecked_of_isInnerMidpoint h hz mid).1
  rw [Int.toNat_natCast] at failed
  rw [entryFor, Logged.outcome_bind, failed]
  rfl

private theorem entryFor_of_not_isInnerMidpoint (h : Admissible f e)
    (hz : (approximate f e p).outcome = .ok z) (mid : ¬ IsInnerMidpoint p (decimalValue f e)) :
    (entryFor f p e).outcome = (Entry.ofFloat e z).mapError .refused := by
  rw [entryFor, Logged.outcome_bind, (approximateChecked_of_not_isInnerMidpoint h hz mid).1]
  rfl

private theorem entryFor_eq_error_iff (h : Admissible f e) {cause : Failure} :
    (entryFor f p e).outcome = .error cause ↔ EntryRefused f p e cause := by
  constructor
  · intro failed
    obtain ⟨z, hz, -⟩ := exists_approximate h p
    by_cases mid : IsInnerMidpoint p (decimalValue f e)
    · rw [entryFor_of_isInnerMidpoint h hz mid] at failed
      cases failed
      exact .inaccurate hz mid
    · rw [entryFor_of_not_isInnerMidpoint h hz mid] at failed
      by_cases fits : FitsInt16 z.exponent
      · rw [Entry.ofFloat_of_fits fits] at failed
        cases failed
      · rw [Entry.ofFloat_of_not_fits fits] at failed
        cases failed
        exact .outOfRange hz mid fits
  · intro refused
    cases refused with
    | inaccurate hz mid => exact entryFor_of_isInnerMidpoint h hz mid
    | outOfRange hz mid fits =>
      rw [entryFor_of_not_isInnerMidpoint h hz mid, Entry.ofFloat_of_not_fits fits]
      rfl

private theorem exists_entryFor_iff_not_refused (h : Admissible f e) :
    (∃ entry, (entryFor f p e).outcome = .ok entry) ↔ ∀ cause, ¬ EntryRefused f p e cause := by
  simp only [← entryFor_eq_error_iff h]
  cases (entryFor f p e).outcome with
  | error cause => simp
  | ok entry => simp

theorem exists_entryFor_iff (h : Admissible f e) :
    (∃ entry, (entryFor f p e).outcome = .ok entry) ↔
      ¬ IsInnerMidpoint p (decimalValue f e) ∧
        ∃ z, (approximate f e p).outcome = .ok z ∧ FitsInt16 z.exponent := by
  rw [exists_entryFor_iff_not_refused h]
  constructor
  · intro allowed
    obtain ⟨z, hz, -⟩ := exists_approximate h p
    have clear : ¬ IsInnerMidpoint p (decimalValue f e) :=
      fun mid => allowed _ (.inaccurate hz mid)
    refine ⟨clear, z, hz, ?_⟩
    by_contra outside
    exact allowed _ (.outOfRange hz clear outside)
  · rintro ⟨clear, z, hz, fits⟩ cause refused
    cases refused with
    | inaccurate _ mid => exact clear mid
    | outOfRange hw _ outside =>
      rw [hz] at hw
      cases hw
      exact outside fits

end Entry

section Entries

variable {f : ℕ} {p : Precision}

theorem outcome_entriesFor_cons (e : ℤ) (es : List ℤ) :
    (entriesFor f p (e :: es)).outcome = (entryFor f p e).outcome.bind fun entry =>
      (entriesFor f p es).outcome.bind fun entries => .ok (entry :: entries) := by
  simp only [entriesFor, Logged.outcome_bind, Logged.outcome_pure]

private theorem exists_entriesFor_iff (es : List ℤ) :
    (∃ entries, (entriesFor f p es).outcome = .ok entries) ↔
      ∀ e ∈ es, ∃ entry, (entryFor f p e).outcome = .ok entry := by
  induction es with
  | nil => simp [entriesFor]
  | cons e es ih =>
    rw [List.forall_mem_cons, ← ih, outcome_entriesFor_cons]
    cases (entryFor f p e).outcome with
    | error cause => simp [Except.bind]
    | ok entry =>
      cases (entriesFor f p es).outcome with
      | error cause => simp [Except.bind]
      | ok entries => simp [Except.bind]

private theorem entriesFor_eq_error_iff {es : List ℤ} {cause : Failure} :
    (entriesFor f p es).outcome = .error cause ↔
      ∃ front e back, es = front ++ e :: back ∧
        (∀ a ∈ front, ∃ entry, (entryFor f p a).outcome = .ok entry) ∧
        (entryFor f p e).outcome = .error cause := by
  induction es with
  | nil => simp [entriesFor]
  | cons e es ih =>
    rw [outcome_entriesFor_cons]
    constructor
    · intro failed
      cases he : (entryFor f p e).outcome with
      | error cause' =>
        rw [he] at failed
        cases failed
        exact ⟨[], e, es, rfl, by simp, he⟩
      | ok entry =>
        cases hes : (entriesFor f p es).outcome with
        | error cause' =>
          rw [he, hes] at failed
          cases failed
          obtain ⟨front, a, back, rfl, before, fails⟩ := ih.mp hes
          refine ⟨e :: front, a, back, rfl, ?_, fails⟩
          exact List.forall_mem_cons.mpr ⟨⟨entry, he⟩, before⟩
        | ok entries =>
          rw [he, hes] at failed
          cases failed
    · rintro ⟨front, a, back, cut, before, fails⟩
      cases front with
      | nil =>
        obtain ⟨rfl, rfl⟩ := List.cons.inj cut
        rw [fails]
        rfl
      | cons b front =>
        obtain ⟨rfl, rfl⟩ := List.cons.inj cut
        obtain ⟨⟨entry, he⟩, before⟩ := List.forall_mem_cons.mp before
        rw [he, ih.mpr ⟨front, a, back, rfl, before, fails⟩]
        rfl

end Entries

theorem generate_of_invalid {c : Parameters} {cause : ParameterError}
    (h : c.validate = .error cause) :
    (generate c).outcome = .error (.refused (.parameters cause)) := by
  rw [generate, Logged.outcome_bind, Logged.outcome_ofExcept, h]
  rfl

theorem generate_of_valid {c : Parameters} {v : Parameters.Valid} (h : c.validate = .ok v) :
    (generate c).outcome = (entriesFor v.mantissa v.precision v.range.toList).outcome.map
      fun entries => ⟨v.range, v.precision, v.mantissa, entries⟩ := by
  rw [generate, Logged.outcome_bind, Logged.outcome_ofExcept, h]
  show (Logged.emit _ >>= _).outcome = _
  rw [Logged.outcome_bind, Logged.outcome_emit]
  show (entriesFor v.mantissa v.precision v.range.toList >>= _).outcome = _
  rw [Logged.outcome_bind]
  cases (entriesFor v.mantissa v.precision v.range.toList).outcome <;> rfl

section Valid

variable {c : Parameters} {v : Parameters.Valid}

theorem exists_generate_iff (h : c.validate = .ok v) :
    (∃ t, (generate c).outcome = .ok t) ↔
      ∀ e, v.range.min ≤ e → e ≤ v.range.max →
        ∃ entry, (entryFor v.mantissa v.precision e).outcome = .ok entry := by
  have listed : (∀ e ∈ v.range.toList,
        ∃ entry, (entryFor v.mantissa v.precision e).outcome = .ok entry) ↔
      ∀ e, v.range.min ≤ e → e ≤ v.range.max →
        ∃ entry, (entryFor v.mantissa v.precision e).outcome = .ok entry := by
    simp only [ExponentRange.mem_toList_iff, and_imp]
  rw [← listed, ← exists_entriesFor_iff, generate_of_valid h]
  cases (entriesFor v.mantissa v.precision v.range.toList).outcome with
  | error cause => simp [Except.map]
  | ok entries => simp [Except.map]

private theorem generate_eq_error_iff (h : c.validate = .ok v) {cause : Failure} :
    (generate c).outcome = .error cause ↔
      ∃ e, v.range.min ≤ e ∧ e ≤ v.range.max ∧
        (∀ a, v.range.min ≤ a → a < e →
          ∃ entry, (entryFor v.mantissa v.precision a).outcome = .ok entry) ∧
        (entryFor v.mantissa v.precision e).outcome = .error cause := by
  have mapped : (generate c).outcome = .error cause ↔
      (entriesFor v.mantissa v.precision v.range.toList).outcome = .error cause := by
    rw [generate_of_valid h]
    cases (entriesFor v.mantissa v.precision v.range.toList).outcome with
    | error cause => simp [Except.map]
    | ok entries => simp [Except.map]
  rw [mapped, entriesFor_eq_error_iff]
  constructor
  · rintro ⟨front, e, back, cut, before, fails⟩
    have inside := ExponentRange.mem_toList_iff.mp
      (cut ▸ List.mem_append_right _ List.mem_cons_self : e ∈ v.range.toList)
    refine ⟨e, inside.1, inside.2, fun a lower less => ?_, fails⟩
    exact before a ((ExponentRange.mem_front_iff cut).mpr ⟨lower, less⟩)
  · rintro ⟨e, lower, upper, before, fails⟩
    obtain ⟨front, back, cut⟩ :=
      List.append_of_mem (ExponentRange.mem_toList_iff.mpr ⟨lower, upper⟩)
    refine ⟨front, e, back, cut, fun a ha => ?_, fails⟩
    obtain ⟨lower, less⟩ := (ExponentRange.mem_front_iff cut).mp ha
    exact before a lower less

theorem admissible_of_mem (hm : v.mantissa < UInt64.size) {e : ℤ} (lower : v.range.min ≤ e)
    (upper : e ≤ v.range.max) : Admissible v.mantissa e := by
  have := v.range.min_fits.1
  have := v.range.max_fits.2
  exact .of_word v.mantissa_pos hm ⟨by omega, by omega⟩

/-- The binary exponents of a range fit in 16 bits as soon as its two ends do. -/
theorem exponent_fits_of_ends (v : Parameters.Valid) (hm : v.mantissa < UInt64.size) {p : Precision}
    (low : ∃ z, (approximate v.mantissa v.range.min p).outcome = .ok z ∧ -32768 ≤ z.exponent)
    (high : ∃ z, (approximate v.mantissa v.range.max p).outcome = .ok z ∧ z.exponent ≤ 32767)
    {e : ℤ} (lower : v.range.min ≤ e) (upper : e ≤ v.range.max) :
    ∃ z, (approximate v.mantissa e p).outcome = .ok z ∧ FitsInt16 z.exponent := by
  have hmin := admissible_of_mem hm le_rfl v.range.min_le_max
  have hmax := admissible_of_mem hm v.range.min_le_max le_rfl
  have he := admissible_of_mem hm lower upper
  have positive : (0 : ℤ) < v.mantissa := hmin.pos
  obtain ⟨a, ha, above⟩ := low
  obtain ⟨b, hb, below⟩ := high
  obtain ⟨z, hz, -⟩ := exists_approximate he p
  have := approximate_exponent_mono hmin he ha hz (decimalValue_mono positive lower)
  have := approximate_exponent_mono he hmax hz hb (decimalValue_mono positive upper)
  exact ⟨z, hz, by omega, by omega⟩

private theorem exists_generate_iff_ends (h : c.validate = .ok v) (hm : v.mantissa < UInt64.size) :
    (∃ t, (generate c).outcome = .ok t) ↔
      (∀ e, v.range.min ≤ e → e ≤ v.range.max →
        ¬ IsInnerMidpoint v.precision (decimalValue v.mantissa e)) ∧
      (∃ z, (approximate v.mantissa v.range.min v.precision).outcome = .ok z ∧
        -32768 ≤ z.exponent) ∧
      (∃ z, (approximate v.mantissa v.range.max v.precision).outcome = .ok z ∧
        z.exponent ≤ 32767) := by
  rw [exists_generate_iff h]
  constructor
  · intro made
    have each := fun e lower upper =>
      (exists_entryFor_iff (admissible_of_mem hm lower upper)).mp (made e lower upper)
    obtain ⟨-, a, ha, fits, -⟩ := each v.range.min le_rfl v.range.min_le_max
    obtain ⟨-, b, hb, -, fits'⟩ := each v.range.max v.range.min_le_max le_rfl
    exact ⟨fun e lower upper => (each e lower upper).1, ⟨a, ha, fits⟩, ⟨b, hb, fits'⟩⟩
  · rintro ⟨clear, low, high⟩ e lower upper
    rw [exists_entryFor_iff (admissible_of_mem hm lower upper)]
    exact ⟨clear e lower upper, exponent_fits_of_ends v hm low high lower upper⟩

theorem exists_least_refused (h : c.validate = .ok v) (hm : v.mantissa < UInt64.size)
    {cause : Failure} (failed : (generate c).outcome = .error cause) :
    ∃ e, v.range.min ≤ e ∧ e ≤ v.range.max ∧ EntryRefused v.mantissa v.precision e cause ∧
      ∀ a, v.range.min ≤ a → a < e → ∀ other, ¬ EntryRefused v.mantissa v.precision a other := by
  obtain ⟨e, lower, upper, before, fails⟩ := (generate_eq_error_iff h).mp failed
  have he := admissible_of_mem hm lower upper
  refine ⟨e, lower, upper, (entryFor_eq_error_iff he).mp fails, fun a low less => ?_⟩
  have ha := admissible_of_mem hm low (less.le.trans upper)
  exact (exists_entryFor_iff_not_refused ha).mp (before a low less)

end Valid

/-- Generation refuses invalid parameters; for valid ones it succeeds when no value of the range is
an inner midpoint and the binary exponents at both ends fit, and otherwise it fails with what the
least refused exponent is refused for. -/
theorem generate_outcome (c : Parameters) (hm : c.mantissa < UInt64.size) :
    ((∃ cause, (generate c).outcome = .error (.refused (.parameters cause))) ↔
      ¬ (1 ≤ c.bits ∧ c.bits ≤ 64) ∨ c.maxExp < c.minExp ∨ ¬ FitsInt16 c.minExp ∨
        ¬ FitsInt16 c.maxExp ∨ c.mantissa = 0) ∧
    ∀ p : Precision, p.bits = c.bits → c.minExp ≤ c.maxExp → FitsInt16 c.minExp →
      FitsInt16 c.maxExp → 0 < c.mantissa →
      ((∃ t, (generate c).outcome = .ok t) ↔
        (∀ e, c.minExp ≤ e → e ≤ c.maxExp → ¬ IsInnerMidpoint p (decimalValue c.mantissa e)) ∧
        (∃ z, (approximate c.mantissa c.minExp p).outcome = .ok z ∧ -32768 ≤ z.exponent) ∧
        (∃ z, (approximate c.mantissa c.maxExp p).outcome = .ok z ∧ z.exponent ≤ 32767)) ∧
      ((∃ z, (approximate c.mantissa c.minExp p).outcome = .ok z ∧ -32768 ≤ z.exponent) →
        (∃ z, (approximate c.mantissa c.maxExp p).outcome = .ok z ∧ z.exponent ≤ 32767) →
        ∀ e, c.minExp ≤ e → e ≤ c.maxExp →
          ∃ z, (approximate c.mantissa e p).outcome = .ok z ∧ FitsInt16 z.exponent) ∧
      ∀ cause, (generate c).outcome = .error cause →
        ∃ e, c.minExp ≤ e ∧ e ≤ c.maxExp ∧ EntryRefused c.mantissa p e cause ∧
          ∀ a, c.minExp ≤ a → a < e → ∀ other, ¬ EntryRefused c.mantissa p a other := by
  constructor
  · have invalid : ¬ c.IsValid ↔ ¬ (1 ≤ c.bits ∧ c.bits ≤ 64) ∨ c.maxExp < c.minExp ∨
        ¬ FitsInt16 c.minExp ∨ ¬ FitsInt16 c.maxExp ∨ c.mantissa = 0 := by
      unfold Parameters.IsValid
      omega
    rw [← invalid]
    constructor
    · rintro ⟨cause, refused⟩ valid
      obtain ⟨v, hv⟩ := Parameters.exists_validate_iff.mpr valid
      have hm' : v.mantissa < UInt64.size := (Parameters.validate_eq_ok_iff.mp hv).2.2.2 ▸ hm
      obtain ⟨e, -, -, entry, -⟩ := exists_least_refused hv hm' refused
      cases entry
    · intro not_valid
      obtain ⟨cause, hc⟩ := Parameters.exists_validate_error_iff.mpr not_valid
      exact ⟨cause, generate_of_invalid hc⟩
  · intro p width nonempty low high positive
    let v : Parameters.Valid :=
      ⟨p, ⟨c.minExp, c.maxExp, nonempty, low, high⟩, c.mantissa, positive⟩
    have hv : c.validate = .ok v := Parameters.validate_eq_ok_iff.mpr ⟨width, rfl, rfl, rfl⟩
    refine ⟨exists_generate_iff_ends hv hm, fun hmin hmax e lower upper => ?_, fun cause => ?_⟩
    · exact exponent_fits_of_ends v hm hmin hmax lower upper
    · exact exists_least_refused hv hm

theorem generate_ten_pow_23_refused :
    1 < UInt64.size ∧ ∃ z error,
      (generate ⟨23, 23, 53, 1⟩).outcome = .error (.refused (.inaccurate 23 z error)) := by
  have word : (⟨23, 23, 53, 1⟩ : Parameters).mantissa < UInt64.size := by decide
  have mid : IsInnerMidpoint ⟨53, by decide, by decide⟩ (decimalValue 1 23) :=
    isInnerMidpoint_ten_pow_23 rfl
  obtain ⟨made, -, failed⟩ := (generate_outcome ⟨23, 23, 53, 1⟩ word).2
    ⟨53, by decide, by decide⟩ rfl (by decide) (by decide) (by decide) (by decide)
  refine ⟨word, ?_⟩
  cases outcome : (generate ⟨23, 23, 53, 1⟩).outcome with
  | ok t => exact absurd mid ((made.mp ⟨t, outcome⟩).1 23 le_rfl le_rfl)
  | error cause =>
    obtain ⟨e, lower, upper, refused, -⟩ := failed cause outcome
    obtain rfl : e = 23 := le_antisymm upper lower
    cases refused with
    | inaccurate _ _ => exact ⟨_, _, rfl⟩
    | outOfRange _ clear _ => exact absurd mid clear

end Table

end DecimalPowers
