import DecimalPowers.Proofs.Scaling.Window
import DecimalPowers.Proofs.Table.Contents

/-!
The log of a generation. An exponent that is tried leaves the exponent of its scaled value and then
either the verified float or the refusal of the self-test; the run stops at the first exponent
without an entry and otherwise closes with the number of entries.
-/

set_option autoImplicit false
set_option relaxedAutoImplicit false

namespace DecimalPowers

namespace Logged

variable {ε α β : Type}

def leveled (x : Logged ε α) : List (Level × Event) :=
  x.events.map fun event => (event.level, event)

private theorem ok_bind (events : List Event) (a : α) (f : α → Logged ε β) :
    (⟨events, .ok a⟩ : Logged ε α) >>= f = ⟨events ++ (f a).events, (f a).outcome⟩ := rfl

private theorem error_bind (events : List Event) (cause : ε) (f : α → Logged ε β) :
    (⟨events, .error cause⟩ : Logged ε α) >>= f = ⟨events, .error cause⟩ := rfl

end Logged

namespace Table

/-- The exponent of the scaled value of `f * 10 ^ e` and the float it is rounded to. -/
structure Computed (f : ℕ) (p : Precision) (e k : ℤ) (z : BinaryFloat) : Prop where
  scaled : ∀ j, InWindow p (decimalValue f e) j ↔ j = k
  rounded : (approximate f e p).outcome = .ok z
  carried : z.exponent = k ∨ z.exponent = k + 1

/-- The log of a list of exponents, tried in order for a table with `n` entries. -/
inductive RangeLog (f : ℕ) (p : Precision) (n : ℕ) : List ℤ → List (Level × Event) → Prop
  | finished : RangeLog f p n [] [(.info, .verified n)]
  | rejected {e k : ℤ} {z : BinaryFloat} {error : UlpError} (es : List ℤ) :
      Computed f p e k z →
      (verify f e z).outcome = .error (.refused (.inaccurate e z error)) →
      RangeLog f p n (e :: es)
        [(.trace, .quotientNormalized e k), (.error, .inaccurate e z error)]
  | outOfRange {e k : ℤ} {z : BinaryFloat} {error : UlpError} (es : List ℤ) :
      Computed f p e k z → (verify f e z).outcome = .ok error → ¬ FitsInt16 z.exponent →
      RangeLog f p n (e :: es) [(.trace, .quotientNormalized e k), (.debug, .entry e z error)]
  | entry {e k : ℤ} {z : BinaryFloat} {error : UlpError} {es : List ℤ}
      {log : List (Level × Event)} :
      Computed f p e k z → (verify f e z).outcome = .ok error → FitsInt16 z.exponent →
      RangeLog f p n es log →
      RangeLog f p n (e :: es)
        ((.trace, .quotientNormalized e k) :: (.debug, .entry e z error) :: log)

/-- The event that closes a run over a list of exponents; a failed run has none. -/
def closing (n : ℕ) : Except Failure (List Entry) → List (Level × Event)
  | .ok _ => [(.info, .verified n)]
  | .error _ => []

section Step

variable {f : ℕ} {e : ℤ}

private theorem exists_computed (h : Admissible f e) (p : Precision) :
    ∃ k z, Computed f p e k z ∧ approximate f e p = ⟨[.quotientNormalized e k], .ok z⟩ := by
  have positive : 0 < f := by exact_mod_cast h.pos
  obtain ⟨z, hz, rfl, rounds⟩ := exists_approximate h p
  have window := inWindow_scaleDecimal positive e z.precision
  refine ⟨_, z, ⟨window.iff_eq, hz, rounds.exponent_eq_or window⟩, ?_⟩
  have run := approximate_of_pos (f := f) (e := e) (p := z.precision) positive rfl
  rw [run] at hz ⊢
  exact congrArg (Logged.mk _) hz

private theorem verify_eq (f : ℕ) (e : ℤ) (z : BinaryFloat) :
    (∃ error, verify f e z = ⟨[], .ok error⟩) ∨
      ∃ error, verify f e z =
        ⟨[.inaccurate e z error], .error (.refused (.inaccurate e z error))⟩ := by
  by_cases below : (UlpError.measure f e z).isBelowHalf
  · exact .inl ⟨_, if_pos below⟩
  · exact .inr ⟨_, if_neg below⟩

/-- What one exponent logs, and how it ends. -/
theorem entryFor_eq (h : Admissible f e) (p : Precision) : ∃ k z, Computed f p e k z ∧
    ((∃ error, (verify f e z).outcome = .ok error ∧
        entryFor f p e = ⟨[.quotientNormalized e k, .entry e z error],
          (Entry.ofFloat e z).mapError .refused⟩) ∨
      ∃ error, (verify f e z).outcome = .error (.refused (.inaccurate e z error)) ∧
        entryFor f p e = ⟨[.quotientNormalized e k, .inaccurate e z error],
          .error (.refused (.inaccurate e z error))⟩) := by
  obtain ⟨k, z, computed, run⟩ := exists_computed h p
  refine ⟨k, z, computed, ?_⟩
  unfold entryFor approximateChecked
  rw [run, Int.toNat_natCast]
  rcases verify_eq f e z with ⟨error, accepted⟩ | ⟨error, refused⟩
  · refine .inl ⟨error, by rw [accepted], ?_⟩
    simp only [Logged.ok_bind, accepted]
    rfl
  · refine .inr ⟨error, by rw [refused], ?_⟩
    simp only [Logged.ok_bind, Logged.error_bind, refused]
    rfl

end Step

section Run

variable {f : ℕ} {p : Precision} {n : ℕ}

private theorem events_entriesFor_of_ok {e : ℤ} {es : List ℤ} {events : List Event} {entry : Entry}
    (step : entryFor f p e = ⟨events, .ok entry⟩) :
    (entriesFor f p (e :: es)).events = events ++ (entriesFor f p es).events := by
  show (entryFor f p e >>= _).events = _
  rw [step, Logged.ok_bind]
  cases rest : (entriesFor f p es).outcome with
  | error cause => rw [Logged.events_bind_of_error rest]
  | ok entries => rw [Logged.events_bind_of_ok rest, Logged.events_pure, List.append_nil]

private theorem entriesFor_of_error {e : ℤ} {es : List ℤ} {events : List Event} {cause : Failure}
    (step : entryFor f p e = ⟨events, .error cause⟩) :
    entriesFor f p (e :: es) = ⟨events, .error cause⟩ := by
  show entryFor f p e >>= _ = _
  rw [step, Logged.error_bind]

private theorem rangeLog_entriesFor (n : ℕ) {es : List ℤ} (admissible : ∀ e ∈ es, Admissible f e) :
    RangeLog f p n es ((entriesFor f p es).leveled ++ closing n (entriesFor f p es).outcome) := by
  induction es with
  | nil => exact .finished
  | cons e es ih =>
    rw [List.forall_mem_cons] at admissible
    obtain ⟨k, z, computed, ⟨error, accepted, step⟩ | ⟨error, refused, step⟩⟩ :=
      entryFor_eq admissible.1 p
    · by_cases fits : FitsInt16 z.exponent
      · rw [Entry.ofFloat_of_fits fits] at step
        have rest := RangeLog.entry computed accepted fits (ih admissible.2)
        have outcome : closing n (entriesFor f p (e :: es)).outcome =
            closing n (entriesFor f p es).outcome := by
          rw [outcome_entriesFor_cons, step]
          cases (entriesFor f p es).outcome <;> rfl
        rw [outcome, Logged.leveled, events_entriesFor_of_ok step]
        exact rest
      · rw [Entry.ofFloat_of_not_fits fits] at step
        rw [entriesFor_of_error step]
        exact .outOfRange es computed accepted fits
    · rw [entriesFor_of_error step]
      exact .rejected es computed refused

private theorem RangeLog.exists_entryFor {es : List ℤ} {log : List (Level × Event)}
    (h : RangeLog f p n es log) {m : ℕ} (closed : (.info, .verified m) ∈ log) :
    ∀ e ∈ es, ∃ entry, (entryFor f p e).outcome = .ok entry := by
  induction h with
  | finished => simp
  | rejected => simp at closed
  | outOfRange => simp at closed
  | @entry e k z error es log computed accepted fits rest ih =>
    rw [List.forall_mem_cons]
    refine ⟨⟨⟨z.significand, z.exponent, z.significand_lt, fits⟩, ?_⟩, ih (by simpa using closed)⟩
    exact entryFor_eq_ok_iff.mpr ⟨z, error, computed.rounded, accepted,
      Entry.ofFloat_eq_ok_iff.mp (Entry.ofFloat_of_fits fits e)⟩

end Run

private theorem events_generate_of_invalid {c : Parameters} {cause : ParameterError}
    (h : c.validate = .error cause) : (generate c).events = [] := by
  rw [generate, h]
  rfl

private theorem leveled_generate_of_valid {c : Parameters} {v : Parameters.Valid}
    (h : c.validate = .ok v) :
    (generate c).leveled =
      (.info, .generating v.range.min v.range.max v.precision.bits v.mantissa) ::
        ((entriesFor v.mantissa v.precision v.range.toList).leveled ++
          closing v.range.size (entriesFor v.mantissa v.precision v.range.toList).outcome) := by
  unfold generate Logged.leveled
  rw [h]
  show List.map _ (Logged.emit _ >>= fun _ =>
    entriesFor v.mantissa v.precision v.range.toList >>= _).events = _
  rw [Logged.events_bind_of_ok (Logged.outcome_emit _), List.map_append]
  cases run : (entriesFor v.mantissa v.precision v.range.toList).outcome with
  | error cause =>
    rw [Logged.events_bind_of_error run, closing, List.append_nil]
    rfl
  | ok entries =>
    have size : entries.length = v.range.size := by
      rw [← (entriesFor_eq_ok_iff.mp run).length_eq, ExponentRange.length_toList]
    rw [Logged.events_bind_of_ok run, closing, ← size, List.map_append]
    rfl

/-- Generation logs nothing for invalid parameters. For valid ones it logs them and then the
exponents in ascending order: the exponent of the scaled value, and the float with its error, as
long as the self-test accepts it and its exponent fits. The closing event is there exactly when a
table is returned, and then it is the last one. -/
theorem generate_log (c : Parameters) (hm : c.mantissa < UInt64.size) :
    (¬ c.IsValid → (generate c).events = []) ∧
    (c.IsValid → ∀ (p : Precision) (n : ℕ), p.bits = c.bits →
      (n : ℤ) = c.maxExp - c.minExp + 1 → ∃ log,
        (generate c).leveled =
          (.info, .generating c.minExp c.maxExp c.bits c.mantissa) :: log ∧
        RangeLog c.mantissa p n ((List.range n).map fun (i : ℕ) => c.minExp + i) log ∧
        ((∃ t, (generate c).outcome = .ok t) → log.getLast? = some (.info, .verified n)) ∧
        ((∃ m, (.info, .verified m) ∈ log) → ∃ t, (generate c).outcome = .ok t)) := by
  constructor
  · intro invalid
    obtain ⟨cause, hc⟩ := Parameters.exists_validate_error_iff.mpr invalid
    exact events_generate_of_invalid hc
  · rintro ⟨-, nonempty, low, high, positive⟩ p n width count
    let v : Parameters.Valid :=
      ⟨p, ⟨c.minExp, c.maxExp, nonempty, low, high⟩, c.mantissa, positive⟩
    have hv : c.validate = .ok v := Parameters.validate_eq_ok_iff.mpr ⟨width, rfl, rfl, rfl⟩
    have size : v.range.size = n := by
      have cast : (v.range.size : ℤ) = c.maxExp - c.minExp + 1 := v.range.cast_size
      omega
    have admissible : ∀ e ∈ v.range.toList, Admissible c.mantissa e := by
      intro e member
      obtain ⟨lower, upper⟩ := ExponentRange.mem_toList_iff.mp member
      exact admissible_of_mem (v := v) hm lower upper
    have listed : v.range.toList = (List.range n).map fun (i : ℕ) => c.minExp + i := by
      rw [ExponentRange.toList, size]
    have log := rangeLog_entriesFor (p := p) n admissible
    have logged := leveled_generate_of_valid hv
    rw [size] at logged
    refine ⟨_, width ▸ logged, listed ▸ log, ?_, ?_⟩
    · rintro ⟨t, made⟩
      rw [generate_of_valid hv] at made
      cases run : (entriesFor v.mantissa v.precision v.range.toList).outcome with
      | error cause =>
        rw [run] at made
        cases made
      | ok entries => exact List.getLast?_concat
    · rintro ⟨m, closed⟩
      rw [exists_generate_iff hv]
      intro e lower upper
      exact log.exists_entryFor closed e (ExponentRange.mem_toList_iff.mpr ⟨lower, upper⟩)

theorem generate_log_at_ends :
    1 < UInt64.size ∧
      (generate ⟨23, 23, 53, 1⟩).leveled.map Prod.fst = [.info, .trace, .error] ∧
      (generate {}).leveled.getLast? = some (.info, .verified 611) := by
  have word : (⟨23, 23, 53, 1⟩ : Parameters).mantissa < UInt64.size := by decide
  have fits : FitsInt16 23 := by decide
  have refused {z : BinaryFloat} {k : ℤ} (h : Computed 1 ⟨53, by decide, by decide⟩ 23 k z)
      (error : UlpError) : (verify 1 23 z).outcome ≠ .ok error := by
    intro passed
    have failed := (approximateChecked_of_isInnerMidpoint (.one (by decide)) h.rounded
      (isInnerMidpoint_ten_pow_23 rfl)).1
    have checked : (approximateChecked 1 23 _).outcome = .ok ⟨z, error⟩ :=
      approximateChecked_eq_ok_iff.mpr ⟨h.rounded, passed⟩
    rw [checked] at failed
    cases failed
  obtain ⟨log, logged, range, -⟩ := (generate_log ⟨23, 23, 53, 1⟩ word).2
    ⟨by decide, le_rfl, fits, fits, by decide⟩ ⟨53, by decide, by decide⟩ 1 rfl (by decide)
  refine ⟨word, ?_, ?_⟩
  · rw [logged]
    cases range with
    | rejected => rfl
    | outOfRange _ computed passed => exact absurd passed (refused computed _)
    | entry computed passed => exact absurd passed (refused computed _)
  · obtain ⟨t, made⟩ : ∃ t, (generate {}).outcome = .ok t :=
      (exists_generate_full_iff (by decide) (by decide) (by decide)).mpr (by decide)
    obtain ⟨log, logged, -, closed, -⟩ := (generate_log {} (by decide)).2
      ⟨by decide, by decide, by decide, by decide, by decide⟩ .full 611 rfl (by decide)
    rw [logged]
    exact List.mem_getLast?_cons (closed ⟨t, made⟩)

end Table

end DecimalPowers
