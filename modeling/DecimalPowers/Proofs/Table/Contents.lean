import DecimalPowers.Proofs.Table.FullPrecision
import Mathlib.Data.List.Forall2

/-!
The contents of a generated table. Generation runs through the exponents of the range once and keeps
one verified entry for each, so an entry is found by its position: the one of `e` stands `e - min`
places behind the first, and the listing and the columns follow the same order.
-/

set_option autoImplicit false
set_option relaxedAutoImplicit false

namespace DecimalPowers

namespace Entry

def float (entry : Entry) (p : Precision) : Except FloatFault BinaryFloat :=
  BinaryFloat.ofParts p entry.significand entry.exponent

theorem ofFloat_eq_ok_iff {decimal : ℤ} {z : BinaryFloat} {entry : Entry} :
    ofFloat decimal z = .ok entry ↔ entry.float z.precision = .ok z := by
  unfold float
  rw [BinaryFloat.ofParts_eq_ok_iff]
  constructor
  · intro made
    unfold ofFloat at made
    split at made
    · cases made
      exact ⟨rfl, rfl, rfl⟩
    · cases made
  · rintro ⟨-, hs, hx⟩
    rw [ofFloat_of_fits (hx ▸ entry.exponent_fits)]
    congr 1
    ext
    · exact hs
    · exact hx

end Entry

namespace Table

section Entries

variable {f : ℕ} {p : Precision}

theorem entryFor_eq_ok_iff {e : ℤ} {entry : Entry} :
    (entryFor f p e).outcome = .ok entry ↔
      ∃ z error, (approximate f e p).outcome = .ok z ∧ (verify f e z).outcome = .ok error ∧
        entry.float z.precision = .ok z := by
  unfold entryFor
  simp only [Logged.outcome_bind_eq_ok_iff, approximateChecked_eq_ok_iff, Logged.outcome_emit,
    Logged.outcome_ofExcept, Int.toNat_natCast]
  constructor
  · rintro ⟨checked, ⟨hz, he⟩, -, -, made⟩
    cases narrowed : Entry.ofFloat e checked.float with
    | error cause =>
      rw [narrowed] at made
      cases made
    | ok entry =>
      rw [narrowed] at made
      cases made
      exact ⟨_, _, hz, he, Entry.ofFloat_eq_ok_iff.mp narrowed⟩
  · rintro ⟨z, error, hz, he, stored⟩
    refine ⟨⟨z, error⟩, ⟨hz, he⟩, (), trivial, ?_⟩
    rw [Entry.ofFloat_eq_ok_iff.mpr stored]
    rfl

theorem entriesFor_eq_ok_iff {es : List ℤ} {entries : List Entry} :
    (entriesFor f p es).outcome = .ok entries ↔
      List.Forall₂ (fun e entry => (entryFor f p e).outcome = .ok entry) es entries := by
  induction es generalizing entries with
  | nil =>
    rw [List.forall₂_nil_left_iff]
    constructor
    · intro h
      cases h
      rfl
    · rintro rfl
      rfl
  | cons e es ih =>
    unfold entriesFor
    simp only [Logged.outcome_bind_eq_ok_iff, ih, Logged.outcome_pure]
    constructor
    · rintro ⟨entry, first, rest, tail, made⟩
      cases made
      exact .cons first tail
    · intro h
      cases h with
      | cons first tail => exact ⟨_, first, _, tail, rfl⟩

end Entries

/-- Every exponent of the range has its entry at its place, and there is no other entry. -/
def IsComplete (t : Table) : Prop :=
  List.Forall₂ (fun e entry => (entryFor t.mantissa t.precision e).outcome = .ok entry)
    t.range.toList t.entries

theorem generate_eq_ok_iff {c : Parameters} {t : Table} :
    (generate c).outcome = .ok t ↔
      (t.precision.bits = c.bits ∧ t.range.min = c.minExp ∧ t.range.max = c.maxExp ∧
        t.mantissa = c.mantissa ∧ 0 < c.mantissa) ∧ t.IsComplete := by
  constructor
  · intro made
    cases hv : c.validate with
    | error cause =>
      rw [generate_of_invalid hv] at made
      cases made
    | ok v =>
      obtain ⟨width, hmin, hmax, hm⟩ := Parameters.validate_eq_ok_iff.mp hv
      rw [generate_of_valid hv] at made
      cases run : (entriesFor v.mantissa v.precision v.range.toList).outcome with
      | error cause =>
        rw [run] at made
        cases made
      | ok entries =>
        rw [run] at made
        cases made
        exact ⟨⟨width, hmin, hmax, hm, hm ▸ v.mantissa_pos⟩, entriesFor_eq_ok_iff.mp run⟩
  · obtain ⟨range, precision, mantissa, entries⟩ := t
    rintro ⟨⟨width, hmin, hmax, rfl, positive⟩, complete⟩
    have hv : c.validate = .ok ⟨precision, range, c.mantissa, positive⟩ :=
      Parameters.validate_eq_ok_iff.mpr ⟨width, hmin, hmax, rfl⟩
    rw [generate_of_valid hv, entriesFor_eq_ok_iff.mpr complete]
    rfl

namespace IsComplete

variable {t : Table}

theorem length_entries (h : t.IsComplete) : t.entries.length = t.range.size := by
  rw [← List.Forall₂.length_eq h, ExponentRange.length_toList]

private theorem get?_eq_some_iff (h : t.IsComplete) {e : ℤ} {entry : Entry} :
    t.get? e = some entry ↔ ∃ i : ℕ, e = t.range.min + i ∧ t.entries[i]? = some entry := by
  have size := h.length_entries
  simp only [get?, Option.bind_eq_bind, Option.bind_eq_some_iff,
    ExponentRange.indexOf?_eq_some_iff]
  constructor
  · rintro ⟨i, ⟨-, he⟩, found⟩
    exact ⟨i, he, found⟩
  · rintro ⟨i, he, found⟩
    obtain ⟨inside, -⟩ := List.getElem?_eq_some_iff.mp found
    exact ⟨i, ⟨size ▸ inside, he⟩, found⟩

private theorem isSome_get?_iff (h : t.IsComplete) (e : ℤ) :
    (t.get? e).isSome ↔ t.range.min ≤ e ∧ e ≤ t.range.max := by
  have size := h.length_entries
  have cast := t.range.cast_size
  rw [Option.isSome_iff_exists]
  constructor
  · rintro ⟨entry, found⟩
    obtain ⟨i, rfl, at_i⟩ := h.get?_eq_some_iff.mp found
    obtain ⟨inside, -⟩ := List.getElem?_eq_some_iff.mp at_i
    omega
  · rintro ⟨lower, upper⟩
    have inside : (e - t.range.min).toNat < t.entries.length := by omega
    have place : e = t.range.min + (e - t.range.min).toNat := by omega
    exact ⟨_, h.get?_eq_some_iff.mpr ⟨_, place, List.getElem?_eq_getElem inside⟩⟩

theorem exists_entry_at (h : t.IsComplete) {e : ℤ} (lower : t.range.min ≤ e)
    (upper : e ≤ t.range.max) :
    ∃ entry, t.get? e = some entry ∧ t.entries[(e - t.range.min).toNat]? = some entry := by
  obtain ⟨entry, found⟩ := Option.isSome_iff_exists.mp ((h.isSome_get?_iff e).mpr ⟨lower, upper⟩)
  obtain ⟨i, rfl, at_i⟩ := h.get?_eq_some_iff.mp found
  refine ⟨entry, found, ?_⟩
  rw [add_sub_cancel_left, Int.toNat_natCast, at_i]

private theorem entryFor_of_get? (h : t.IsComplete) {e : ℤ} {entry : Entry}
    (found : t.get? e = some entry) :
    (entryFor t.mantissa t.precision e).outcome = .ok entry := by
  obtain ⟨i, he, at_i⟩ := h.get?_eq_some_iff.mp found
  obtain ⟨inside, rfl⟩ := List.getElem?_eq_some_iff.mp at_i
  have listed : t.range.toList[i]? = some e :=
    ExponentRange.getElem?_toList_eq_some_iff.mpr ⟨h.length_entries ▸ inside, he⟩
  obtain ⟨within, rfl⟩ := List.getElem?_eq_some_iff.mp listed
  exact List.Forall₂.get h within inside

private theorem map_fst_toList (h : t.IsComplete) : t.toList.map Prod.fst = t.range.toList :=
  List.map_fst_zip (List.Forall₂.length_eq h).le

private theorem map_snd_toList (h : t.IsComplete) : t.toList.map Prod.snd = t.entries :=
  List.map_snd_zip (List.Forall₂.length_eq h).ge

theorem mem_toList_iff (h : t.IsComplete) {e : ℤ} {entry : Entry} :
    (e, entry) ∈ t.toList ↔ t.get? e = some entry := by
  simp only [toList, List.mem_iff_getElem?, List.getElem?_zip_eq_some,
    ExponentRange.getElem?_toList_eq_some_iff, h.get?_eq_some_iff]
  constructor
  · rintro ⟨i, ⟨-, he⟩, found⟩
    exact ⟨i, he, found⟩
  · rintro ⟨i, he, found⟩
    obtain ⟨inside, -⟩ := List.getElem?_eq_some_iff.mp found
    exact ⟨i, ⟨h.length_entries ▸ inside, he⟩, found⟩

end IsComplete

/-- A generated table has an entry exactly for the exponents asked for. The entry of `e` stands in
place `e - min`, a place that 32 bits hold, and stores the approximation of `mantissa * 10 ^ e`,
which passes the self-test. The listing pairs the exponents, ascending without a gap, with what is
found for them, and the columns are the fields of the listed entries. -/
theorem generate_contents {c : Parameters} {t : Table} (made : (generate c).outcome = .ok t) :
    t.precision.bits = c.bits ∧ (t.size : ℤ) = c.maxExp - c.minExp + 1 ∧
    (∀ e : ℤ, (t.get? e).isSome ↔ c.minExp ≤ e ∧ e ≤ c.maxExp) ∧
    (∀ e : ℤ, c.minExp ≤ e → e ≤ c.maxExp → FitsInt32 (e - c.minExp)) ∧
    (∀ (e : ℤ) (entry : Entry), t.get? e = some entry →
      t.entries[(e - c.minExp).toNat]? = some entry ∧
      t.precision.Normalized entry.significand ∧
      ∃ z error, BinaryFloat.ofParts t.precision entry.significand entry.exponent = .ok z ∧
        (approximate c.mantissa e t.precision).outcome = .ok z ∧
        (verify c.mantissa e z).outcome = .ok error) ∧
    t.toList.map Prod.fst = (List.range t.size).map (fun (i : ℕ) => c.minExp + (i : ℤ)) ∧
    (∀ (e : ℤ) (entry : Entry), (e, entry) ∈ t.toList ↔ t.get? e = some entry) ∧
    t.significands = t.toList.map (fun pair => pair.2.significand) ∧
    t.exponents = t.toList.map (fun pair => pair.2.exponent) := by
  obtain ⟨⟨width, hmin, hmax, hm, -⟩, complete⟩ := generate_eq_ok_iff.mp made
  have size : t.size = t.range.size := complete.length_entries
  have entries := complete.map_snd_toList
  rw [← hmin, ← hmax, ← hm]
  refine ⟨width, by rw [size, t.range.cast_size], complete.isSome_get?_iff, ?_, ?_, ?_,
    fun e entry => complete.mem_toList_iff, ?_, ?_⟩
  · intro e lower upper
    exact ExponentRange.fitsInt32_sub_min (ExponentRange.contains_iff.mpr ⟨lower, upper⟩)
  · intro e entry found
    obtain ⟨i, he, at_i⟩ := complete.get?_eq_some_iff.mp found
    obtain ⟨z, error, hz, accepted, stored⟩ :=
      entryFor_eq_ok_iff.mp (complete.entryFor_of_get? found)
    have place : (e - t.range.min).toNat = i := by omega
    rw [precision_of_approximate hz] at stored
    obtain ⟨hp, hs, -⟩ := BinaryFloat.ofParts_eq_ok_iff.mp stored
    have normalized : t.precision.Normalized entry.significand := hp ▸ hs ▸ z.normalized
    exact ⟨place ▸ at_i, normalized, z, error, stored, hz, accepted⟩
  · rw [complete.map_fst_toList, size]
    rfl
  · rw [significands, ← entries, List.map_map]
    rfl
  · rw [exponents, ← entries, List.map_map]
    rfl

theorem generate_reference_contents :
    ∃ t, (generate {}).outcome = .ok t ∧ t.size = 611 ∧
      t.get? (-2147483648) = none ∧ t.get? 2147483647 = none ∧ t.get? 306 = none ∧
      ∃ entry z, t.get? 305 = some entry ∧ t.entries[610]? = some entry ∧
        (approximate 1 305 t.precision).outcome = .ok z ∧ (305, entry) ∈ t.toList := by
  obtain ⟨t, made⟩ : ∃ t, (generate {}).outcome = .ok t :=
    (exists_generate_full_iff (by decide) (by decide) (by decide)).mpr (by decide)
  obtain ⟨-, size, found, -, stored, -, listed, -, -⟩ := generate_contents made
  have absent {e : ℤ} (outside : ¬ (-305 ≤ e ∧ e ≤ 305)) : t.get? e = none :=
    Option.not_isSome_iff_eq_none.mp (mt (found e).mp outside)
  obtain ⟨entry, last⟩ := Option.isSome_iff_exists.mp ((found 305).mpr (by decide))
  obtain ⟨place, -, z, -, -, hz, -⟩ := stored 305 entry last
  refine ⟨t, made, ?_, absent (by decide), absent (by decide), absent (by decide), entry, z, last,
    place, hz, (listed 305 entry).mpr last⟩
  change (t.size : ℤ) = 305 - -305 + 1 at size
  omega

end Table

end DecimalPowers
