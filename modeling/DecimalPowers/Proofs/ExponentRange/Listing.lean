import DecimalPowers.ExponentRange
import Mathlib.Data.Int.Notation
import Mathlib.Data.List.Range
import Mathlib.Data.Nat.Notation

/-!
The listing of a range: it holds exactly the integers between the bounds, strictly ascending, so
that what stands before an exponent is what is less.
-/

set_option autoImplicit false
set_option relaxedAutoImplicit false

namespace DecimalPowers.ExponentRange

theorem mem_toList_iff {r : ExponentRange} {e : ℤ} : e ∈ r.toList ↔ r.min ≤ e ∧ e ≤ r.max := by
  have := r.min_le_max
  simp only [toList, size, List.mem_map, List.mem_range]
  constructor
  · rintro ⟨i, hi, rfl⟩
    omega
  · rintro ⟨lower, upper⟩
    exact ⟨(e - r.min).toNat, by omega, by omega⟩

private theorem pairwise_toList (r : ExponentRange) : r.toList.Pairwise (· < ·) := by
  unfold toList
  rw [List.pairwise_map]
  apply List.Pairwise.imp _ List.pairwise_lt_range
  intro i j h
  omega

theorem isChain_toList (r : ExponentRange) : r.toList.IsChain fun a b => b = a + 1 := by
  unfold toList
  rw [List.isChain_map, List.isChain_range]
  intro i h
  push_cast
  omega

theorem contains_iff {r : ExponentRange} {e : ℤ} :
    r.contains e = true ↔ r.min ≤ e ∧ e ≤ r.max := by
  simp [contains]

theorem cast_size (r : ExponentRange) : (r.size : ℤ) = r.max - r.min + 1 := by
  have := r.min_le_max
  unfold size
  omega

theorem length_toList (r : ExponentRange) : r.toList.length = r.size := by
  simp [toList]

theorem fitsInt32_sub_min {r : ExponentRange} {e : ℤ} (inside : r.contains e) :
    FitsInt32 (e - r.min) := by
  have := r.min_fits.1
  have := r.max_fits.2
  obtain ⟨lower, upper⟩ := contains_iff.mp inside
  exact ⟨by omega, by omega⟩

private theorem indexOf?_eq {r : ExponentRange} {e : ℤ} :
    r.indexOf? e = if r.contains e then some (e - r.min).toNat else none := by
  unfold indexOf?
  split
  · next inside => rw [subInt32?, if_pos (fitsInt32_sub_min inside), Option.map_some]
  · rfl

theorem indexOf?_eq_some_iff {r : ExponentRange} {e : ℤ} {i : ℕ} :
    r.indexOf? e = some i ↔ i < r.size ∧ e = r.min + i := by
  have := r.cast_size
  simp only [indexOf?_eq, Option.ite_none_right_eq_some, contains_iff, Option.some.injEq]
  omega

theorem getElem?_toList_eq_some_iff {r : ExponentRange} {i : ℕ} {e : ℤ} :
    r.toList[i]? = some e ↔ i < r.size ∧ e = r.min + i := by
  simp only [toList, List.getElem?_map, Option.map_eq_some_iff, List.getElem?_eq_some_iff,
    List.length_range, List.getElem_range]
  constructor
  · rintro ⟨j, ⟨hi, rfl⟩, rfl⟩
    exact ⟨hi, rfl⟩
  · rintro ⟨hi, rfl⟩
    exact ⟨i, ⟨hi, rfl⟩, rfl⟩

theorem mem_front_iff {r : ExponentRange} {front back : List ℤ} {e : ℤ}
    (cut : r.toList = front ++ e :: back) {a : ℤ} : a ∈ front ↔ r.min ≤ a ∧ a < e := by
  have sorted := cut ▸ r.pairwise_toList
  obtain ⟨-, tail, across⟩ := List.pairwise_append.mp sorted
  have member : e ∈ r.toList := by
    rw [cut]
    exact List.mem_append_right _ List.mem_cons_self
  have inside := mem_toList_iff.mp member
  constructor
  · intro ha
    have := across a ha e List.mem_cons_self
    have := mem_toList_iff.mp (cut ▸ List.mem_append_left _ ha : a ∈ r.toList)
    omega
  · rintro ⟨lower, less⟩
    have ha : a ∈ front ++ e :: back := cut ▸ mem_toList_iff.mpr ⟨lower, by omega⟩
    rcases List.mem_append.mp ha with before | after
    · exact before
    · rcases List.mem_cons.mp after with rfl | behind
      · omega
      · have := List.rel_of_pairwise_cons tail behind
        omega

theorem ofBounds_eq_ok_iff {min max : ℤ} {r : ExponentRange} :
    ofBounds min max = .ok r ↔ r.min = min ∧ r.max = max := by
  constructor
  · intro h
    unfold ofBounds at h
    split at h
    · split at h
      · cases h
        exact ⟨rfl, rfl⟩
      · cases h
    · cases h
  · rintro ⟨rfl, rfl⟩
    unfold ofBounds
    rw [dif_pos r.min_le_max, dif_pos ⟨r.min_fits, r.max_fits⟩]

end DecimalPowers.ExponentRange
