import DecimalPowers.Proofs.Json.Reader
import DecimalPowers.Proofs.Json.Skip
import DecimalPowers.Proofs.Table.Constants
import DecimalPowers.Proofs.Table.Contents
import DecimalPowers.Proofs.Table.Writing

/-!
The document of a table gives the table back. Its integers have at most 64 bits, so the reader keeps
every digit of them, and its keys are plain words.
-/

set_option autoImplicit false
set_option relaxedAutoImplicit false

namespace DecimalPowers

open Json (FitsNumber)

def Json.Value.member? (key : String) : Json.Value → Option Json.Value
  | .object members => members.lookup key
  | _ => none

theorem FitsInt16.fitsNumber {x : ℤ} (h : FitsInt16 x) : FitsNumber x :=
  ⟨by omega, by omega⟩

namespace Entry

private theorem toJson_isPlain (entry : Entry) : entry.toJson.IsPlain := by
  have significand := FitsNumber.natCast entry.significand_lt
  have exponent := FitsInt16.fitsNumber entry.exponent_fits
  refine .object (by simp; decide) ?_
  simpa using ⟨.integer significand, .integer exponent⟩

private theorem toJson_injective : Function.Injective Entry.toJson := by
  intro a b h
  simp only [toJson, Json.Value.object.injEq, List.cons.injEq, Prod.mk.injEq,
    Json.Value.integer.injEq, Nat.cast_inj] at h
  obtain ⟨⟨-, hs⟩, ⟨-, hx⟩, -⟩ := h
  exact Entry.ext hs hx

end Entry

private theorem ExponentRange.toJson_isPlain (r : ExponentRange) : r.toJson.IsPlain := by
  have min := FitsInt16.fitsNumber r.min_fits
  have max := FitsInt16.fitsNumber r.max_fits
  refine .object (by simp; decide) ?_
  simpa using ⟨.integer min, .integer max⟩

private theorem Precision.toJson_isPlain (p : Precision) : p.toJson.IsPlain := by
  have := p.bits_le
  exact .integer ⟨by omega, by omega⟩

namespace Table

private theorem toJson_isPlain {t : Table} (fits : t.mantissa < UInt64.size) :
    t.toJson.IsPlain := by
  have mantissa := FitsNumber.natCast fits
  have entries : (Json.Value.array (t.entries.map Entry.toJson)).IsPlain := by
    apply Json.Value.IsPlain.array
    intro item listed
    obtain ⟨entry, -, rfl⟩ := List.mem_map.mp listed
    exact entry.toJson_isPlain
  refine .object (by simp; decide) ?_
  simpa using ⟨t.range.toJson_isPlain, t.precision.toJson_isPlain, .integer mantissa, entries⟩

private theorem toJson_injective : Function.Injective toJson := by
  intro t t' h
  simp only [toJson, ExponentRange.toJson, Precision.toJson, Json.Value.object.injEq,
    List.cons.injEq, Prod.mk.injEq, Json.Value.integer.injEq, Json.Value.array.injEq,
    Nat.cast_inj, true_and, and_true] at h
  obtain ⟨⟨hmin, hmax⟩, hp, hm, items⟩ := h
  exact eq_of_parts hmin hmax hp hm (Entry.toJson_injective.list_map items)

private theorem toList_document (t : Table) : t.document.toList = t.toJson.text 0 ++ ['\n'] := by
  rw [document, String.toList_append]
  rfl

private theorem readText_document {t : Table} (fits : t.mantissa < UInt64.size) :
    Json.readText t.document.toList = .ok (t.toJson, ['\n']) := by
  rw [toList_document]
  exact Json.readText_text (toJson_isPlain fits) (Json.Value.endsNumber_newLine []) 0

private theorem skipValue_document {t : Table} (fits : t.mantissa < UInt64.size) :
    Json.skipValue t.document.toList = .ok ['\n'] := by
  rw [toList_document]
  exact Json.skipValue_text (toJson_isPlain fits) (Json.Value.endsNumber_newLine []) 0

private theorem eq_of_document {t t' : Table} (fits : t.mantissa < UInt64.size)
    (fits' : t'.mantissa < UInt64.size) (h : t.document = t'.document) : t = t' := by
  have read := readText_document fits
  rw [h, readText_document fits'] at read
  exact (toJson_injective (Prod.mk.inj (Except.ok.inj read)).1).symm

/-- The document of a generated table is one value with a newline after it. The value that is read
has the range, the precision and the mantissa of the table, and the entry of `e` stands in it in
place `e - min`, digit for digit. Different tables have different documents. -/
theorem writeDocument_faithful {c : Parameters} (fits : c.mantissa < UInt64.size) {t : Table}
    (made : (generate c).outcome = .ok t) :
    t.writeDocument none = ⟨utf8 t.document, none⟩ ∧
    Json.skipValue t.document.toList = .ok ['\n'] ∧
    (∃ v range items, Json.readText t.document.toList = .ok (v, ['\n']) ∧
      v.member? "range" = some range ∧
      range.member? "min" = some (.integer t.range.min) ∧
      range.member? "max" = some (.integer t.range.max) ∧
      v.member? "precision" = some (.integer t.precision.bits) ∧
      v.member? "mantissa" = some (.integer t.mantissa) ∧
      v.member? "entries" = some (.array items) ∧
      (items.length : ℤ) = t.range.max - t.range.min + 1 ∧
      ∀ e : ℤ, t.range.min ≤ e → e ≤ t.range.max → ∃ entry item, t.get? e = some entry ∧
        items[(e - t.range.min).toNat]? = some item ∧
        item.member? "significand" = some (.integer entry.significand) ∧
        item.member? "exponent" = some (.integer entry.exponent)) ∧
    ∀ (c' : Parameters) (t' : Table), c'.mantissa < UInt64.size →
      (generate c').outcome = .ok t' →
      ((t'.writeDocument none).received = (t.writeDocument none).received ↔ t' = t) := by
  obtain ⟨⟨-, -, -, hm, -⟩, complete⟩ := generate_eq_ok_iff.mp made
  rw [← hm] at fits
  refine ⟨t.writeDocument_none, skipValue_document fits,
    ⟨t.toJson, t.range.toJson, t.entries.map Entry.toJson, readText_document fits, rfl, rfl, rfl,
      rfl, rfl, rfl, ?_, ?_⟩, ?_⟩
  · rw [List.length_map, complete.length_entries, t.range.cast_size]
  · intro e lower upper
    obtain ⟨entry, found, placed⟩ := complete.exists_entry_at lower upper
    refine ⟨entry, entry.toJson, found, ?_, rfl, rfl⟩
    rw [List.getElem?_map, placed]
    rfl
  · intro c' t' fits' made'
    obtain ⟨⟨-, -, -, hm', -⟩, -⟩ := generate_eq_ok_iff.mp made'
    rw [← hm'] at fits'
    constructor
    · intro same
      rw [writeDocument_none, writeDocument_none] at same
      exact eq_of_document fits' fits (utf8_inj.mp same)
    · rintro rfl
      rfl

theorem readText_reference_document :
    ∃ t v items, (generate {}).outcome = .ok t ∧
      Json.readText t.document.toList = .ok (v, ['\n']) ∧
      v.member? "mantissa" = some (.integer 1) ∧ v.member? "precision" = some (.integer 64) ∧
      v.member? "entries" = some (.array items) ∧ items.length = 611 := by
  obtain ⟨t, made⟩ : ∃ t, (generate {}).outcome = .ok t :=
    (exists_generate_full_iff (by decide) (by decide) (by decide)).mpr (by decide)
  obtain ⟨-, -, ⟨v, range, items, read, -, -, -, width, mantissa, entries, size, -⟩, -⟩ :=
    writeDocument_faithful (by decide) made
  obtain ⟨⟨hp, hmin, hmax, hm, -⟩, -⟩ := generate_eq_ok_iff.mp made
  rw [hm] at mantissa
  rw [hp] at width
  rw [hmin, hmax] at size
  refine ⟨t, v, items, made, read, mantissa, width, entries, ?_⟩
  change (items.length : ℤ) = 305 - -305 + 1 at size
  omega

end Table

end DecimalPowers
