import DecimalPowers.Table
import Mathlib.Data.Int.Notation
import Mathlib.Data.List.Basic

/-!
The constants that stand for a table in source text: the ends of its range and its two columns with
their lengths. Together with the precision and the mantissa they determine the table.
-/

set_option autoImplicit false
set_option relaxedAutoImplicit false

namespace DecimalPowers

/-- The constants of a table. The lengths are those that the types of the columns declare. -/
structure Constants where
  minExp : ℤ
  maxExp : ℤ
  significandCount : ℕ
  exponentCount : ℕ
  significands : List ℕ
  exponents : List ℤ
  deriving DecidableEq

private theorem Entry.parts_injective :
    Function.Injective fun entry : Entry => (entry.significand, entry.exponent) := by
  intro a b h
  obtain ⟨hs, hx⟩ := Prod.mk.inj h
  exact Entry.ext hs hx

private theorem ExponentRange.eq_of_ends {r r' : ExponentRange} (hmin : r.min = r'.min)
    (hmax : r.max = r'.max) : r = r' := by
  cases r
  cases r'
  cases hmin
  cases hmax
  rfl

namespace Table

def constants (t : Table) : Constants where
  minExp := t.range.min
  maxExp := t.range.max
  significandCount := t.size
  exponentCount := t.size
  significands := t.significands
  exponents := t.exponents

theorem length_significands (t : Table) : t.significands.length = t.size := List.length_map _

theorem length_exponents (t : Table) : t.exponents.length = t.size := List.length_map _

private theorem entries_eq_of_columns {t t' : Table} (hs : t.significands = t'.significands)
    (hx : t.exponents = t'.exponents) : t.entries = t'.entries := by
  apply Entry.parts_injective.list_map
  show t.entries.map _ = t'.entries.map _
  rw [← List.zip_map', ← List.zip_map']
  exact congrArg₂ List.zip hs hx

theorem eq_of_parts {t t' : Table} (hmin : t.range.min = t'.range.min)
    (hmax : t.range.max = t'.range.max) (hp : t.precision.bits = t'.precision.bits)
    (hm : t.mantissa = t'.mantissa) (entries : t.entries = t'.entries) : t = t' := by
  have range := ExponentRange.eq_of_ends hmin hmax
  have precision := Precision.eq_of_bits hp
  cases t
  cases t'
  cases range
  cases precision
  cases hm
  cases entries
  rfl

theorem eq_of_constants {t t' : Table} (h : t.constants = t'.constants)
    (hp : t.precision.bits = t'.precision.bits) (hm : t.mantissa = t'.mantissa) : t = t' := by
  obtain ⟨hmin, hmax, -, -, hs, hx⟩ := Constants.mk.inj h
  exact eq_of_parts hmin hmax hp hm (entries_eq_of_columns hs hx)

end Table

end DecimalPowers
