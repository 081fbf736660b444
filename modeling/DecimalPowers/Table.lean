import DecimalPowers.Approximation
import DecimalPowers.Entry
import DecimalPowers.Parameters

/-!
Tables of powers of ten. `Table.generate` approximates `mantissa * 10 ^ e` for every exponent of
the range in ascending order. The first failure ends it, so a table is complete and every entry of
it has been verified.
-/

set_option autoImplicit false
set_option relaxedAutoImplicit false

namespace DecimalPowers

/-- The approximations of `mantissa * 10 ^ e` for every exponent `e` of a range, ascending. -/
structure Table where
  range : ExponentRange
  precision : Precision
  mantissa : Nat
  entries : List Entry
  deriving DecidableEq

namespace Table

def entryFor (mantissa : Nat) (p : Precision) (e : Int) : Logged Failure Entry := do
  let checked ← approximateChecked mantissa e p
  Logged.emit (.entry e checked.float checked.error)
  Logged.ofExcept ((Entry.ofFloat e checked.float).mapError .refused)

def entriesFor (mantissa : Nat) (p : Precision) : List Int → Logged Failure (List Entry)
  | [] => pure []
  | e :: es => do
    let entry ← entryFor mantissa p e
    let entries ← entriesFor mantissa p es
    pure (entry :: entries)

def generate (c : Parameters) : Logged Failure Table := do
  let valid ← Logged.ofExcept (c.validate.mapError (.refused ∘ .parameters))
  let ⟨precision, range, mantissa, _⟩ := valid
  Logged.emit (.generating range.min range.max precision.bits mantissa)
  let entries ← entriesFor mantissa precision range.toList
  Logged.emit (.verified entries.length)
  pure { range, precision, mantissa, entries }

def size (t : Table) : Nat := t.entries.length

def get? (t : Table) (e : Int) : Option Entry := do t.entries[← t.range.indexOf? e]?

def toList (t : Table) : List (Int × Entry) := t.range.toList.zip t.entries

def significands (t : Table) : List Nat := t.entries.map Entry.significand

def exponents (t : Table) : List Int := t.entries.map Entry.exponent

end Table

end DecimalPowers
