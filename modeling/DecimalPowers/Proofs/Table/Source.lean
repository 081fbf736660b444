import DecimalPowers.Proofs.Table.Constants
import DecimalPowers.Proofs.Table.Writing
import DecimalPowers.Proofs.Text.Line

/-!
Reading the source text of a table back. A reader goes through the text line by line and finds the
mantissa and the width, which have defaults where their comment is absent, and the constants; from
these the table is determined.
-/

set_option autoImplicit false
set_option relaxedAutoImplicit false

namespace DecimalPowers

open Text (readAll readBetween readInteger readNatural readOptional skipText)

namespace Table

def readComment (s : List Char) : Option ((ℕ × ℕ) × List Char) := do
  let s ← skipText "// Table of approximations of powers of ten.\n" s
  let s ← skipText "// DO NOT MODIFY: Generated by pow10-table\n" s
  let (mantissa, s) ← readOptional "// Entries approximate " " * 10^e.\n" 1 s
  let (bits, s) ← readOptional "// Significands are " " bits wide.\n" 64 s
  some ((mantissa, bits), s)

def readConstants (s : List Char) : Option (Constants × List Char) := do
  let (minExp, s) ← readBetween "pub const MIN_E: i16 = " ";\n" readInteger s
  let (maxExp, s) ← readBetween "pub const MAX_E: i16 = " ";\n" readInteger s
  let s ← skipText "\n" s
  let s ← skipText "pub const POWERS: ([u64; " s
  let (significandCount, s) ← readNatural 10 s
  let (exponentCount, s) ← readBetween "], [i16; " "]) = ([\n" (readNatural 10) s
  let (significands, s) := readAll (readBetween "    0x" ",\n" (readNatural 16)) s
  let s ← skipText "], [\n" s
  let (exponents, s) := readAll (readBetween "    " ",\n" readInteger) s
  let s ← skipText "]);\n" s
  some (⟨minExp, maxExp, significandCount, exponentCount, significands, exponents⟩, s)

/-- Reads source text without a header: the mantissa, the width and the constants. -/
def readSource (text : String) : Option (ℕ × ℕ × Constants) := do
  let ((mantissa, bits), s) ← readComment text.toList
  let (constants, s) ← readConstants s
  if s.isEmpty then some (mantissa, bits, constants) else none

private theorem readAll_significands (t : Table) (rest : List Char) :
    readAll (readBetween "    0x" ",\n" (readNatural 16))
      ((String.join (t.significands.map fun sig => "    0x" ++ Text.hex sig ++ ",\n")).toList ++
        ("], [\n".toList ++ rest)) = (t.significands, "], [\n".toList ++ rest) := by
  apply Text.readAll_append
  · intro sig rest
    simp only [String.toList_append, List.append_assoc]
    exact Text.readBetween_hex (by decide) sig rest
  · intro sig
    simp
  · rfl

private theorem readAll_exponents (t : Table) (rest : List Char) :
    readAll (readBetween "    " ",\n" readInteger)
      ((String.join (t.exponents.map fun exp => "    " ++ Text.signed exp ++ ",\n")).toList ++
        ("]);\n".toList ++ rest)) = (t.exponents, "]);\n".toList ++ rest) := by
  apply Text.readAll_append
  · intro exp rest
    simp only [String.toList_append, List.append_assoc]
    exact Text.readBetween_signed (by decide) exp rest
  · intro exp
    simp
  · rfl

private theorem readComment_append (t : Table) (rest : List Char) :
    readComment ((String.join t.commentLines).toList ++ ("pub const ".toList ++ rest)) =
      some ((t.mantissa, t.precision.bits), "pub const ".toList ++ rest) := by
  have apart : skipText "// Entries approximate "
      ((String.join (if t.precision.bits = 64 then []
        else ["// Significands are " ++ Text.decimal t.precision.bits ++ " bits wide.\n"])).toList ++
        ("pub const ".toList ++ rest)) = none := by
    split
    · rfl
    · simp only [String.join_cons, String.toList_append, List.append_assoc]
      rfl
  have plain : skipText "// Significands are " ("pub const ".toList ++ rest) = none := rfl
  have mantissa := Text.readOptional_append (by decide : Text.Separates " * 10^e.\n") apart
    t.mantissa 1
  have bits := Text.readOptional_append (by decide : Text.Separates " bits wide.\n") plain
    t.precision.bits 64
  simp only [readComment, commentLines, String.join_append, String.join_cons, String.join_nil,
    String.append_empty, String.toList_append, List.append_assoc, Text.skipText_append,
    Option.bind_eq_bind, Option.bind_some, mantissa, bits]

private theorem readConstants_append (t : Table) (rest : List Char) :
    readConstants ((String.join t.constantLines).toList ++ rest) = some (t.constants, rest) := by
  have count (rest : List Char) := Text.readNatural_decimal t.size
    ((by decide : Text.Separates "], [i16; ").endsNumeral rest)
  simp only [readConstants, constantLines, String.join_append, String.join_cons, String.join_nil,
    String.append_empty, String.toList_append, List.append_assoc]
  simp only [Text.skipText_append, Option.bind_eq_bind, Option.bind_some, count,
    Text.readBetween_signed (by decide : Text.Separates ";\n"),
    Text.readBetween_decimal (by decide : Text.Separates "]) = ([\n"),
    readAll_significands, readAll_exponents, constants]

private theorem exists_constantLines_eq (t : Table) :
    ∃ rest, (String.join t.constantLines).toList = "pub const ".toList ++ rest := by
  have first : "pub const MIN_E: i16 = ".toList = "pub const ".toList ++ "MIN_E: i16 = ".toList :=
    rfl
  simp only [constantLines, List.cons_append, String.join_cons, String.toList_append,
    List.append_assoc, first]
  exact ⟨_, rfl⟩

private theorem readSource_source (t : Table) :
    readSource (t.source none) = some (t.mantissa, t.precision.bits, t.constants) := by
  obtain ⟨rest, starts⟩ := t.exists_constantLines_eq
  have constants := t.readConstants_append []
  rw [List.append_nil, starts] at constants
  have text : (t.source none).toList =
      (String.join t.commentLines).toList ++ ("pub const ".toList ++ rest) := by
    rw [← starts, ← String.toList_append, ← String.join_append]
    rfl
  rw [readSource, text, readComment_append]
  simp only [Option.bind_eq_bind, Option.bind_some, constants, List.isEmpty_nil, if_true]

private theorem eq_of_source {t t' : Table} (h : t.source none = t'.source none) : t = t' := by
  have read := readSource_source t
  rw [h, readSource_source] at read
  obtain ⟨hm, rest⟩ := Prod.mk.inj (Option.some.inj read)
  obtain ⟨hp, hc⟩ := Prod.mk.inj rest
  exact eq_of_constants hc.symm hp.symm hm.symm

private theorem source_some (t : Table) (header : String) :
    t.source (some header) = Text.trim header ++ "\n" ++ t.source none := by
  simp only [source, sourceLines, headerLines, List.nil_append,
    List.cons_append, String.join_cons]

/-- What is written as source text is a header line, if there is a header, and a text that gives the
mantissa, the width and the constants of the table back; the lengths it declares are those of its
columns. Under one header, different tables have different texts. -/
theorem writeSource_faithful (t : Table) :
    (∀ header : Option String, t.writeSource header none =
      ⟨utf8 (header.elim "" fun text => Text.trim text ++ "\n") ++ utf8 (t.source none), none⟩) ∧
    readSource (t.source none) = some (t.mantissa, t.precision.bits,
      { minExp := t.range.min
        maxExp := t.range.max
        significandCount := t.significands.length
        exponentCount := t.exponents.length
        significands := t.significands
        exponents := t.exponents }) ∧
    ∀ (header : Option String) (t' : Table),
      (t'.writeSource header none).received = (t.writeSource header none).received ↔ t' = t := by
  have written (t : Table) (header : Option String) : t.writeSource header none =
      ⟨utf8 (header.elim "" fun text => Text.trim text ++ "\n") ++ utf8 (t.source none), none⟩ := by
    rw [writeSource_none]
    cases header with
    | none => rfl
    | some text => rw [source_some, utf8_append]; rfl
  refine ⟨written t, ?_, fun header t' => ⟨fun same => ?_, fun same => by rw [same]⟩⟩
  · rw [readSource_source, length_significands, length_exponents]
    rfl
  · rw [written, written] at same
    exact eq_of_source (utf8_inj.mp (List.append_cancel_left same))

end Table

end DecimalPowers
