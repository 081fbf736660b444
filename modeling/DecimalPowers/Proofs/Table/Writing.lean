import DecimalPowers.Proofs.Sink.Delivery
import DecimalPowers.Table.Document
import DecimalPowers.Table.Source

/-!
Writing a table to a sink of limited room. The sink keeps the first bytes of the text that a sink
without limit receives; the writer fails exactly when the text does not fit. For a document the
stage of the failure tells whether only the newline at the end is missing.
-/

set_option autoImplicit false
set_option relaxedAutoImplicit false

namespace DecimalPowers.Table

theorem writeSource_none (t : Table) (header : Option String) :
    t.writeSource header none = ⟨utf8 (t.source header), none⟩ := by
  rw [writeSource, Delivery.deliver_none]
  rfl

private theorem writeSource_some (t : Table) (header : Option String) (room : ℕ) :
    t.writeSource header (some room) =
      ⟨(utf8 (t.source header)).take room,
        if (utf8 (t.source header)).length ≤ room then none else some .plain⟩ := by
  rw [writeSource, Delivery.deliver_some, ← source]
  by_cases fits : (utf8 (t.source header)).length ≤ room
  · simp only [fits, decide_true, if_true]
  · simp only [fits, decide_false, if_false, Bool.false_eq_true]

private theorem utf8_document (t : Table) :
    utf8 t.document = utf8 (String.join (t.toJson.pretty 0)) ++ utf8 "\n" :=
  utf8_append _ _

private theorem length_utf8_document (t : Table) :
    (utf8 t.document).length = (utf8 (String.join (t.toJson.pretty 0))).length + 1 := by
  rw [utf8_document, List.length_append]
  rfl

theorem writeDocument_none (t : Table) : t.writeDocument none = ⟨utf8 t.document, none⟩ := by
  rw [writeDocument, Delivery.deliver_none, utf8_document]
  rfl

/-- The newline is written to the room that the value leaves. -/
theorem writeDocument_some (t : Table) (room : ℕ) :
    t.writeDocument (some room) =
      ⟨(utf8 t.document).take room,
        if (utf8 t.document).length ≤ room then none
        else if (utf8 t.document).length = room + 1 then some .plain
        else some .document⟩ := by
  rw [writeDocument, Delivery.deliver_some, length_utf8_document, utf8_document]
  generalize utf8 (String.join (t.toJson.pretty 0)) = value
  by_cases fits : value.length ≤ room
  · have whole : value.take room = value := List.take_of_length_le fits
    have cut : (value ++ utf8 "\n").take room =
        value ++ (utf8 "\n").take (room - value.length) := by
      rw [List.take_append, whole]
    have newline : (utf8 "\n").length = 1 := rfl
    simp only [fits, decide_true, if_true, Option.map_some, whole, cut, Delivery.deliver_some,
      String.join_cons, String.join_nil, String.append_empty, newline]
    by_cases more : 1 ≤ room - value.length
    · have all : value.length + 1 ≤ room := by omega
      simp only [more, all, decide_true, if_true]
    · have full : value.length + 1 = room + 1 := by omega
      have exceeds : ¬ room + 1 ≤ room := by omega
      simp only [more, exceeds, full, decide_false, if_true, if_false, Bool.false_eq_true]
  · have cut : (value ++ utf8 "\n").take room = value.take room :=
      List.take_append_of_le_length (by omega)
    have exceeds : ¬ value.length + 1 ≤ room := by omega
    have more : ¬ value.length + 1 = room + 1 := by omega
    simp only [fits, exceeds, more, cut, decide_false, if_false, Bool.false_eq_true]

/-- A sink with room for some bytes keeps that many bytes of the text that an unlimited sink
receives, and writing succeeds exactly when that is all of it. Source text fails at its plain text;
a document fails at its value, or at the newline after it when only that one byte does not fit. -/
theorem write_bounded (t : Table) (header : Option String) (room : ℕ) :
    (t.writeSource header none = ⟨utf8 (t.source header), none⟩ ∧
      (t.writeSource header (some room)).received = (utf8 (t.source header)).take room ∧
      ((t.writeSource header (some room)).failure = none ↔
        (utf8 (t.source header)).length ≤ room) ∧
      ((t.writeSource header (some room)).failure = some .plain ↔
        room < (utf8 (t.source header)).length)) ∧
    t.writeDocument none = ⟨utf8 t.document, none⟩ ∧
    (t.writeDocument (some room)).received = (utf8 t.document).take room ∧
    ((t.writeDocument (some room)).failure = none ↔ (utf8 t.document).length ≤ room) ∧
    ((t.writeDocument (some room)).failure = some .document ↔
      room + 1 < (utf8 t.document).length) ∧
    ((t.writeDocument (some room)).failure = some .plain ↔
      room + 1 = (utf8 t.document).length) := by
  constructor
  · refine ⟨t.writeSource_none header, ?_⟩
    rw [writeSource_some]
    generalize utf8 (t.source header) = text
    by_cases fits : text.length ≤ room
    · have within : ¬ room < text.length := by omega
      simp [fits, within]
    · have exceeds : room < text.length := by omega
      simp [fits, exceeds]
  · refine ⟨t.writeDocument_none, ?_⟩
    rw [writeDocument_some]
    generalize utf8 t.document = text
    by_cases fits : text.length ≤ room
    · have inside : ¬ room + 1 < text.length := by omega
      have apart : ¬ room + 1 = text.length := by omega
      simp [fits, inside, apart]
    · by_cases last : text.length = room + 1
      · simp [last]
      · have inside : room + 1 < text.length := by omega
        have apart : ¬ room + 1 = text.length := by omega
        simp [fits, last, inside, apart]

end DecimalPowers.Table
