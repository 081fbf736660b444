import DecimalPowers.Json.Record
import DecimalPowers.Proofs.Json.Pretty

/-!
Keys in JSON text. A key is passed over with its colon, up to the blanks in front of its value, and
the reader of a record finds it at the start of the record and after a comma. A key of plain
characters is spelled as it stands between its quotes.
-/

set_option autoImplicit false
set_option relaxedAutoImplicit false

namespace DecimalPowers.Json

theorem Spelling.of_plain {key : String} (plain : IsPlainKey key) (r : List Char) :
    Spelling key.toList (key.toList ++ '"' :: r) r := by
  unfold IsPlainKey at plain
  generalize key.toList = cs at plain
  induction cs with
  | nil => exact .close r
  | cons c cs ih =>
    obtain ⟨⟨quote, backslash, printable⟩, others⟩ := List.forall_mem_cons.mp plain
    exact .plain quote backslash printable (ih others)

section Skip

variable {s r : List Char}

theorem Blanks.skipColon (h : Blanks s (':' :: r)) : ∃ h, skipColon s = .ok ⟨r, h⟩ := by
  have starts := h.skipSpace_cons rfl
  unfold Json.skipColon
  split
  · next blank =>
    rw [starts] at blank
    cases blank
  · next c t found =>
    rw [starts] at found
    cases found
    exact ⟨length_lt_of_skipSpace starts, if_pos rfl⟩

theorem Key.skip {key : List Char} (h : Key key s r) :
    ∃ k t h, skipSpace s = '"' :: t ∧ skipKey s = .ok ⟨k, h⟩ ∧ skipSpace k = skipSpace r := by
  obtain ⟨before, spelled, colon, after⟩ := h
  have starts := before.skipSpace_cons rfl
  obtain ⟨h, skipped⟩ := spelled.skip
  obtain ⟨h', passed⟩ := colon.skipColon
  have shorter := (h'.trans h).trans (length_lt_of_skipSpace starts)
  refine ⟨_, _, shorter, starts, ?_, after.skipSpace_eq⟩
  unfold skipKey
  split
  · next blank =>
    rw [starts] at blank
    cases blank
  · next c t found =>
    rw [starts] at found
    cases found
    simp only [if_true, skipped, passed, bind, Except.bind]
    rfl

end Skip

section NextKey

variable {s t r : List Char}

theorem nextKey?_of_first (quote : Blanks s ('"' :: r)) : nextKey? true s = .ok (some r) := by
  rw [nextKey?, quote.skipSpace_cons rfl]
  rfl

theorem nextKey?_of_comma (comma : Blanks t (',' :: s)) (quote : Blanks s ('"' :: r)) :
    nextKey? false t = .ok (some r) := by
  have follows := quote.skipSpace_cons rfl
  rw [nextKey?, comma.skipSpace_cons rfl]
  simp [follows]

theorem nextKey?_of_closing {isFirst : Bool} (closed : Blanks s ('\x7d' :: r)) :
    nextKey? isFirst s = .ok none := by
  rw [nextKey?, closed.skipSpace_cons rfl]
  rfl

end NextKey

end DecimalPowers.Json
