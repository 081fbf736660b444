import DecimalPowers.Json.Value
import DecimalPowers.Proofs.Json.Grammar

/-!
The pretty form of a value as one text. Every element stands on a line of its own, and what follows
a value in it is a comma or a new line, so that a number ends there.
-/

set_option autoImplicit false
set_option relaxedAutoImplicit false

namespace DecimalPowers.Json

/-- A key that stands between its quotes as it is, without an escape. -/
def IsPlainKey (key : String) : Prop :=
  ∀ c ∈ key.toList, c ≠ '"' ∧ c ≠ '\\' ∧ 0x20 ≤ c.toNat

instance (key : String) : Decidable (IsPlainKey key) :=
  List.decidableBAll _ key.toList

namespace Value

/-- A value whose integers have at most 64 bits and whose keys need no escape. -/
inductive IsPlain : Value → Prop
  | integer {x : ℤ} : FitsNumber x → IsPlain (.integer x)
  | array {items : List Value} : (∀ item ∈ items, IsPlain item) → IsPlain (.array items)
  | object {members : List (String × Value)} : (∀ member ∈ members, IsPlainKey member.1) →
      (∀ member ∈ members, IsPlain member.2) → IsPlain (.object members)

def indent (level : ℕ) : List Char := '\n' :: List.replicate (2 * level) ' '

theorem length_indent (level : ℕ) : (indent level).length = 2 * level + 1 := by
  simp [indent]

def text (level : ℕ) (v : Value) : List Char := (String.join (v.pretty level)).toList

def itemsText (level : ℕ) (items : List Value) : List Char :=
  (String.join (prettyItems level items)).toList

def membersText (level : ℕ) (members : List (String × Value)) : List Char :=
  (String.join (prettyMembers level members)).toList

section Layout

variable (level : ℕ) (key : String) (v : Value) (items : List Value)
  (members : List (String × Value))

private theorem toList_newLine : (newLine level).toList = indent level := by
  simp [newLine, indent]

theorem toList_quotedKey : (quotedKey key).toList = '"' :: (key.toList ++ ['"']) := by
  simp [quotedKey]

theorem text_integer (x : ℤ) : text level (.integer x) = (Text.signed x).toList := by
  rw [text, pretty, String.join_cons, String.join_nil, String.append_empty]

theorem text_array_nil : text level (.array []) = ['[', ']'] := by
  simp [text, pretty]

theorem text_object_nil : text level (.object []) = ['\x7b', '\x7d'] := by
  simp [text, pretty]

theorem text_array_cons : text level (.array (v :: items)) =
    '[' :: (indent (level + 1) ++ (v.text (level + 1) ++ itemsText level items)) := by
  simp [text, itemsText, pretty, toList_newLine]

theorem text_object_cons : text level (.object ((key, v) :: members)) =
    '\x7b' :: (indent (level + 1) ++ ('"' :: (key.toList ++ ('"' :: ':' :: ' ' ::
      (v.text (level + 1) ++ membersText level members))))) := by
  simp [text, membersText, pretty, toList_newLine, toList_quotedKey]

theorem itemsText_nil : itemsText level [] = indent level ++ [']'] := by
  simp [itemsText, prettyItems, toList_newLine]

theorem itemsText_cons : itemsText level (v :: items) =
    ',' :: (indent (level + 1) ++ (v.text (level + 1) ++ itemsText level items)) := by
  simp [text, itemsText, prettyItems, toList_newLine]

theorem membersText_nil : membersText level [] = indent level ++ ['\x7d'] := by
  simp [membersText, prettyMembers, toList_newLine]

theorem membersText_cons : membersText level ((key, v) :: members) =
    ',' :: (indent (level + 1) ++ ('"' :: (key.toList ++ ('"' :: ':' :: ' ' ::
      (v.text (level + 1) ++ membersText level members))))) := by
  simp [text, membersText, prettyMembers, toList_newLine, toList_quotedKey]

end Layout

theorem exists_text_cons (level : ℕ) (v : Value) :
    ∃ c s, v.text level = c :: s ∧ isSpace c = false ∧ c ≠ ']' := by
  cases v with
  | integer x =>
    rcases Int.lt_or_le x 0 with negative | nonnegative
    · rw [text_integer, Text.toList_signed_of_neg negative]
      exact ⟨'-', _, rfl, rfl, by decide⟩
    · obtain ⟨c, s, starts, digit⟩ := exists_toDigits_cons x.natAbs
      rw [text_integer, Text.toList_signed_of_nonneg nonnegative]
      refine ⟨c, s, starts, Bool.eq_false_iff.mpr ?_, ?_⟩
      · rintro blank
        simp only [isSpace, Bool.or_eq_true, decide_eq_true_eq] at blank
        rcases blank with ((rfl | rfl) | rfl) | rfl <;> exact absurd digit (by decide)
      · rintro rfl
        exact absurd digit (by decide)
  | array items =>
    cases items with
    | nil => exact ⟨'[', _, text_array_nil level, rfl, by decide⟩
    | cons item items => exact ⟨'[', _, text_array_cons level item items, rfl, by decide⟩
  | object members =>
    cases members with
    | nil => exact ⟨'\x7b', _, text_object_nil level, rfl, by decide⟩
    | cons member members =>
      exact ⟨'\x7b', _, text_object_cons level member.1 member.2 members, rfl, by decide⟩

theorem endsNumber_newLine (s : List Char) : EndsNumber ('\n' :: s) := by
  rintro c ⟨⟩
  decide

theorem endsNumber_itemsText (level : ℕ) (items : List Value) (rest : List Char) :
    EndsNumber (itemsText level items ++ rest) := by
  cases items with
  | nil =>
    rw [itemsText_nil]
    exact endsNumber_newLine _
  | cons item items =>
    rw [itemsText_cons]
    rintro c ⟨⟩
    decide

theorem endsNumber_membersText (level : ℕ) (members : List (String × Value)) (rest : List Char) :
    EndsNumber (membersText level members ++ rest) := by
  cases members with
  | nil =>
    rw [membersText_nil]
    exact endsNumber_newLine _
  | cons member members =>
    rw [membersText_cons level member.1 member.2]
    rintro c ⟨⟩
    decide

end Value

theorem Blanks.indent (level : ℕ) (s : List Char) : Blanks (Value.indent level ++ s) s := by
  apply Blanks.of_all
  intro c hc
  rcases List.mem_cons.mp hc with rfl | hc
  · rfl
  · rw [List.eq_of_mem_replicate hc]
    rfl

theorem skipSpace_indent (level : ℕ) (s : List Char) :
    skipSpace (Value.indent level ++ s) = skipSpace s :=
  (Blanks.indent level s).skipSpace_eq

theorem Value.skipSpace_text (level : ℕ) (v : Value) (rest : List Char) :
    skipSpace (v.text level ++ rest) = v.text level ++ rest := by
  obtain ⟨c, s, starts, visible, -⟩ := exists_text_cons level v
  rw [starts]
  exact skipSpace_cons visible _

end DecimalPowers.Json
