import DecimalPowers.Proofs.Json.Nested

/-!
Passing over a value in pretty form. The pretty form is a text of the grammar, so the scanner of
nested values takes exactly the value and leaves what follows it.
-/

set_option autoImplicit false
set_option relaxedAutoImplicit false

namespace DecimalPowers.Json

namespace Value

/-- A value whose pretty form is a text of the grammar, whatever follows it. -/
def Written (v : Value) : Prop :=
  ∀ (level : ℕ) (rest : List Char), EndsNumber rest → Writes .value (v.text level ++ rest) rest

/-- A value whose pretty form is passed over inside any brackets, whatever blanks stand before it
and whatever follows it. -/
def SkipsOver (v : Value) : Prop :=
  ∀ (level : ℕ) (outer : List Bracket) (s rest : List Char), EndsNumber rest →
    skipSpace s = v.text level ++ rest →
    skipNested .value outer s = skipNested .after outer rest

variable {v : Value} {items : List Value} {members : List (String × Value)}

private theorem written_integer (x : ℤ) : (Value.integer x).Written := by
  intro level rest separated
  rw [text_integer]
  exact .number (isNumber_signed x) separated

private theorem writes_items (first : v.Written) (each : ∀ item ∈ items, item.Written) (level : ℕ)
    (rest : List Char) :
    Writes .items (indent (level + 1) ++ (v.text (level + 1) ++ (itemsText level items ++ rest)))
      rest := by
  induction items generalizing v with
  | nil =>
    refine .lastItem (.indent _ _) (first _ _ (endsNumber_itemsText level [] rest)) ?_
    rw [itemsText_nil, List.append_assoc]
    exact .indent level _
  | cons item items ih =>
    obtain ⟨next, others⟩ := List.forall_mem_cons.mp each
    have value := first (level + 1) _ (endsNumber_itemsText level (item :: items) rest)
    refine .nextItem (.indent _ _) value ?_ (ih next others)
    rw [itemsText_cons]
    simp only [List.cons_append, List.append_assoc]
    exact .done _

private theorem key_indent {key : String} (plain : IsPlainKey key) (level : ℕ) (rest : List Char) :
    Key key.toList (indent level ++ '"' :: (key.toList ++ '"' :: ':' :: ' ' :: rest)) rest :=
  ⟨.indent _ _, .of_plain plain _, .done _, .cons rfl (.done _)⟩

private theorem writes_members {key : String} (plain : IsPlainKey key) (first : v.Written)
    (keys : ∀ member ∈ members, IsPlainKey member.1) (each : ∀ member ∈ members, member.2.Written)
    (level : ℕ) (rest : List Char) :
    Writes .members (indent (level + 1) ++ '"' :: (key.toList ++ '"' :: ':' :: ' ' ::
      (v.text (level + 1) ++ (membersText level members ++ rest)))) rest := by
  induction members generalizing key v with
  | nil =>
    refine .lastMember (key_indent plain _ _) (first _ _ (endsNumber_membersText level [] rest)) ?_
    rw [membersText_nil, List.append_assoc]
    exact .indent level _
  | cons member members ih =>
    obtain ⟨plain_next, plain_others⟩ := List.forall_mem_cons.mp keys
    obtain ⟨next, others⟩ := List.forall_mem_cons.mp each
    have value := first (level + 1) _ (endsNumber_membersText level (member :: members) rest)
    refine .nextMember (key_indent plain _ _) value ?_ (ih plain_next next plain_others others)
    rw [membersText_cons level member.1 member.2]
    simp only [List.cons_append, List.append_assoc]
    exact .done _

private theorem written_array (each : ∀ item ∈ items, item.Written) :
    (Value.array items).Written := by
  intro level rest _
  cases items with
  | nil =>
    rw [text_array_nil]
    exact .emptyList (.done _)
  | cons item items =>
    obtain ⟨first, others⟩ := List.forall_mem_cons.mp each
    rw [text_array_cons]
    simp only [List.cons_append, List.append_assoc]
    exact .list (writes_items first others level rest)

private theorem written_object (keys : ∀ member ∈ members, IsPlainKey member.1)
    (each : ∀ member ∈ members, member.2.Written) : (Value.object members).Written := by
  intro level rest _
  cases members with
  | nil =>
    rw [text_object_nil]
    exact .emptyObject (.done _)
  | cons member members =>
    obtain ⟨plain, plain_others⟩ := List.forall_mem_cons.mp keys
    obtain ⟨first, others⟩ := List.forall_mem_cons.mp each
    rw [text_object_cons level member.1 member.2]
    simp only [List.cons_append, List.append_assoc]
    exact .object (writes_members plain first plain_others others level rest)

theorem IsPlain.written (h : v.IsPlain) : v.Written := by
  induction h with
  | integer _ => exact written_integer _
  | array _ each => exact written_array each
  | object keys _ each => exact written_object keys each

theorem IsPlain.skipsOver (h : v.IsPlain) : v.SkipsOver := by
  intro level outer s rest separated starts
  exact (h.written level rest separated).skipsOver outer s starts

end Value

theorem skipValue_text {v : Value} (plain : v.IsPlain) {rest : List Char}
    (separated : EndsNumber rest) (level : ℕ) : skipValue (v.text level ++ rest) = .ok rest := by
  rw [skipValue, plain.skipsOver level [] _ rest separated (Value.skipSpace_text level v rest),
    skipNested]

end DecimalPowers.Json
