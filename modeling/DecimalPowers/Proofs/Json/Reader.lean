import DecimalPowers.Proofs.Json.Key

/-!
Reading values of integers, lists and records. `readValue` takes a value from the start of a text
and leaves what follows; it reads the pretty form of a plain value back.
-/

set_option autoImplicit false
set_option relaxedAutoImplicit false

namespace DecimalPowers.Json

mutual

/-- Reads a value. `fuel` bounds the number of values, items and members. -/
def readValue : (fuel : ℕ) → List Char → Except Error (Value × List Char)
  | 0, s => .error (.within .endInValue s)
  | fuel + 1, s =>
    match skipSpace s with
    | '[' :: r => do
      let (items, t) ← readItems fuel true r
      .ok (.array items, t)
    | '\x7b' :: r => do
      let (members, t) ← readPairs fuel true r
      .ok (.object members, t)
    | r => do
      let (found, t) ← readFound r
      match found with
      | .number (.natural n) => .ok (.integer n, t)
      | .number (.negative x) => .ok (.integer x, t)
      | found => .error (.before (.invalidType found "an integer") t)

def readItems : (fuel : ℕ) → (isFirst : Bool) → List Char → Except Error (List Value × List Char)
  | 0, _, s => .error (.within .endInList s)
  | fuel + 1, isFirst, s => do
    match ← nextElement? isFirst s with
    | none => .ok ([], (skipSpace s).drop 1)
    | some r =>
      let (item, t) ← readValue fuel r
      let (items, u) ← readItems fuel false t
      .ok (item :: items, u)

def readPairs : (fuel : ℕ) → (isFirst : Bool) → List Char →
    Except Error (List (String × Value) × List Char)
  | 0, _, s => .error (.within .endInObject s)
  | fuel + 1, isFirst, s => do
    match ← nextKey? isFirst s with
    | none => .ok ([], (skipSpace s).drop 1)
    | some r =>
      let (key, t) ← scanString r
      let colon ← skipColon t.1
      let (value, u) ← readValue fuel colon.1
      let (members, v) ← readPairs fuel false u
      .ok ((String.ofList key, value) :: members, v)

end

section Steps

variable {isFirst : Bool} {fuel : ℕ} {s r t u : List Char}

private theorem readItems_end (h : skipSpace s = ']' :: r) :
    readItems (fuel + 1) isFirst s = .ok ([], r) := by
  have next : nextElement? isFirst s = .ok none := by
    rw [nextElement?, h]
    rfl
  rw [readItems, next, h]
  rfl

private theorem readItems_cons {item : Value} {items : List Value}
    (next : nextElement? isFirst s = .ok (some r)) (first : readValue fuel r = .ok (item, t))
    (others : readItems fuel false t = .ok (items, u)) :
    readItems (fuel + 1) isFirst s = .ok (item :: items, u) := by
  rw [readItems, next]
  simp only [bind, Except.bind, first, others]

private theorem readValue_blank {v : Value × List Char} (h : readValue fuel s = .ok v) :
    readValue fuel (' ' :: s) = .ok v := by
  cases fuel with
  | zero => cases h
  | succ fuel =>
    rw [readValue] at h ⊢
    exact h

private theorem readValue_integer {x : ℤ} (start : skipSpace s = r)
    (found : readFound r = .ok (.number (Number.ofInt x), t)) :
    readValue (fuel + 1) s = .ok (.integer x, t) := by
  rw [readValue, start]
  split
  · next r =>
    have list : readFound ('[' :: r) = .ok (.sequence, '[' :: r) := rfl
    rw [list] at found
    cases found
  · next r =>
    have record : readFound ('\x7b' :: r) = .ok (.map, '\x7b' :: r) := rfl
    rw [record] at found
    cases found
  · unfold Number.ofInt at found
    split at found
    · simp only [bind, Except.bind, found]
    · next nonnegative =>
      have value : (x.toNat : ℤ) = x := by omega
      simp only [bind, Except.bind, found, value]

private theorem readValue_list {items : List Value} (h : readItems fuel true r = .ok (items, t)) :
    readValue (fuel + 1) ('[' :: r) = .ok (.array items, t) := by
  rw [readValue, skipSpace_cons rfl]
  simp only [bind, Except.bind, h]

private theorem readValue_record {members : List (String × Value)}
    (h : readPairs fuel true r = .ok (members, t)) :
    readValue (fuel + 1) ('\x7b' :: r) = .ok (.object members, t) := by
  rw [readValue, skipSpace_cons rfl]
  simp only [bind, Except.bind, h]

private theorem readPairs_end (h : skipSpace s = '\x7d' :: r) :
    readPairs (fuel + 1) isFirst s = .ok ([], r) := by
  have next : nextKey? isFirst s = .ok none := by
    rw [nextKey?, h]
    rfl
  rw [readPairs, next, h]
  rfl

private theorem readPairs_cons {key : String} {value : Value} {members : List (String × Value)}
    (plain : IsPlainKey key)
    (next : nextKey? isFirst s = .ok (some (key.toList ++ '"' :: ':' :: r)))
    (first : readValue fuel r = .ok (value, t))
    (others : readPairs fuel false t = .ok (members, u)) :
    readPairs (fuel + 1) isFirst s = .ok ((key, value) :: members, u) := by
  obtain ⟨_, scanned⟩ := (Spelling.of_plain plain (':' :: r)).scan
  obtain ⟨_, colon⟩ := (Blanks.done (':' :: r)).skipColon
  rw [readPairs, next]
  simp only [bind, Except.bind, scanned, colon, first, others, String.ofList_toList]

end Steps

private theorem nextElement?_first (level : ℕ) (v : Value) (rest : List Char) :
    nextElement? true (Value.indent (level + 1) ++ (v.text (level + 1) ++ rest)) =
      .ok (some (v.text (level + 1) ++ rest)) := by
  obtain ⟨c, s, starts, visible, inside⟩ := Value.exists_text_cons (level + 1) v
  rw [starts, List.cons_append, nextElement?, skipSpace_indent, skipSpace_cons visible]
  simp [inside]

private theorem nextElement?_comma (level : ℕ) (v : Value) (rest : List Char) :
    nextElement? false (',' :: (Value.indent (level + 1) ++ (v.text (level + 1) ++ rest))) =
      .ok (some (v.text (level + 1) ++ rest)) := by
  obtain ⟨c, s, starts, visible, inside⟩ := Value.exists_text_cons (level + 1) v
  have comma := skipSpace_cons (c := ',') rfl
  rw [starts, List.cons_append]
  simp [nextElement?, comma, skipSpace_indent, skipSpace_cons visible, inside]

namespace Value

/-- A value that is read back from its pretty form, whatever follows it. -/
def ReadsBack (v : Value) : Prop :=
  ∀ (level fuel : ℕ) (rest : List Char), EndsNumber rest → (v.text level).length ≤ fuel →
    readValue fuel (v.text level ++ rest) = .ok (v, rest)

variable {items : List Value} {members : List (String × Value)}

private theorem readItems_itemsText (each : ∀ item ∈ items, item.ReadsBack) (level : ℕ) {fuel : ℕ}
    (rest : List Char) (enough : (itemsText level items).length ≤ fuel) :
    readItems fuel false (itemsText level items ++ rest) = .ok (items, rest) := by
  induction items generalizing fuel with
  | nil =>
    rw [itemsText_nil] at enough ⊢
    obtain ⟨fuel, rfl⟩ : ∃ n, fuel = n + 1 := ⟨fuel - 1, by simp at enough; omega⟩
    rw [List.append_assoc]
    apply readItems_end
    rw [skipSpace_indent]
    exact skipSpace_cons rfl _
  | cons item items ih =>
    obtain ⟨first, others⟩ := List.forall_mem_cons.mp each
    rw [itemsText_cons] at enough ⊢
    simp only [List.length_cons, List.length_append] at enough
    obtain ⟨fuel, rfl⟩ : ∃ n, fuel = n + 1 := ⟨fuel - 1, by omega⟩
    -- the comma pays for the call, the text of the item for reading it
    have separated := endsNumber_itemsText level items rest
    simp only [List.cons_append, List.append_assoc]
    apply readItems_cons (nextElement?_comma level item (itemsText level items ++ rest))
    · exact first (level + 1) fuel _ separated (by omega)
    · exact ih others (by omega)

private theorem readPairs_membersText (plain : ∀ member ∈ members, IsPlainKey member.1)
    (each : ∀ member ∈ members, member.2.ReadsBack) (level : ℕ) {fuel : ℕ} (rest : List Char)
    (enough : (membersText level members).length ≤ fuel) :
    readPairs fuel false (membersText level members ++ rest) = .ok (members, rest) := by
  induction members generalizing fuel with
  | nil =>
    rw [membersText_nil] at enough ⊢
    obtain ⟨fuel, rfl⟩ : ∃ n, fuel = n + 1 := ⟨fuel - 1, by simp at enough; omega⟩
    rw [List.append_assoc]
    apply readPairs_end
    rw [skipSpace_indent]
    exact skipSpace_cons rfl _
  | cons member members ih =>
    obtain ⟨key, value⟩ := member
    obtain ⟨first, others⟩ := List.forall_mem_cons.mp each
    change value.ReadsBack at first
    obtain ⟨plain_key, plain⟩ := List.forall_mem_cons.mp plain
    rw [membersText_cons] at enough ⊢
    simp only [List.length_cons, List.length_append] at enough
    obtain ⟨fuel, rfl⟩ : ∃ n, fuel = n + 1 := ⟨fuel - 1, by omega⟩
    have separated := endsNumber_membersText level members rest
    simp only [List.cons_append, List.append_assoc]
    apply readPairs_cons plain_key (nextKey?_of_comma (.done _) (.indent (level + 1) _))
    · exact readValue_blank (first (level + 1) fuel _ separated (by omega))
    · exact ih plain others (by omega)

private theorem readsBack_integer {x : ℤ} (fits : FitsNumber x) : (Value.integer x).ReadsBack := by
  intro level fuel rest separated enough
  obtain ⟨c, s, starts, -⟩ := exists_text_cons level (.integer x)
  obtain ⟨fuel, rfl⟩ : ∃ n, fuel = n + 1 := ⟨fuel - 1, by simp [starts] at enough; omega⟩
  apply readValue_integer (skipSpace_text level (.integer x) rest)
  rw [text_integer]
  exact readFound_signed fits separated

private theorem readsBack_array (each : ∀ item ∈ items, item.ReadsBack) :
    (Value.array items).ReadsBack := by
  intro level fuel rest _ enough
  cases items with
  | nil =>
    rw [text_array_nil] at enough ⊢
    obtain ⟨fuel, rfl⟩ : ∃ n, fuel = n + 2 := ⟨fuel - 2, by simp at enough; omega⟩
    exact readValue_list (readItems_end (skipSpace_cons rfl _))
  | cons item items =>
    obtain ⟨first, others⟩ := List.forall_mem_cons.mp each
    rw [text_array_cons] at enough ⊢
    simp only [List.length_cons, List.length_append, length_indent] at enough
    obtain ⟨fuel, rfl⟩ : ∃ n, fuel = n + 2 := ⟨fuel - 2, by omega⟩
    have separated := endsNumber_itemsText level items rest
    simp only [List.cons_append, List.append_assoc]
    apply readValue_list
    apply readItems_cons (nextElement?_first level item (itemsText level items ++ rest))
    · exact first (level + 1) fuel _ separated (by omega)
    · exact readItems_itemsText others level rest (by omega)

private theorem readsBack_object (keys : ∀ member ∈ members, IsPlainKey member.1)
    (each : ∀ member ∈ members, member.2.ReadsBack) : (Value.object members).ReadsBack := by
  intro level fuel rest _ enough
  cases members with
  | nil =>
    rw [text_object_nil] at enough ⊢
    obtain ⟨fuel, rfl⟩ : ∃ n, fuel = n + 2 := ⟨fuel - 2, by simp at enough; omega⟩
    exact readValue_record (readPairs_end (skipSpace_cons rfl _))
  | cons member members =>
    obtain ⟨key, value⟩ := member
    obtain ⟨first, others⟩ := List.forall_mem_cons.mp each
    obtain ⟨plain, plain_others⟩ := List.forall_mem_cons.mp keys
    change value.ReadsBack at first
    rw [text_object_cons] at enough ⊢
    simp only [List.length_cons, List.length_append] at enough
    obtain ⟨fuel, rfl⟩ : ∃ n, fuel = n + 2 := ⟨fuel - 2, by omega⟩
    have separated := endsNumber_membersText level members rest
    simp only [List.cons_append, List.append_assoc]
    apply readValue_record
    apply readPairs_cons plain (nextKey?_of_first (.indent (level + 1) _))
    · exact readValue_blank (first (level + 1) fuel _ separated (by omega))
    · exact readPairs_membersText plain_others others level rest (by omega)

private theorem IsPlain.readsBack {v : Value} (h : v.IsPlain) : v.ReadsBack := by
  induction h with
  | integer fits => exact readsBack_integer fits
  | array _ each => exact readsBack_array each
  | object keys _ each => exact readsBack_object keys each

end Value

/-- Reads a value and leaves what follows it. No value has more parts than characters. -/
def readText (s : List Char) : Except Error (Value × List Char) := readValue s.length s

theorem readText_text {v : Value} (plain : v.IsPlain) {rest : List Char}
    (separated : EndsNumber rest) (level : ℕ) :
    readText (v.text level ++ rest) = .ok (v, rest) := by
  have enough : (v.text level).length ≤ (v.text level ++ rest).length := by
    rw [List.length_append]
    omega
  exact plain.readsBack level _ rest separated enough

end DecimalPowers.Json
