import DecimalPowers.Proofs.Json.Key

/-!
Passing over any JSON value. The scanner keeps the open brackets in a list; on a text of the grammar
it stops where the value ends, whatever brackets are open around it.
-/

set_option autoImplicit false
set_option relaxedAutoImplicit false

namespace DecimalPowers.Json

section Steps

variable {bracket : Bracket} {outer : List Bracket} {s r k : List Char}

private theorem skipNested_scalar (starts : skipSpace s = k)
    (head : ∃ h, skipHead k = .ok (none, ⟨r, h⟩)) :
    skipNested .value outer s = skipNested .after outer r := by
  subst starts
  obtain ⟨_, scalar⟩ := head
  rw [skipNested, scalar]

private theorem skipNested_opening (bracket : Bracket) (starts : skipSpace s = k)
    (head : ∃ h, skipHead k = .ok (some bracket, ⟨r, h⟩)) :
    skipNested .value outer s = skipNested (.opened bracket) outer r := by
  subst starts
  obtain ⟨_, opening⟩ := head
  rw [skipNested, opening]

private theorem skipNested_opened_cons {c : Char} (starts : skipSpace s = c :: r) :
    skipNested (.opened bracket) outer s =
      if c = bracket.closing then skipNested .after outer r
      else if bracket = .object then
        match skipKey s with
        | .error cause => .error cause
        | .ok ⟨k, _⟩ => skipNested .value (bracket :: outer) k
      else skipNested .value (bracket :: outer) s := by
  conv_lhs => rw [skipNested]
  split
  · next blank =>
    rw [starts] at blank
    cases blank
  · next found =>
    rw [starts] at found
    cases found
    rfl

private theorem skipNested_after_cons {c : Char} (starts : skipSpace s = c :: r) :
    skipNested .after (bracket :: outer) s =
      if c = ',' then
        if bracket = .object then
          match skipKey r with
          | .error cause => .error cause
          | .ok ⟨k, _⟩ => skipNested .value (bracket :: outer) k
        else skipNested .value (bracket :: outer) r
      else if c = bracket.closing then skipNested .after outer r
      else .error (.within bracket.separatorCause (c :: r)) := by
  conv_lhs => rw [skipNested]
  split
  · next blank =>
    rw [starts] at blank
    cases blank
  · next found =>
    rw [starts] at found
    cases found
    rfl

private theorem skipNested_empty (closed : skipSpace s = bracket.closing :: r) :
    skipNested (.opened bracket) outer s = skipNested .after outer r := by
  rw [skipNested_opened_cons closed, if_pos rfl]

private theorem skipNested_closing (closed : skipSpace s = bracket.closing :: r) :
    skipNested .after (bracket :: outer) s = skipNested .after outer r := by
  have comma : bracket.closing ≠ ',' := by cases bracket <;> decide
  rw [skipNested_after_cons closed, if_neg comma, if_pos rfl]

private theorem skipNested_first_item {c : Char} (starts : skipSpace s = c :: r)
    (inside : c ≠ Bracket.list.closing) :
    skipNested (.opened .list) outer s = skipNested .value (.list :: outer) s := by
  rw [skipNested_opened_cons starts, if_neg inside, if_neg (by decide)]

private theorem skipNested_next_item (starts : skipSpace s = ',' :: r) :
    skipNested .after (.list :: outer) s = skipNested .value (.list :: outer) r := by
  rw [skipNested_after_cons starts, if_pos rfl, if_neg (by decide)]

private theorem skipNested_first_member {h : k.length < s.length} (starts : skipSpace s = '"' :: r)
    (key : skipKey s = .ok ⟨k, h⟩) :
    skipNested (.opened .object) outer s = skipNested .value (.object :: outer) k := by
  rw [skipNested_opened_cons starts, if_neg (by decide), if_pos rfl, key]

private theorem skipNested_next_member {h : k.length < r.length} (starts : skipSpace s = ',' :: r)
    (key : skipKey r = .ok ⟨k, h⟩) :
    skipNested .after (.object :: outer) s = skipNested .value (.object :: outer) k := by
  rw [skipNested_after_cons starts, if_pos rfl, if_pos rfl, key]

end Steps

section Parts

variable {s t u r : List Char}

theorem IsNumber.exists_cons (h : IsNumber s) :
    ∃ c t, s = c :: t ∧ (isDigit c = true ∨ c = '-') := by
  cases h with
  | mk signed whole _ _ =>
    obtain ⟨c, ds, rfl, digit⟩ := whole.exists_cons
    rcases signed with rfl | rfl
    · exact ⟨_, _, rfl, .inl digit⟩
    · exact ⟨_, _, rfl, .inr rfl⟩

private theorem visible_of_isDigit {c : Char} (h : isDigit c = true) :
    isSpace c = false ∧ c ≠ ']' := by
  constructor
  · rw [Bool.eq_false_iff]
    intro blank
    simp only [isSpace, Bool.or_eq_true, decide_eq_true_eq] at blank
    rcases blank with ((rfl | rfl) | rfl) | rfl <;> cases h
  · rintro rfl
    cases h

theorem Writes.exists_cons (h : Writes .value s r) :
    ∃ c t, s = c :: t ∧ isSpace c = false ∧ c ≠ ']' := by
  cases h with
  | number number _ =>
    obtain ⟨c, t, rfl, digit | rfl⟩ := number.exists_cons
    · exact ⟨c, _, rfl, visible_of_isDigit digit⟩
    · exact ⟨_, _, rfl, rfl, by decide⟩
  | _ => exact ⟨_, _, rfl, rfl, by decide⟩

theorem Writes.skipSpace_eq {s₀ : List Char} (h : Writes .value s r) (blanks : Blanks s₀ s) :
    skipSpace s₀ = s := by
  obtain ⟨c, t, rfl, visible, -⟩ := h.exists_cons
  exact blanks.skipSpace_cons visible

end Parts

/-- What the scanner of nested values does with a form, inside any open brackets. -/
def SkipsOver : Form → List Char → List Char → Prop
  | .value, s, r => ∀ (outer : List Bracket) (s₀ : List Char), skipSpace s₀ = s →
      skipNested .value outer s₀ = skipNested .after outer r
  | .items, s, r => (∃ c t, skipSpace s = c :: t ∧ c ≠ ']') ∧ ∀ outer : List Bracket,
      skipNested .value (.list :: outer) s = skipNested .after outer r
  | .members, s, r => ∃ k t h, skipSpace s = '"' :: t ∧ skipKey s = .ok ⟨k, h⟩ ∧
      ∀ outer : List Bracket,
        skipNested .value (.object :: outer) k = skipNested .after outer r

theorem Writes.skipsOver {form : Form} {s r : List Char} (h : Writes form s r) :
    SkipsOver form s r := by
  induction h with
  | null r => exact fun outer s₀ starts => skipNested_scalar starts ⟨_, rfl⟩
  | yes r => exact fun outer s₀ starts => skipNested_scalar starts ⟨_, rfl⟩
  | no r => exact fun outer s₀ starts => skipNested_scalar starts ⟨_, rfl⟩
  | number number stops =>
    exact fun outer s₀ starts => skipNested_scalar starts (number.skipHead stops)
  | string spelled =>
    intro outer s₀ starts
    obtain ⟨h, skipped⟩ := spelled.skip
    apply skipNested_scalar starts
    refine ⟨Nat.lt_succ_of_lt h, ?_⟩
    rw [skipHead, skipped]
    rfl
  | emptyList closed =>
    intro outer s₀ starts
    rw [skipNested_opening .list starts ⟨_, rfl⟩]
    exact skipNested_empty (closed.skipSpace_cons rfl)
  | list _ ih =>
    intro outer s₀ starts
    obtain ⟨⟨c, t, first, inside⟩, skips⟩ := ih
    rw [skipNested_opening .list starts ⟨_, rfl⟩, skipNested_first_item first inside]
    exact skips outer
  | emptyObject closed =>
    intro outer s₀ starts
    rw [skipNested_opening .object starts ⟨_, rfl⟩]
    exact skipNested_empty (closed.skipSpace_cons rfl)
  | object _ ih =>
    intro outer s₀ starts
    obtain ⟨k, t, _, quote, key, skips⟩ := ih
    rw [skipNested_opening .object starts ⟨_, rfl⟩, skipNested_first_member quote key]
    exact skips outer
  | lastItem blanks value closed ih =>
    have starts := value.skipSpace_eq blanks
    obtain ⟨c, v, rfl, -, inside⟩ := value.exists_cons
    refine ⟨⟨c, v, starts, inside⟩, fun outer => ?_⟩
    rw [ih _ _ starts]
    exact skipNested_closing (closed.skipSpace_cons rfl)
  | nextItem blanks value comma _ ih ih_rest =>
    have starts := value.skipSpace_eq blanks
    obtain ⟨c, v, rfl, -, inside⟩ := value.exists_cons
    refine ⟨⟨c, v, starts, inside⟩, fun outer => ?_⟩
    rw [ih _ _ starts, skipNested_next_item (comma.skipSpace_cons rfl)]
    exact ih_rest.2 outer
  | lastMember key value closed ih =>
    obtain ⟨k, t, h, quote, passed, starts⟩ := key.skip
    refine ⟨k, t, h, quote, passed, fun outer => ?_⟩
    rw [ih _ _ (starts.trans (value.skipSpace_eq (.done _)))]
    exact skipNested_closing (closed.skipSpace_cons rfl)
  | nextMember key value comma _ ih ih_rest =>
    obtain ⟨k, t, h, quote, passed, starts⟩ := key.skip
    obtain ⟨k', t', _, -, passed', skips⟩ := ih_rest
    refine ⟨k, t, h, quote, passed, fun outer => ?_⟩
    rw [ih _ _ (starts.trans (value.skipSpace_eq (.done _))),
      skipNested_next_member (comma.skipSpace_cons rfl) passed']
    exact skips outer

/-- A value of any depth is passed over, and nothing more. -/
theorem Writes.skipValue {s s₀ r : List Char} (h : Writes .value s r) (blanks : Blanks s₀ s) :
    skipValue s₀ = .ok r := by
  rw [Json.skipValue, h.skipsOver [] s₀ (h.skipSpace_eq blanks), skipNested]

end DecimalPowers.Json
