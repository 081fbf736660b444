import DecimalPowers.Proofs.Declaration.Bound
import DecimalPowers.Proofs.Declaration.Visibility

/-!
The grammar of declarations. Reading accepts exactly the tokens that spell a declaration, and gives
the declaration that they spell. All other tokens are refused, and only a bound of two minus signs
and `2 ^ 31` makes a negation overflow, when all before it can be read.
-/

set_option autoImplicit false
set_option relaxedAutoImplicit false

namespace DecimalPowers.Declaration

inductive WidthSpelling : Option ℕ → List Token → Prop
  | nothing : WidthSpelling none []
  | comma (joint : Bool) : WidthSpelling none [.punct ',' joint]
  | bits {n : ℕ} {literal : List Token} (comma equals : Bool) : n < UInt32.size →
      LiteralSpelling n 0 literal →
      WidthSpelling (some n) (.punct ',' comma :: .word "bits" :: .punct '=' equals :: literal)

/-- The tokens of a declaration. -/
inductive Spelling : Declaration → List Token → Prop
  | mk {visibility : Visibility} {name : Ident} {minExp maxExp : ℤ} {bits : Option ℕ}
      {visible low high ending : List Token} (first second : Bool) :
      VisibilitySpelling visibility [] visible → name.isKeyword = false →
      BoundSpelling minExp low → BoundSpelling maxExp high → WidthSpelling bits ending →
      Spelling ⟨visibility, name, minExp, maxExp, bits⟩
        (visible ++ .ident name :: .punct ',' first ::
          (low ++ .punct ',' second :: (high ++ ending)))

/-- Tokens of which the first or the second bound is two minus signs and a literal of `2 ^ 31`. What
stands before it is as in a declaration, except that a path between parentheses may be followed by
other tokens. -/
inductive ReachesOverflow : List Token → Prop
  | low {visibility : Visibility} {extra visible bound : List Token} {name : Ident} (first : Bool)
      (rest : List Token) :
      VisibilitySpelling visibility extra visible → name.isKeyword = false →
      LiteralSpelling (2 ^ 31) 2 bound →
      ReachesOverflow (visible ++ .ident name :: .punct ',' first :: (bound ++ rest))
  | high {visibility : Visibility} {extra visible low bound : List Token} {name : Ident}
      {minExp : ℤ} (first second : Bool) (rest : List Token) :
      VisibilitySpelling visibility extra visible → name.isKeyword = false →
      BoundSpelling minExp low → LiteralSpelling (2 ^ 31) 2 bound →
      ReachesOverflow (visible ++ .ident name :: .punct ',' first ::
        (low ++ .punct ',' second :: (bound ++ rest)))

variable {tokens rest : List Token}

section Parts

private theorem readMark_punct (mark : Char) (joint : Bool) (rest : List Token) :
    readMark mark (.punct mark joint :: rest) = .ok rest := if_pos rfl

private theorem readMark_eq_ok_iff {mark : Char} :
    readMark mark tokens = .ok rest ↔ ∃ joint, tokens = .punct mark joint :: rest := by
  constructor
  · intro h
    unfold readMark at h
    split at h
    · split at h
      · next same =>
        cases h
        exact ⟨_, by rw [same]⟩
      · cases h
    · cases h
  · rintro ⟨joint, rfl⟩
    exact readMark_punct mark joint rest

private theorem readMark_ne_negationOverflow {mark : Char} :
    readMark mark tokens ≠ .error .negationOverflow := by
  unfold readMark
  split
  · split_ifs <;> nofun
  · nofun

private theorem readIdentifier_ident {name : Ident} (regular : name.isKeyword = false)
    (rest : List Token) : readIdentifier (.ident name :: rest) = .ok (name, rest) := by
  rw [readIdentifier, regular]
  rfl

private theorem readIdentifier_eq_ok_iff {name : Ident} :
    readIdentifier tokens = .ok (name, rest) ↔
      name.isKeyword = false ∧ tokens = .ident name :: rest := by
  constructor
  · intro h
    unfold readIdentifier at h
    split at h
    · split at h
      · cases h
      · next regular =>
        cases h
        exact ⟨eq_false_of_ne_true regular, rfl⟩
    · cases h
    · cases h
  · rintro ⟨regular, rfl⟩
    exact readIdentifier_ident regular rest

private theorem readIdentifier_ne_negationOverflow :
    readIdentifier tokens ≠ .error .negationOverflow := by
  unfold readIdentifier
  split
  · split_ifs <;> nofun
  · nofun
  · nofun

private theorem readWidth_eq_ok_iff {bits : Option ℕ} :
    readWidth tokens = .ok (bits, []) ↔ WidthSpelling bits tokens := by
  constructor
  · intro h
    unfold readWidth at h
    split at h
    · cases h
      exact .comma _
    · obtain ⟨⟨key, after⟩, named, keyed⟩ := bind_eq_ok_iff.mp h
      obtain ⟨-, rfl⟩ := readIdentifier_eq_ok_iff.mp named
      dsimp only at keyed
      split at keyed
      · next same =>
        obtain ⟨after, equals, valued⟩ := bind_eq_ok_iff.mp keyed
        obtain ⟨joint, rfl⟩ := readMark_eq_ok_iff.mp equals
        obtain ⟨⟨n, after⟩, literal, done⟩ := bind_eq_ok_iff.mp valued
        cases done
        obtain ⟨small, text, spelled, rfl⟩ := readUnsigned_eq_ok_iff.mp literal
        rw [ident_eq_of_text (by decide) same, List.append_nil]
        exact .bits _ joint small spelled
      · cases keyed
    · cases h
      exact .nothing
  · rintro (_ | joint | ⟨comma, equals, small, spelled⟩)
    · rfl
    · rfl
    · have key (after : List Token) :
          readIdentifier (.word "bits" :: after) = .ok ({ name := "bits" }, after) :=
        readIdentifier_ident (by decide) after
      have number := readUnsigned_eq_ok_iff.mpr ⟨small, _, spelled, (List.append_nil _).symm⟩
      simp [readWidth, key, readMark_punct, number, Ident.text, bind, Except.bind]

private theorem readWidth_ne_negationOverflow : readWidth tokens ≠ .error .negationOverflow := by
  unfold readWidth
  split
  · nofun
  · refine bind_ne_error readIdentifier_ne_negationOverflow fun ⟨key, after⟩ => ?_
    dsimp only
    split_ifs
    · refine bind_ne_error readMark_ne_negationOverflow fun after => ?_
      exact bind_ne_error readUnsigned_ne_negationOverflow nofun
    · nofun
  · nofun

end Parts

section Whole

variable {visibility : Visibility} {extra : List Token} {name : Ident}

private theorem exists_opening {named marked : List Token}
    (visible : readVisibility tokens = .ok ((visibility, extra), named))
    (identifier : readIdentifier named = .ok (name, marked))
    (comma : readMark ',' marked = .ok rest) :
    ∃ visible first, VisibilitySpelling visibility extra visible ∧ name.isKeyword = false ∧
      tokens = visible ++ .ident name :: .punct ',' first :: rest := by
  obtain ⟨regular, rfl⟩ := readIdentifier_eq_ok_iff.mp identifier
  obtain ⟨first, rfl⟩ := readMark_eq_ok_iff.mp comma
  obtain ⟨text, shown, rfl⟩ := exists_visibilitySpelling visible
  exact ⟨text, first, shown, regular, rfl⟩

private theorem ofTokens_eq_ok_iff {d : Declaration} :
    ofTokens tokens = .ok d ↔ d.Spelling tokens := by
  constructor
  · intro h
    obtain ⟨⟨⟨visibility, extra⟩, named⟩, visible, h⟩ := bind_eq_ok_iff.mp h
    obtain ⟨⟨name, marked⟩, identifier, h⟩ := bind_eq_ok_iff.mp h
    obtain ⟨bounds, comma, h⟩ := bind_eq_ok_iff.mp h
    obtain ⟨⟨minExp, separated⟩, low, h⟩ := bind_eq_ok_iff.mp h
    obtain ⟨bounded, separator, h⟩ := bind_eq_ok_iff.mp h
    obtain ⟨⟨maxExp, ended⟩, high, h⟩ := bind_eq_ok_iff.mp h
    obtain ⟨⟨bits, left⟩, width, h⟩ := bind_eq_ok_iff.mp h
    -- tokens that are left over anywhere are refused at the end
    dsimp only at h
    cases extra with
    | cons token extra => cases h
    | nil =>
      cases left with
      | cons token left => cases h
      | nil =>
        cases h
        obtain ⟨visible, first, shown, regular, rfl⟩ := exists_opening visible identifier comma
        obtain ⟨lowText, lowSpelled, rfl⟩ := exists_boundSpelling low
        obtain ⟨second, rfl⟩ := readMark_eq_ok_iff.mp separator
        obtain ⟨highText, highSpelled, rfl⟩ := exists_boundSpelling high
        exact .mk first second shown regular lowSpelled highSpelled (readWidth_eq_ok_iff.mp width)
  · rintro ⟨first, second, shown, regular, low, high, ending⟩
    have width := readWidth_eq_ok_iff.mpr ending
    simp [ofTokens, readVisibility_append shown regular, readIdentifier_ident regular,
      readMark_punct, readBound_append low, readBound_append high, width, bind, Except.bind]

private theorem ofTokens_eq_overflow_iff :
    ofTokens tokens = .error .negationOverflow ↔ ReachesOverflow tokens := by
  constructor
  · intro h
    -- only the bounds can overflow, so every other step has been passed
    rcases bind_eq_error_iff.mp h with failed | ⟨⟨⟨visibility, extra⟩, named⟩, visible, h⟩
    · exact absurd failed readVisibility_ne_negationOverflow
    rcases bind_eq_error_iff.mp h with failed | ⟨⟨name, marked⟩, identifier, h⟩
    · exact absurd failed readIdentifier_ne_negationOverflow
    rcases bind_eq_error_iff.mp h with failed | ⟨bounds, comma, h⟩
    · exact absurd failed readMark_ne_negationOverflow
    obtain ⟨visible, first, shown, regular, opened⟩ := exists_opening visible identifier comma
    rw [opened]
    rcases bind_eq_error_iff.mp h with failed | ⟨⟨minExp, separated⟩, low, h⟩
    · obtain ⟨bound, rest, spelled, rfl⟩ := readBound_eq_overflow_iff.mp failed
      exact .low first rest shown regular spelled
    obtain ⟨lowText, lowSpelled, lowered⟩ := exists_boundSpelling low
    rw [lowered]
    rcases bind_eq_error_iff.mp h with failed | ⟨bounded, separator, h⟩
    · exact absurd failed readMark_ne_negationOverflow
    obtain ⟨second, marked⟩ := readMark_eq_ok_iff.mp separator
    rw [marked]
    rcases bind_eq_error_iff.mp h with failed | ⟨⟨maxExp, ended⟩, high, h⟩
    · obtain ⟨bound, rest, spelled, rfl⟩ := readBound_eq_overflow_iff.mp failed
      exact .high first second rest shown regular lowSpelled spelled
    rcases bind_eq_error_iff.mp h with failed | ⟨⟨bits, left⟩, width, h⟩
    · exact absurd failed readWidth_ne_negationOverflow
    dsimp only at h
    split at h
    · cases h
    split at h
    · cases h
    · cases h
  · intro reached
    cases reached with
    | low first rest shown regular spelled =>
      have overflow := readBound_eq_overflow_iff.mpr ⟨_, rest, spelled, rfl⟩
      simp [ofTokens, readVisibility_append shown regular, readIdentifier_ident regular,
        readMark_punct, overflow, bind, Except.bind]
    | high first second rest shown regular low spelled =>
      have overflow := readBound_eq_overflow_iff.mpr ⟨_, rest, spelled, rfl⟩
      simp [ofTokens, readVisibility_append shown regular, readIdentifier_ident regular,
        readMark_punct, readBound_append low, overflow, bind, Except.bind]

end Whole

/-- Reading gives a declaration exactly when the tokens are its spelling, and the overflow exactly
when they reach one. It refuses all other tokens with another error. -/
theorem ofTokens_recognizes (tokens : List Token) :
    (∀ d, ofTokens tokens = .ok d ↔ d.Spelling tokens) ∧
    (ofTokens tokens = .error .negationOverflow ↔ ReachesOverflow tokens) ∧
    ((∃ cause, cause ≠ .negationOverflow ∧ ofTokens tokens = .error cause) ↔
      (∀ d : Declaration, ¬ d.Spelling tokens) ∧ ¬ ReachesOverflow tokens) := by
  refine ⟨fun d => ofTokens_eq_ok_iff, ofTokens_eq_overflow_iff, ?_⟩
  simp only [← ofTokens_eq_ok_iff, ← ofTokens_eq_overflow_iff]
  cases ofTokens tokens with
  | error cause => simp
  | ok d => simp

/-- A path that is too long is noticed only after the bounds. -/
example : ofTokens [.word "pub", .group .parenthesis [.word "in", .word "a", .word "b"],
    .word "powers", .mark ',', .mark '-', .mark '-', .integer 2147483648 ""] =
      .error .negationOverflow := rfl

end DecimalPowers.Declaration
