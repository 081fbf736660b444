import DecimalPowers.Declaration
import DecimalPowers.Proofs.Outcome
import Mathlib.Tactic.SplitIfs

/-!
Visibilities in tokens. Parentheses after `pub` belong to the visibility only if they hold a single
word for a place, or `in` and a path. What follows the path between them is read past.
-/

set_option autoImplicit false
set_option relaxedAutoImplicit false

namespace DecimalPowers.Declaration

theorem ident_eq_of_text {name : Ident} {word : String} (plain : word.toList.head? ≠ some 'r')
    (same : name.text = word) : name = { name := word } := by
  obtain ⟨text, raw⟩ := name
  cases raw with
  | false =>
    rw [← same]
    rfl
  | true =>
    subst same
    refine absurd ?_ plain
    show ("r#" ++ text).toList.head? = _
    rw [String.toList_append]
    rfl

/-- The tokens of the names of a path after the first: two joined colons stand before each. -/
inductive SegmentsSpelling : List Ident → List Token → Prop
  | nil : SegmentsSpelling [] []
  | cons {name : Ident} {names : List Ident} {tokens : List Token} (joint : Bool) :
      isSegment name = true → SegmentsSpelling names tokens →
      SegmentsSpelling (name :: names)
        (.punct ':' true :: .punct ':' joint :: .ident name :: tokens)

inductive PathSpelling : Visibility → List Token → Prop
  | relative {first : Ident} {more : List Ident} {tokens : List Token} : isSegment first = true →
      SegmentsSpelling more tokens → PathSpelling (.path false first more) (.ident first :: tokens)
  | absolute {first : Ident} {more : List Ident} {tokens : List Token} (joint : Bool) :
      isSegment first = true → SegmentsSpelling more tokens →
      PathSpelling (.path true first more)
        (.punct ':' true :: .punct ':' joint :: .ident first :: tokens)

/-- Whether no further name of a path can begin. -/
def EndsPath (tokens : List Token) : Prop :=
  ∀ joint rest, tokens ≠ .punct ':' true :: .punct ':' joint :: rest

/-- The tokens between the parentheses of a visibility, of which those of `extra` are no part of
it. -/
inductive RestrictionSpelling : Visibility → List Token → List Token → Prop
  | place {name : Ident} : name.text ∈ placeWords →
      RestrictionSpelling (.place name) [] [.ident name]
  | path {v : Visibility} {text extra : List Token} : PathSpelling v text →
      EndsPath extra → RestrictionSpelling v extra (.word "in" :: (text ++ extra))

/-- The tokens of a visibility, of which those of `extra` are no part of it. -/
inductive VisibilitySpelling : Visibility → List Token → List Token → Prop
  | inherited : VisibilitySpelling .inherited [] []
  | everywhere : VisibilitySpelling .everywhere [] [.word "pub"]
  | restricted {v : Visibility} {extra inner : List Token} : RestrictionSpelling v extra inner →
      VisibilitySpelling v extra [.word "pub", .group .parenthesis inner]

variable {tokens rest extra : List Token} {v : Visibility}

section Path

private theorem doubleColon?_eq_some_iff :
    doubleColon? tokens = some rest ↔
      ∃ joint, tokens = .punct ':' true :: .punct ':' joint :: rest := by
  constructor
  · intro h
    unfold doubleColon? at h
    split at h
    · cases h
      exact ⟨_, rfl⟩
    · cases h
  · rintro ⟨joint, rfl⟩
    rfl

private theorem readSegments_of_endsPath (stop : EndsPath tokens) :
    readSegments tokens = .ok ([], tokens) := by
  unfold readSegments
  split
  · exact absurd rfl (stop _ _)
  · rfl

private theorem readSegments_eq_ok_iff {names : List Ident} :
    readSegments tokens = .ok (names, rest) ↔ EndsPath rest ∧
      ∃ text, SegmentsSpelling names text ∧ tokens = text ++ rest := by
  constructor
  · intro h
    fun_induction readSegments tokens generalizing names with
    | case1 joint name after segment ih =>
      obtain ⟨⟨more, last⟩, tail, h⟩ := bind_eq_ok_iff.mp h
      cases h
      obtain ⟨stop, text, spelled, rfl⟩ := ih tail
      exact ⟨stop, _, .cons joint segment spelled, rfl⟩
    | case2 | case3 | case4 => cases h
    | case5 tokens stop =>
      cases h
      exact ⟨stop, [], .nil, rfl⟩
  · rintro ⟨stop, text, spelled, rfl⟩
    induction spelled with
    | nil => exact readSegments_of_endsPath stop
    | cons joint segment _ ih =>
      simp [readSegments, segment, ih, bind, Except.bind]

private theorem readSegments_ne_negationOverflow :
    readSegments tokens ≠ .error .negationOverflow := by
  fun_induction readSegments tokens with
  | case1 joint name after segment ih => exact bind_ne_error ih nofun
  | case2 | case3 | case4 | case5 => nofun

def readNames (isGlobal : Bool) (tokens : List Token) :
    Except DeclarationError (Visibility × List Token) :=
  match tokens with
  | .ident name :: rest =>
    if isSegment name then do
      let (names, rest) ← readSegments rest
      .ok (.path isGlobal name names, rest)
    else .error (.foundKeyword name.text)
  | [] => .error (.expectedIdentifier true)
  | _ => .error (.expectedIdentifier false)

private theorem readPath_eq (tokens : List Token) :
    readPath tokens = match doubleColon? tokens with
      | some rest => readNames true rest
      | none => readNames false tokens := by
  unfold readPath
  cases doubleColon? tokens <;> rfl

private theorem readNames_eq_ok_iff {isGlobal : Bool} : readNames isGlobal tokens = .ok (v, rest) ↔
    EndsPath rest ∧ ∃ first more text, isSegment first = true ∧
      SegmentsSpelling more text ∧ v = .path isGlobal first more ∧
      tokens = .ident first :: (text ++ rest) := by
  constructor
  · intro h
    unfold readNames at h
    split at h
    · split at h
      · next first after segment =>
        obtain ⟨⟨more, last⟩, tail, done⟩ := bind_eq_ok_iff.mp h
        cases done
        obtain ⟨stop, text, spelled, rfl⟩ := readSegments_eq_ok_iff.mp tail
        exact ⟨stop, first, more, text, segment, spelled, rfl, rfl⟩
      · cases h
    · cases h
    · cases h
  · rintro ⟨stop, first, more, text, segment, spelled, rfl, rfl⟩
    have tail := readSegments_eq_ok_iff.mpr ⟨stop, text, spelled, rfl⟩
    simp [readNames, segment, tail, bind, Except.bind]

private theorem readNames_ne_negationOverflow {isGlobal : Bool} :
    readNames isGlobal tokens ≠ .error .negationOverflow := by
  unfold readNames
  split
  · split_ifs
    · exact bind_ne_error readSegments_ne_negationOverflow nofun
    · nofun
  · nofun
  · nofun

private theorem readPath_eq_ok_iff : readPath tokens = .ok (v, rest) ↔
    EndsPath rest ∧ ∃ text, PathSpelling v text ∧ tokens = text ++ rest := by
  constructor
  · intro h
    rw [readPath_eq] at h
    split at h
    · next colons =>
      obtain ⟨joint, rfl⟩ := doubleColon?_eq_some_iff.mp colons
      obtain ⟨stop, first, more, text, segment, spelled, rfl, rfl⟩ := readNames_eq_ok_iff.mp h
      exact ⟨stop, _, .absolute joint segment spelled, rfl⟩
    · obtain ⟨stop, first, more, text, segment, spelled, rfl, rfl⟩ := readNames_eq_ok_iff.mp h
      exact ⟨stop, _, .relative segment spelled, rfl⟩
  · rintro ⟨stop, text, spelled, rfl⟩
    rw [readPath_eq]
    cases spelled with
    | relative segment spelled =>
      exact readNames_eq_ok_iff.mpr ⟨stop, _, _, _, segment, spelled, rfl, rfl⟩
    | absolute joint segment spelled =>
      exact readNames_eq_ok_iff.mpr ⟨stop, _, _, _, segment, spelled, rfl, rfl⟩

end Path

section Visibility

private theorem restriction?_eq_ok_some_iff :
    restriction? tokens = .ok (some (v, extra)) ↔ RestrictionSpelling v extra tokens := by
  constructor
  · intro h
    unfold restriction? at h
    split at h
    · next name inner =>
      split at h
      · next listed =>
        cases inner with
        | nil =>
          cases h
          exact .place (List.contains_iff_mem.mp listed)
        | cons token inner => cases h
      split at h
      · next same =>
        cases read : readPath inner with
        | error cause =>
          rw [read] at h
          cases h
        | ok result =>
          rw [read] at h
          cases h
          obtain ⟨stop, text, spelled, rfl⟩ := readPath_eq_ok_iff.mp read
          rw [ident_eq_of_text (by decide) same]
          exact .path spelled stop
      · cases h
    · cases h
  · intro spelled
    cases spelled with
    | place listed =>
      rw [restriction?, if_pos (List.contains_iff_mem.mpr listed)]
      rfl
    | path spelled stop =>
      have read := readPath_eq_ok_iff.mpr ⟨stop, _, spelled, rfl⟩
      simp [restriction?, Token.word, Ident.text, placeWords, read, Except.map]

private theorem restriction?_ne_negationOverflow :
    restriction? tokens ≠ .error .negationOverflow := by
  unfold restriction?
  split
  · split_ifs
    · nofun
    · nofun
    · rw [Ne, map_eq_error_iff, readPath_eq]
      split
      · exact readNames_ne_negationOverflow
      · exact readNames_ne_negationOverflow
    · nofun
  · nofun

theorem exists_visibilitySpelling {name : Ident}
    (h : readVisibility tokens = .ok ((v, extra), .ident name :: rest)) :
    ∃ text, VisibilitySpelling v extra text ∧ tokens = text ++ .ident name :: rest := by
  unfold readVisibility at h
  split at h
  · split at h
    · next same =>
      rw [ident_eq_of_text (by decide) same]
      split at h
      · obtain ⟨found, restriction, done⟩ := bind_eq_ok_iff.mp h
        cases found with
        | none => cases done
        | some restricted =>
          cases done
          exact ⟨_, .restricted (restriction?_eq_ok_some_iff.mp restriction), rfl⟩
      · cases h
        exact ⟨_, .everywhere, rfl⟩
    · cases h
      exact ⟨_, .inherited, rfl⟩
  · cases h
    exact ⟨_, .inherited, rfl⟩

theorem readVisibility_append {text : List Token} {name : Ident}
    (spelled : VisibilitySpelling v extra text) (regular : name.isKeyword = false)
    (rest : List Token) : readVisibility (text ++ .ident name :: rest) =
      .ok ((v, extra), .ident name :: rest) := by
  cases spelled with
  | inherited =>
    have other : name.text ≠ "pub" := by
      intro same
      rw [Ident.isKeyword, same] at regular
      exact absurd regular (by decide)
    exact if_neg other
  | everywhere => rfl
  | restricted spelled =>
    have restriction := restriction?_eq_ok_some_iff.mpr spelled
    simp [readVisibility, Token.word, Ident.text, restriction, bind, Except.bind]

theorem readVisibility_ne_negationOverflow :
    readVisibility tokens ≠ .error .negationOverflow := by
  unfold readVisibility
  split
  · split_ifs
    · split
      · refine bind_ne_error restriction?_ne_negationOverflow fun found => ?_
        cases found <;> nofun
      · nofun
    · nofun
  · nofun

end Visibility

end DecimalPowers.Declaration
