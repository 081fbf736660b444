import DecimalPowers.Proofs.Declaration.Tokens
import DecimalPowers.Proofs.Table.Constants
import DecimalPowers.Proofs.Table.Contents

/-!
The expansion of a declaration. It fails where the generation of the declared table fails, and
otherwise its tokens give the constants of that table back: a range lies within 16 bits, so the
bounds are kept as they are.
-/

set_option autoImplicit false
set_option relaxedAutoImplicit false

namespace DecimalPowers.Declaration

open Token (skipWord skipMark readLiteral readSignedLiteral readWhole readGroup readList)

def skipVisibility : List Token → List Token
  | .ident found :: rest =>
    if found = { name := "pub" } then
      match rest with
      | .group .parenthesis _ :: after => after
      | rest => rest
    else .ident found :: rest
  | tokens => tokens

def readBoundConstant (name : String) (tokens : List Token) : Option (ℤ × List Token) := do
  let tokens ← skipWord "pub" tokens
  let tokens ← skipWord "const" tokens
  let tokens ← skipWord name tokens
  let tokens ← skipMark ':' tokens
  let tokens ← skipWord "i16" tokens
  let tokens ← skipMark '=' tokens
  let (x, tokens) ← readSignedLiteral "i16" tokens
  let tokens ← skipMark ';' tokens
  some (x, tokens)

def readColumnType (element : String) : List Token → Option (ℕ × List Token) :=
  readGroup .bracket (readWhole fun inner => do
    let inner ← skipWord element inner
    let inner ← skipMark ';' inner
    readLiteral "usize" inner)

def readColumnTypes : List Token → Option ((ℕ × ℕ) × List Token) :=
  readGroup .parenthesis (readWhole fun inner => do
    let (significandCount, inner) ← readColumnType "u64" inner
    let inner ← skipMark ',' inner
    let (exponentCount, inner) ← readColumnType "i16" inner
    some ((significandCount, exponentCount), inner))

def readColumns : List Token → Option ((List ℕ × List ℤ) × List Token) :=
  readGroup .parenthesis (readWhole fun inner => do
    let (significands, inner) ← readGroup .bracket (readList (readLiteral "u64")) inner
    let inner ← skipMark ',' inner
    let (exponents, inner) ← readGroup .bracket (readList (readSignedLiteral "i16")) inner
    let inner ← skipMark ',' inner
    some ((significands, exponents), inner))

def readConstants (tokens : List Token) : Option (Constants × List Token) := do
  let (minExp, tokens) ← readBoundConstant "MIN_E" tokens
  let (maxExp, tokens) ← readBoundConstant "MAX_E" tokens
  let tokens ← skipWord "pub" tokens
  let tokens ← skipWord "const" tokens
  let tokens ← skipWord "POWERS" tokens
  let tokens ← skipMark ':' tokens
  let ((significandCount, exponentCount), tokens) ← readColumnTypes tokens
  let tokens ← skipMark '=' tokens
  let ((significands, exponents), tokens) ← readColumns tokens
  let tokens ← skipMark ';' tokens
  some ({ minExp, maxExp, significandCount, exponentCount, significands, exponents }, tokens)

def readModule (tokens : List Token) : Option (Ident × Constants) := do
  match ← skipWord "mod" (skipVisibility tokens) with
  | .ident name :: rest =>
    let constants ← readWhole (readGroup .brace (readWhole readConstants)) rest
    some (name, constants)
  | _ => none

private theorem wrapInt16_of_fits {x : ℤ} (h : FitsInt16 x) : wrapInt16 x = x := by
  rw [wrapInt16, Int.bmod_def]
  omega

section Reading

variable (rest : List Token)

private theorem skipVisibility_tokens (v : Visibility) :
    skipVisibility (v.tokens ++ .word "mod" :: rest) = .word "mod" :: rest := by
  cases v <;> rfl

private theorem readBoundConstant_boundTokens (name : String) (x : ℤ) :
    readBoundConstant name (boundTokens name x ++ rest) = some (x, rest) := by
  have suffix : Text.EndsNumeral "i16".toList := by decide
  simp [readBoundConstant, boundTokens, Token.readSignedLiteral_signedTokens _ suffix]

private theorem readColumnTypes_group (size : ℕ) :
    readColumnTypes (.group .parenthesis
      [columnType "u64" size, .mark ',', columnType "i16" size] :: rest) =
      some ((size, size), rest) := by
  have suffix : Text.EndsNumeral "usize".toList := by decide
  have column (element : String) (rest : List Token) :
      readColumnType element (columnType element size :: rest) = some (size, rest) := by
    apply Token.readGroup_of_eq
    apply Token.readWhole_of_eq
    simp [Token.readLiteral_integer _ suffix]
  apply Token.readGroup_of_eq
  apply Token.readWhole_of_eq
  simp [column]

private theorem readColumns_group (significands : List ℕ) (exponents : List ℤ) :
    readColumns (.group .parenthesis
      [.group .bracket (commaSeparated (significands.map fun sig => [.integer sig "u64"])),
        .mark ',', .group .bracket (commaSeparated (exponents.map (signedTokens "i16"))),
        .mark ','] :: rest) = some ((significands, exponents), rest) := by
  have unsigned : Text.EndsNumeral "u64".toList := by decide
  have signed : Text.EndsNumeral "i16".toList := by decide
  have natural : readList (readLiteral "u64")
      (commaSeparated (significands.map fun sig => [.integer sig "u64"])) = some significands := by
    apply Token.readList_commaSeparated
    · exact Token.readLiteral_integer [] unsigned
    · simp [Token.isComma]
    · simp
  have integer : readList (readSignedLiteral "i16")
      (commaSeparated (exponents.map (signedTokens "i16"))) = some exponents := by
    apply Token.readList_commaSeparated
    · intro x
      simpa using Token.readSignedLiteral_signedTokens [] signed x
    · intro x token
      exact Token.isComma_of_mem_signedTokens
    · intro x
      simp [signedTokens]
  apply Token.readGroup_of_eq
  apply Token.readWhole_of_eq
  simp [Token.readGroup_of_eq natural, Token.readGroup_of_eq integer]

end Reading

private theorem readConstants_moduleTokens (t : Table) :
    readConstants (boundTokens "MIN_E" (wrapInt16 t.range.min) ++
      boundTokens "MAX_E" (wrapInt16 t.range.max) ++ powersTokens t) = some (t.constants, []) := by
  rw [wrapInt16_of_fits t.range.min_fits, wrapInt16_of_fits t.range.max_fits]
  simp [readConstants, powersTokens, readBoundConstant_boundTokens, readColumnTypes_group,
    readColumns_group, Table.constants]

private theorem readModule_moduleTokens (d : Declaration) (t : Table) :
    readModule (d.moduleTokens t) = some (d.name, t.constants) := by
  have constants := Token.readWhole_of_eq (readConstants_moduleTokens t)
  have body := Token.readWhole_of_eq (Token.readGroup_of_eq constants .brace [])
  simp only [readModule, moduleTokens, skipVisibility_tokens, Token.skipWord_word,
    Option.bind_eq_bind, Option.bind_some, body]

private theorem outcome_expand (d : Declaration) :
    d.expand.outcome = ((Table.generate d.parameters).outcome.mapError .ofFailure).bind
      fun t => .ok (d.moduleTokens t) :=
  Logged.outcome_bind _ _

private theorem exists_refused {d : Declaration} {cause : Failure}
    (failed : (Table.generate d.parameters).outcome = .error cause) :
    ∃ reason, cause = .refused reason := by
  cases hv : d.parameters.validate with
  | error invalid =>
    rw [Table.generate_of_invalid hv] at failed
    cases failed
    exact ⟨_, rfl⟩
  | ok v =>
    have mantissa : v.mantissa = 1 := (Parameters.validate_eq_ok_iff.mp hv).2.2.2
    have word : v.mantissa < UInt64.size := by
      rw [mantissa]
      decide
    obtain ⟨e, -, -, refused, -⟩ := Table.exists_least_refused hv word failed
    cases refused <;> exact ⟨_, rfl⟩

/-- An expansion fails exactly where the table of the declaration is not generated, with the text of
the reason. Otherwise the tokens give the bounds as they were declared, two lengths that are the
size of the range, and two lists of that length in which `e` has the parts of its entry in place
`e - min`. -/
theorem expand_agrees (d : Declaration) :
    ((∃ failure, d.expand.outcome = .error failure) ↔
      ∃ cause, (Table.generate ⟨d.minExp, d.maxExp, d.bits.getD 64, 1⟩).outcome = .error cause) ∧
    (∀ failure, d.expand.outcome = .error failure ↔
      ∃ reason, (Table.generate ⟨d.minExp, d.maxExp, d.bits.getD 64, 1⟩).outcome =
        .error (.refused reason) ∧ failure = .refused reason.message) ∧
    ∀ t, (Table.generate ⟨d.minExp, d.maxExp, d.bits.getD 64, 1⟩).outcome = .ok t →
      ∃ tokens constants, d.expand.outcome = .ok tokens ∧
        readModule tokens = some (d.name, constants) ∧
        constants.minExp = d.minExp ∧ constants.maxExp = d.maxExp ∧
        (constants.significandCount : ℤ) = d.maxExp - d.minExp + 1 ∧
        (constants.exponentCount : ℤ) = d.maxExp - d.minExp + 1 ∧
        (constants.significands.length : ℤ) = d.maxExp - d.minExp + 1 ∧
        (constants.exponents.length : ℤ) = d.maxExp - d.minExp + 1 ∧
        ∀ e : ℤ, d.minExp ≤ e → e ≤ d.maxExp → ∃ entry, t.get? e = some entry ∧
          constants.significands[(e - d.minExp).toNat]? = some entry.significand ∧
          constants.exponents[(e - d.minExp).toNat]? = some entry.exponent := by
  have default : (⟨d.minExp, d.maxExp, d.bits.getD 64, 1⟩ : Parameters) = d.parameters := rfl
  have expanded := d.outcome_expand
  rw [default]
  -- the expansion has no failure of its own, so the outcome of the generation decides every part
  cases made : (Table.generate d.parameters).outcome with
  | error cause =>
    obtain ⟨reason, rfl⟩ := exists_refused made
    rw [made] at expanded
    have failed : d.expand.outcome = .error (.refused reason.message) := expanded
    rw [failed]
    simp [eq_comm]
  | ok t =>
    obtain ⟨⟨-, (hmin : t.range.min = d.minExp), (hmax : t.range.max = d.maxExp), -⟩, complete⟩ :=
      Table.generate_eq_ok_iff.mp made
    rw [made] at expanded
    have tokens : d.expand.outcome = .ok (d.moduleTokens t) := expanded
    have size : (t.size : ℤ) = d.maxExp - d.minExp + 1 := by
      rw [Table.size, complete.length_entries, t.range.cast_size, hmin, hmax]
    rw [tokens]
    refine ⟨by simp, by simp, ?_⟩
    rintro _ ⟨⟩
    refine ⟨_, t.constants, rfl, d.readModule_moduleTokens t, hmin, hmax, size, size, ?_, ?_, ?_⟩
    · rw [Table.constants, t.length_significands, size]
    · rw [Table.constants, t.length_exponents, size]
    · intro e lower upper
      obtain ⟨entry, found, placed⟩ := complete.exists_entry_at (hmin ▸ lower) (hmax ▸ upper)
      rw [hmin] at placed
      change t.entries[(e - d.minExp).toNat]? = some entry at placed
      refine ⟨entry, found, ?_, ?_⟩
      · simp [Table.constants, Table.significands, placed]
      · simp [Table.constants, Table.exponents, placed]

theorem expand_reference_agrees :
    (∃ t tokens constants, (Table.generate {}).outcome = .ok t ∧
      (⟨.inherited, { name := "reference" }, -305, 305, none⟩ : Declaration).expand.outcome =
        .ok tokens ∧
      readModule tokens = some ({ name := "reference" }, constants) ∧
      constants.minExp = -305 ∧ constants.maxExp = 305 ∧ constants.significandCount = 611 ∧
      ∃ entry, t.get? 0 = some entry ∧
        constants.significands[305]? = some entry.significand ∧
        constants.exponents[305]? = some entry.exponent) ∧
    (⟨.everywhere, { name := "empty" }, 1, 0, some 53⟩ : Declaration).expand.outcome =
      .error (.refused "Invalid table configuration: exponent range is empty: 1 > 0") := by
  constructor
  · obtain ⟨t, made⟩ : ∃ t, (Table.generate {}).outcome = .ok t :=
      (Table.exists_generate_full_iff (by decide) (by decide) (by decide)).mpr (by decide)
    obtain ⟨tokens, constants, expanded, read, hmin, hmax, size, -, -, -, entries⟩ :=
      (expand_agrees ⟨.inherited, { name := "reference" }, -305, 305, none⟩).2.2 t made
    change (constants.significandCount : ℤ) = 305 - -305 + 1 at size
    refine ⟨t, tokens, constants, made, expanded, read, hmin, hmax, by omega, ?_⟩
    exact entries 0 (by decide) (by decide)
  · exact ((expand_agrees ⟨.everywhere, { name := "empty" }, 1, 0, some 53⟩).2.1 _).mpr
      ⟨.parameters (.emptyRange 1 0), rfl, rfl⟩

end DecimalPowers.Declaration
