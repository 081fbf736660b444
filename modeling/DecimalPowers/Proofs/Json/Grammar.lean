import DecimalPowers.Proofs.Json.Number

/-!
The grammar of JSON texts. Every form is a relation between a text and the text after it: blanks,
strings with their escapes, numbers, and values of any depth with blanks between their parts. The
scanners of strings and numbers stop where the grammar does.
-/

set_option autoImplicit false
set_option relaxedAutoImplicit false

namespace DecimalPowers.Json

open Text (After Rest)

inductive Blanks : List Char → List Char → Prop
  | done (s : List Char) : Blanks s s
  | cons {c : Char} {s r : List Char} : isSpace c = true → Blanks s r → Blanks (c :: s) r

inductive Hex4 : ℕ → List Char → List Char → Prop
  | mk {a b c d : Char} {i j k l : ℕ} (r : List Char) : Text.hexDigit? a = some i →
      Text.hexDigit? b = some j → Text.hexDigit? c = some k → Text.hexDigit? d = some l →
      Hex4 (16 * (16 * (16 * i + j) + k) + l) (a :: b :: c :: d :: r) r

/-- The characters of a string, written after its opening quote. -/
inductive Spelling : List Char → List Char → List Char → Prop
  | close (r : List Char) : Spelling [] ('"' :: r) r
  | plain {c : Char} {cs s r : List Char} : c ≠ '"' → c ≠ '\\' → 0x20 ≤ c.toNat →
      Spelling cs s r → Spelling (c :: cs) (c :: s) r
  | letter {c e : Char} {cs s r : List Char} : simpleEscape? c = some e →
      Spelling cs s r → Spelling (e :: cs) ('\\' :: c :: s) r
  | code {n : ℕ} {cs s t r : List Char} : Hex4 n s t → isLeadingSurrogate n = false →
      isTrailingSurrogate n = false → Spelling cs t r →
      Spelling (Char.ofNat n :: cs) ('\\' :: 'u' :: s) r
  | pair {n m : ℕ} {cs s t u r : List Char} : Hex4 n s ('\\' :: 'u' :: t) →
      isLeadingSurrogate n = true → Hex4 m t u → isTrailingSurrogate m = true →
      Spelling cs u r →
      Spelling (Char.ofNat ((n - 0xD800) * 0x400 + (m - 0xDC00) + 0x10000) :: cs)
        ('\\' :: 'u' :: s) r

def IsDigits (ds : List Char) : Prop := ds ≠ [] ∧ ∀ c ∈ ds, isDigit c = true

inductive IsIntegerPart : List Char → Prop
  | zero : IsIntegerPart ['0']
  | positive {c : Char} {ds : List Char} : isDigit c = true → c ≠ '0' →
      (∀ d ∈ ds, isDigit d = true) → IsIntegerPart (c :: ds)

inductive IsFraction : List Char → Prop
  | absent : IsFraction []
  | point {ds : List Char} : IsDigits ds → IsFraction ('.' :: ds)

inductive IsExponent : List Char → Prop
  | absent : IsExponent []
  | letter {c : Char} {sign ds : List Char} : c = 'e' ∨ c = 'E' →
      sign = [] ∨ sign = ['+'] ∨ sign = ['-'] → IsDigits ds → IsExponent (c :: (sign ++ ds))

inductive IsNumber : List Char → Prop
  | mk {sign whole fraction exponent : List Char} : sign = [] ∨ sign = ['-'] →
      IsIntegerPart whole → IsFraction fraction → IsExponent exponent →
      IsNumber (sign ++ (whole ++ (fraction ++ exponent)))

/-- A key between quotes with its colon, and the blanks around them. -/
inductive Key : List Char → List Char → List Char → Prop
  | mk {key s k t u r : List Char} : Blanks s ('"' :: k) → Spelling key k t →
      Blanks t (':' :: u) → Blanks u r → Key key s r

/-- The forms of JSON text: a value, and what stands between the brackets of a list or of an object
that is not empty. -/
inductive Form where
  | value
  | items
  | members

/-- The text of a form, the closing bracket of a list or an object included. -/
inductive Writes : Form → List Char → List Char → Prop
  | null (r : List Char) : Writes .value ('n' :: 'u' :: 'l' :: 'l' :: r) r
  | yes (r : List Char) : Writes .value ('t' :: 'r' :: 'u' :: 'e' :: r) r
  | no (r : List Char) : Writes .value ('f' :: 'a' :: 'l' :: 's' :: 'e' :: r) r
  | number {s r : List Char} : IsNumber s → EndsNumber r → Writes .value (s ++ r) r
  | string {cs s r : List Char} : Spelling cs s r → Writes .value ('"' :: s) r
  | emptyList {s r : List Char} : Blanks s (']' :: r) → Writes .value ('[' :: s) r
  | list {s r : List Char} : Writes .items s r → Writes .value ('[' :: s) r
  | emptyObject {s r : List Char} : Blanks s ('\x7d' :: r) → Writes .value ('\x7b' :: s) r
  | object {s r : List Char} : Writes .members s r → Writes .value ('\x7b' :: s) r
  | lastItem {s v t r : List Char} : Blanks s v → Writes .value v t → Blanks t (']' :: r) →
      Writes .items s r
  | nextItem {s v t u r : List Char} : Blanks s v → Writes .value v t → Blanks t (',' :: u) →
      Writes .items u r → Writes .items s r
  | lastMember {key s v t r : List Char} : Key key s v → Writes .value v t →
      Blanks t ('\x7d' :: r) → Writes .members s r
  | nextMember {key s v t u r : List Char} : Key key s v → Writes .value v t →
      Blanks t (',' :: u) → Writes .members u r → Writes .members s r

theorem skipSpace_cons {c : Char} (h : isSpace c = false) (s : List Char) :
    skipSpace (c :: s) = c :: s := by
  rw [skipSpace, List.dropWhile_cons_of_neg (by simp [h])]

theorem Blanks.skipSpace_eq {s r : List Char} (h : Blanks s r) : skipSpace s = skipSpace r := by
  induction h with
  | done s => rfl
  | cons blank _ ih => rw [skipSpace, List.dropWhile_cons_of_pos blank, ← ih, skipSpace]

theorem Blanks.skipSpace_cons {s r : List Char} {c : Char} (h : Blanks s (c :: r))
    (visible : isSpace c = false) : skipSpace s = c :: r := by
  rw [h.skipSpace_eq, Json.skipSpace_cons visible]

theorem Blanks.of_all {b : List Char} (blank : ∀ c ∈ b, isSpace c = true) (s : List Char) :
    Blanks (b ++ s) s := by
  induction b with
  | nil => exact .done s
  | cons c b ih =>
    obtain ⟨first, others⟩ := List.forall_mem_cons.mp blank
    exact .cons first (ih others)

section Strings

variable {cs s r : List Char} {n : ℕ}

theorem Hex4.scan (h : Hex4 n s r) : ∃ h, scanHex4 s = .ok (n, ⟨r, h⟩) := by
  cases h with
  | @mk a b c d i j k l r ha hb hc hd =>
    have digits : [a, b, c, d].mapM Text.hexDigit? = some [i, j, k, l] := by
      simp [ha, hb, hc, hd]
    have value : Text.ofDigits 16 0 [i, j, k, l] = 16 * (16 * (16 * i + j) + k) + l := by
      simp [Text.ofDigits]
    have shorter : r.length < (a :: b :: c :: d :: r).length := by
      simp only [List.length_cons]
      omega
    refine ⟨shorter, ?_⟩
    simp only [scanHex4, digits, value]
    rfl

private theorem scanEscape_letter {c e : Char} (escape : simpleEscape? c = some e) (s : List Char) :
    scanEscape (c :: s) = .ok (e, .tail c s) := by
  rw [scanEscape, escape]
  rintro rfl
  cases escape

private theorem skipEscape_letter {c e : Char} (escape : simpleEscape? c = some e) (s : List Char) :
    skipEscape (c :: s) = .ok (.tail c s) := by
  rw [skipEscape, escape]
  rintro rfl
  cases escape

theorem Hex4.scanEscape (hex : Hex4 n s r) (leading : isLeadingSurrogate n = false)
    (trailing : isTrailingSurrogate n = false) :
    ∃ h, scanEscape ('u' :: s) = .ok (Char.ofNat n, ⟨r, h⟩) := by
  obtain ⟨h, scanned⟩ := hex.scan
  refine ⟨Nat.lt_succ_of_lt h, ?_⟩
  rw [Json.scanEscape, scanUnicode, scanned]
  simp [bind, Except.bind, leading, trailing]
  rfl

private theorem Hex4.scanEscape_pair {m : ℕ} {t : List Char} (hex : Hex4 n s ('\\' :: 'u' :: t))
    (leading : isLeadingSurrogate n = true) (second : Hex4 m t r)
    (trailing : isTrailingSurrogate m = true) :
    ∃ h, Json.scanEscape ('u' :: s) =
      .ok (Char.ofNat ((n - 0xD800) * 0x400 + (m - 0xDC00) + 0x10000), ⟨r, h⟩) := by
  obtain ⟨h, scanned⟩ := hex.scan
  obtain ⟨h', scanned'⟩ := second.scan
  have apart : isTrailingSurrogate n = false := by
    simp only [isLeadingSurrogate, isTrailingSurrogate, Bool.and_eq_true, decide_eq_true_eq,
      Bool.and_eq_false_iff, decide_eq_false_iff_not] at leading ⊢
    omega
  have shorter : r.length < ('u' :: s).length := by
    simp only [List.length_cons] at h h' ⊢
    omega
  refine ⟨shorter, ?_⟩
  rw [Json.scanEscape, scanUnicode, scanned]
  simp [bind, Except.bind, leading, apart, scanTrailing, scanned', trailing]
  rfl

private theorem scanString_escape {c : Char} {t : List Char}
    (escape : ∃ h, scanEscape s = .ok (c, ⟨t, h⟩)) (others : ∃ h, scanString t = .ok (cs, ⟨r, h⟩)) :
    ∃ h, scanString ('\\' :: s) = .ok (c :: cs, ⟨r, h⟩) := by
  obtain ⟨h, escaped⟩ := escape
  obtain ⟨h', scanned⟩ := others
  refine ⟨(After.trans ⟨t, h⟩ ⟨r, h'⟩).cons.2, ?_⟩
  rw [scanString, escaped]
  simp only [bind, Except.bind, scanned]
  rfl

theorem Spelling.scan (h : Spelling cs s r) : ∃ h, scanString s = .ok (cs, ⟨r, h⟩) := by
  induction h with
  | close r =>
    rw [scanString]
    exact ⟨_, rfl⟩
  | plain quote backslash printable _ ih =>
    obtain ⟨_, scanned⟩ := ih
    rw [scanString, if_neg (by omega), scanned]
    · exact ⟨_, rfl⟩
    · exact quote
    · exact backslash
  | letter escape _ ih => exact scanString_escape ⟨_, scanEscape_letter escape _⟩ ih
  | code hex leading trailing _ ih => exact scanString_escape (hex.scanEscape leading trailing) ih
  | pair first leading second trailing _ ih =>
    exact scanString_escape (first.scanEscape_pair leading second trailing) ih

private theorem skipString_escape {t : List Char} (escape : ∃ h, skipEscape s = .ok ⟨t, h⟩)
    (others : ∃ h, skipString t = .ok ⟨r, h⟩) : ∃ h, skipString ('\\' :: s) = .ok ⟨r, h⟩ := by
  obtain ⟨h, escaped⟩ := escape
  obtain ⟨h', skipped⟩ := others
  refine ⟨(After.trans ⟨t, h⟩ ⟨r, h'⟩).cons.2, ?_⟩
  rw [skipString, escaped]
  simp only [bind, Except.bind, skipped]
  rfl

theorem Hex4.skipEscape (hex : Hex4 n s r) : ∃ h, skipEscape ('u' :: s) = .ok ⟨r, h⟩ := by
  obtain ⟨_, scanned⟩ := hex.scan
  rw [Json.skipEscape, scanned]
  exact ⟨_, rfl⟩

theorem Spelling.skip (h : Spelling cs s r) : ∃ h, skipString s = .ok ⟨r, h⟩ := by
  induction h with
  | close r =>
    rw [skipString]
    exact ⟨_, rfl⟩
  | plain quote backslash printable _ ih =>
    obtain ⟨_, skipped⟩ := ih
    rw [skipString, if_neg (by omega), skipped]
    · exact ⟨_, rfl⟩
    · exact quote
    · exact backslash
  | letter escape _ ih => exact skipString_escape ⟨_, skipEscape_letter escape _⟩ ih
  | code hex _ _ _ ih => exact skipString_escape hex.skipEscape ih
  | pair first _ second _ _ ih =>
    exact skipString_escape first.skipEscape (skipString_escape second.skipEscape ih)

end Strings

section Numbers

variable {ds s r : List Char}

theorem IsDigits.exists_cons (h : IsDigits ds) :
    ∃ c cs, ds = c :: cs ∧ isDigit c = true ∧ ∀ d ∈ cs, isDigit d = true := by
  obtain ⟨nonempty, digits⟩ := h
  obtain ⟨c, cs, rfl⟩ := List.exists_cons_of_ne_nil nonempty
  obtain ⟨first, others⟩ := List.forall_mem_cons.mp digits
  exact ⟨c, cs, rfl, first, others⟩

theorem IsDigits.head?_any (h : IsDigits ds) (r : List Char) :
    (ds ++ r).head?.any isDigit = true := by
  obtain ⟨c, cs, rfl, digit, -⟩ := h.exists_cons
  exact digit

private theorem IsDigits.dropWhile_append (h : IsDigits ds) (stops : r.dropWhile isDigit = r) :
    (ds ++ r).dropWhile isDigit = r := by
  rw [List.dropWhile_append_of_pos h.2, stops]

private theorem dropSign_append {sign : List Char}
    (signed : sign = [] ∨ sign = ['+'] ∨ sign = ['-'])
    (digits : IsDigits ds) (r : List Char) : (dropSign (sign ++ (ds ++ r))).1 = ds ++ r := by
  obtain ⟨c, cs, rfl, digit, -⟩ := digits.exists_cons
  rcases signed with rfl | rfl | rfl
  · rw [List.nil_append, List.cons_append, dropSign]
    · rfl
    all_goals
      rintro s same
      obtain ⟨rfl, -⟩ := List.cons.inj same
      exact absurd digit (by decide)
  · rfl
  · rfl

private theorem skipExponent_of_digits {sign : List Char}
    (signed : sign = [] ∨ sign = ['+'] ∨ sign = ['-'])
    (digits : IsDigits ds) (stops : EndsNumber r) :
    ∃ t, skipExponent (sign ++ (ds ++ r)) = .ok t ∧ t.1 = r := by
  have unsigned := dropSign_append signed digits r
  refine ⟨_, if_pos (by rw [unsigned]; exact digits.head?_any r), ?_⟩
  show List.dropWhile isDigit _ = r
  rw [unsigned, digits.dropWhile_append stops.dropWhile_isDigit]

private theorem skipAfterDigits_of_ends (stops : EndsNumber r) :
    skipAfterDigits r = .ok (.whole r) := by
  cases r with
  | nil => rfl
  | cons c r =>
    obtain ⟨-, -, lower, upper⟩ := stops c rfl
    rw [skipAfterDigits]
    · rintro s same
      exact lower (List.cons.inj same).1
    · rintro s same
      exact upper (List.cons.inj same).1

private theorem skipAfterDigits_of_exponent (exponent : IsExponent s) (stops : EndsNumber r) :
    ∃ t, skipAfterDigits (s ++ r) = .ok t ∧ t.1 = r := by
  cases exponent with
  | absent => exact ⟨.whole r, skipAfterDigits_of_ends stops, rfl⟩
  | letter letter signed digits =>
    obtain ⟨t, skipped, rest⟩ := skipExponent_of_digits signed digits stops
    rw [List.cons_append, List.append_assoc]
    rcases letter with rfl | rfl
    · rw [skipAfterDigits, skipped]
      exact ⟨_, rfl, rest⟩
    · rw [skipAfterDigits, skipped]
      exact ⟨_, rfl, rest⟩

private theorem IsExponent.dropWhile_append (h : IsExponent s) (stops : EndsNumber r) :
    (s ++ r).dropWhile isDigit = s ++ r := by
  cases h with
  | absent => exact stops.dropWhile_isDigit
  | letter letter _ _ => rcases letter with rfl | rfl <;> rfl

private theorem IsExponent.ne_point (h : IsExponent s) (stops : EndsNumber r) (t : List Char) :
    s ++ r ≠ '.' :: t := by
  intro same
  cases h with
  | absent =>
    rw [List.nil_append] at same
    subst same
    exact (stops '.' rfl).2.1 rfl
  | letter letter _ _ =>
    obtain ⟨rfl, -⟩ := List.cons.inj same
    revert letter
    decide

private theorem skipAfterInteger_of_fraction {fraction exponent : List Char}
    (point : IsFraction fraction)
    (power : IsExponent exponent) (stops : EndsNumber r) :
    ∃ t, skipAfterInteger (fraction ++ (exponent ++ r)) = .ok t ∧ t.1 = r := by
  cases point with
  | absent =>
    rw [List.nil_append, skipAfterInteger]
    · exact skipAfterDigits_of_exponent power stops
    · exact power.ne_point stops
  | @point ds digits =>
    obtain ⟨t, skipped, rest⟩ :
        ∃ t, skipAfterDigits ((Rest.whole (ds ++ (exponent ++ r))).dropWhile isDigit).1 = .ok t ∧
          t.1 = r := by
      have reached : ((Rest.whole (ds ++ (exponent ++ r))).dropWhile isDigit).1 = exponent ++ r :=
        digits.dropWhile_append (power.dropWhile_append stops)
      rw [reached]
      exact skipAfterDigits_of_exponent power stops
    rw [List.cons_append, skipAfterInteger, if_pos (digits.head?_any _)]
    simp only [skipped]
    exact ⟨_, rfl, rest⟩

private theorem dropWhile_fraction {fraction exponent : List Char} (point : IsFraction fraction)
    (power : IsExponent exponent) (stops : EndsNumber r) :
    (fraction ++ (exponent ++ r)).dropWhile isDigit = fraction ++ (exponent ++ r) := by
  cases point with
  | absent => exact power.dropWhile_append stops
  | point digits => rfl

private theorem head?_fraction {fraction exponent : List Char} (point : IsFraction fraction)
    (power : IsExponent exponent) (stops : EndsNumber r) :
    ¬ (fraction ++ (exponent ++ r)).head?.any isDigit = true := by
  cases point with
  | point digits => exact (by decide : ¬ isDigit '.' = true)
  | absent =>
    cases power with
    | absent => exact stops.head?_any
    | letter letter _ _ =>
      rcases letter with rfl | rfl
      · exact (by decide : ¬ isDigit 'e' = true)
      · exact (by decide : ¬ isDigit 'E' = true)

private theorem skipNumber_of_parts {whole fraction exponent : List Char}
    (first : IsIntegerPart whole)
    (point : IsFraction fraction) (power : IsExponent exponent) (stops : EndsNumber r) :
    ∃ t, skipNumber (whole ++ (fraction ++ (exponent ++ r))) = .ok t ∧ t.1 = r := by
  cases first with
  | zero =>
    obtain ⟨t, skipped, rest⟩ := skipAfterInteger_of_fraction point power stops
    show ∃ t, skipNumber ('0' :: (fraction ++ (exponent ++ r))) = .ok t ∧ t.1 = r
    rw [skipNumber, if_neg (head?_fraction point power stops), skipped]
    exact ⟨_, rfl, rest⟩
  | @positive c ds digit nonzero digits =>
    obtain ⟨t, skipped, rest⟩ : ∃ t, skipAfterInteger
        ((Rest.whole (ds ++ (fraction ++ (exponent ++ r)))).dropWhile isDigit).1 = .ok t ∧
          t.1 = r := by
      have reached : ((Rest.whole (ds ++ (fraction ++ (exponent ++ r)))).dropWhile isDigit).1 =
          fraction ++ (exponent ++ r) := by
        show (ds ++ (fraction ++ (exponent ++ r))).dropWhile isDigit = _
        rw [List.dropWhile_append_of_pos digits, dropWhile_fraction point power stops]
      rw [reached]
      exact skipAfterInteger_of_fraction point power stops
    rw [List.cons_append, skipNumber, if_pos digit]
    · simp only [skipped]
      exact ⟨_, rfl, rest⟩
    · rintro rfl
      exact nonzero rfl

theorem IsIntegerPart.exists_cons {whole : List Char} (h : IsIntegerPart whole) :
    ∃ c ds, whole = c :: ds ∧ isDigit c = true := by
  cases h with
  | zero => exact ⟨'0', [], rfl, rfl⟩
  | positive digit _ _ => exact ⟨_, _, rfl, digit⟩

private theorem skipHead_of_isDigit {c : Char} (digit : isDigit c = true) (s : List Char) :
    skipHead (c :: s) = (skipNumber (c :: s)).map fun r => (none, r) := by
  rw [skipHead, if_pos digit]
  · cases skipNumber (c :: s) <;> rfl
  all_goals
    rintro rfl
    exact absurd digit (by decide)

theorem IsNumber.skipHead (h : IsNumber s) (stops : EndsNumber r) :
    ∃ h, skipHead (s ++ r) = .ok (none, ⟨r, h⟩) := by
  cases h with
  | @mk sign whole fraction exponent signed first point power =>
    obtain ⟨t, skipped, rest⟩ := skipNumber_of_parts first point power stops
    have shorter := t.2
    rw [rest] at shorter
    have joined : sign ++ (whole ++ (fraction ++ exponent)) ++ r =
        sign ++ (whole ++ (fraction ++ (exponent ++ r))) := by
      simp only [List.append_assoc]
    rw [joined]
    rcases signed with rfl | rfl
    · obtain ⟨c, ds, rfl, digit⟩ := first.exists_cons
      refine ⟨shorter, ?_⟩
      show Json.skipHead (c :: (ds ++ (fraction ++ (exponent ++ r)))) = _
      rw [skipHead_of_isDigit digit]
      show (skipNumber (c :: ds ++ (fraction ++ (exponent ++ r)))).map _ = _
      rw [skipped]
      exact congrArg (fun t => Except.ok (none, t)) (Subtype.ext rest)
    · refine ⟨Nat.lt_succ_of_lt shorter, ?_⟩
      show Json.skipHead ('-' :: (whole ++ (fraction ++ (exponent ++ r)))) = _
      rw [Json.skipHead, skipped]
      exact congrArg (fun t => Except.ok (none, t)) (Subtype.ext rest)

private theorem isIntegerPart_toDigits (n : ℕ) : IsIntegerPart (Nat.toDigits 10 n) := by
  rcases Nat.eq_zero_or_pos n with rfl | positive
  · exact .zero
  · obtain ⟨c, cs, starts, digit⟩ := exists_toDigits_cons n
    have nonzero := head?_toDigits_ne_zero positive
    have digits : ∀ d ∈ cs, isDigit d = true := fun d hd =>
      isDigit_of_mem_toDigits (starts ▸ List.mem_cons_of_mem c hd)
    rw [starts] at nonzero ⊢
    exact .positive digit (fun same => nonzero (congrArg some same)) digits

theorem isNumber_signed (x : ℤ) : IsNumber (Text.signed x).toList := by
  have whole := isIntegerPart_toDigits x.natAbs
  rcases Int.lt_or_le x 0 with negative | nonnegative
  · have number := IsNumber.mk (.inr rfl) whole .absent .absent
    rwa [List.append_nil, List.append_nil, List.singleton_append,
      ← Text.toList_signed_of_neg negative] at number
  · have number := IsNumber.mk (.inl rfl) whole .absent .absent
    rwa [List.append_nil, List.append_nil, List.nil_append,
      ← Text.toList_signed_of_nonneg nonnegative] at number

end Numbers

end DecimalPowers.Json
