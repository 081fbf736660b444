import DecimalPowers.Proofs.Json.Nested

/-!
The texts of records. A text is an object whose members are fields with integers of their types,
each field at most once and all in any order, and members with other keys and any values. The reader
returns the fields that are there and passes over the other members.
-/

set_option autoImplicit false
set_option relaxedAutoImplicit false

namespace DecimalPowers.Json

abbrev IntegerType.Holds (type : IntegerType) (x : ℤ) : Prop := type.min ≤ x ∧ x ≤ type.max

/-- A member of an object: a field with an integer of its type, or a key that is no field, with any
value. -/
inductive Member (schema : Schema) : Option (String × ℤ) → List Char → List Char → Prop
  | field {key : String} {f : Field} {x : ℤ} {s r : List Char} :
      Key key.toList s ((Text.signed x).toList ++ r) → schema.field? key = some f →
      f.type.Holds x → EndsNumber r → Member schema (some (key, x)) s r
  | other {key : String} {s v r : List Char} : Key key.toList s v → schema.field? key = none →
      Writes .value v r → Member schema none s r

/-- The members of an object that is not empty, with the bracket that closes it. -/
inductive Members (schema : Schema) : Values → List Char → List Char → Prop
  | last {m : Option (String × ℤ)} {s t r : List Char} : Member schema m s t →
      Blanks t ('\x7d' :: r) → Members schema m.toList s r
  | next {m : Option (String × ℤ)} {values : Values} {s t u r : List Char} : Member schema m s t →
      Blanks t (',' :: u) → Members schema values u r → Members schema (m.toList ++ values) s r

inductive Body (schema : Schema) : Values → List Char → List Char → Prop
  | empty {s r : List Char} : Blanks s ('\x7d' :: r) → Body schema [] s r
  | members {values : Values} {s r : List Char} : Members schema values s r →
      Body schema values s r

/-- The text of an object with the given fields, none of them twice. -/
inductive RecordText (schema : Schema) (values : Values) (text : List Char) : Prop
  | mk {s r : List Char} : (values.map Prod.fst).Nodup → Blanks text ('\x7b' :: s) →
      Body schema values s r → Blanks r [] → RecordText schema values text

section Lengths

variable {s r : List Char}

theorem Blanks.length_le (h : Blanks s r) : r.length ≤ s.length := by
  induction h with
  | done s => exact Nat.le_refl _
  | cons _ _ ih => exact Nat.le_succ_of_le ih

private theorem Key.length_lt {key : List Char} (h : Key key s r) : r.length < s.length := by
  obtain ⟨before, spelled, colon, after⟩ := h
  obtain ⟨shorter, -⟩ := spelled.scan
  have := before.length_le
  have := colon.length_le
  have := after.length_le
  simp only [List.length_cons] at *
  omega

private theorem Member.length_lt {schema : Schema} {m : Option (String × ℤ)}
    (h : Member schema m s r) :
    r.length < s.length := by
  cases h with
  | field key _ _ _ =>
    have := key.length_lt
    rw [List.length_append] at this
    omega
  | other key _ value =>
    exact (length_le_of_skipValue (value.skipValue (.done _))).trans_lt key.length_lt

end Lengths

theorem IntegerType.Holds.fitsNumber {type : IntegerType} {x : ℤ} (h : type.Holds x) :
    FitsNumber x := by
  obtain ⟨lower, upper⟩ := h
  cases type <;> simp only [IntegerType.min, IntegerType.max] at lower upper <;> omega

private theorem integerOf_ofInt {type : IntegerType} {x : ℤ} (holds : type.Holds x)
    (rest : List Char) :
    integerOf type (.number (Number.ofInt x)) rest = .ok x := by
  unfold Number.ofInt
  split
  · exact if_pos holds
  · next nonnegative =>
    have value : (x.toNat : ℤ) = x := by omega
    simp only [integerOf, value]
    exact if_pos holds

private theorem readInteger_of_holds {type : IntegerType} {x : ℤ} {s r : List Char}
    (holds : type.Holds x) (blanks : Blanks s ((Text.signed x).toList ++ r))
    (stops : EndsNumber r) : readInteger type s = .ok (x, r) := by
  have found := readFound_signed holds.fitsNumber stops
  have starts := Value.skipSpace_text 0 (.integer x) r
  rw [Value.text_integer, ← blanks.skipSpace_eq] at starts
  rw [readInteger, starts]
  split
  · next blank =>
    rw [blank] at found
    cases found
  · simp only [found, integerOf_ofInt holds, bind, Except.bind]

section Reading

variable {schema : Schema} {m : Option (String × ℤ)} {values acc : Values} {s t r : List Char}

theorem Member.read (h : Member schema m s r) (fresh : ∀ v ∈ m, acc.lookup v.1 = none) :
    ∃ (key : String) (k : List Char) (t : Text.After k), Blanks s ('"' :: k) ∧
      scanString k = .ok (key.toList, t) ∧
      readMember schema acc key t.1 = .ok (m.toList ++ acc, r) := by
  cases h with
  | @field key f x s r member known holds stops =>
    obtain ⟨quote, spelled, colon, blanks⟩ := member
    obtain ⟨h, scanned⟩ := spelled.scan
    obtain ⟨h', passed⟩ := colon.skipColon
    have unread : (acc.lookup key).isSome = false := by rw [fresh _ rfl]; rfl
    refine ⟨key, _, _, quote, scanned, ?_⟩
    simp only [readMember, known, unread, passed, readInteger_of_holds holds blanks stops, bind,
      Except.bind]
    rfl
  | @other key s v r member unknown value =>
    obtain ⟨quote, spelled, colon, blanks⟩ := member
    obtain ⟨h, scanned⟩ := spelled.scan
    obtain ⟨h', passed⟩ := colon.skipColon
    refine ⟨key, _, _, quote, scanned, ?_⟩
    simp only [readMember, unknown, passed, value.skipValue blanks, bind, Except.bind]
    rfl

theorem Member.readMembers {isFirst : Bool} {fuel : ℕ} (h : Member schema m s r)
    (fresh : ∀ v ∈ m, acc.lookup v.1 = none)
    (next : ∀ k, Blanks s ('"' :: k) → nextKey? isFirst t = .ok (some k)) :
    readMembers schema (fuel + 1) isFirst acc t =
      readMembers schema fuel false (m.toList ++ acc) r := by
  obtain ⟨key, k, after, quote, scanned, read⟩ := h.read fresh
  rw [Json.readMembers, next k quote]
  simp only [bind, Except.bind, scanned, String.ofList_toList, read]

private theorem readMembers_of_closing {isFirst : Bool} {fuel : ℕ}
    (closed : Blanks s ('\x7d' :: r)) :
    readMembers schema (fuel + 1) isFirst acc s = .ok (acc, s) := by
  rw [readMembers, nextKey?_of_closing closed]
  rfl

private theorem lookup_or_comm (distinct : ((m.toList ++ values).map Prod.fst).Nodup)
    (key : String) :
    (values.lookup key).or (m.toList.lookup key) = (m.toList ++ values).lookup key := by
  rw [List.lookup_append]
  cases m with
  | none => simp
  | some v =>
    obtain ⟨k, x⟩ := v
    by_cases same : key = k
    · subst same
      have absent : values.lookup key = none := by
        rw [List.lookup_eq_none_iff]
        rintro ⟨k, y⟩ member
        have apart : key ∉ values.map Prod.fst := (List.nodup_cons.mp distinct).1
        simp only [bne_iff_ne, ne_eq]
        rintro rfl
        exact apart (List.mem_map_of_mem member)
      rw [absent]
      simp
    · have other : (key == k) = false := beq_eq_false_iff_ne.mpr same
      simp [List.lookup_cons, other]

/-- The members up to the closing bracket, one after the other. The length of the text pays for
every member and for the closing bracket. -/
theorem Members.read {isFirst : Bool} {fuel : ℕ} (h : Members schema values s r)
    (distinct : (values.map Prod.fst).Nodup) (fresh : ∀ v ∈ values, acc.lookup v.1 = none)
    (next : ∀ k, Blanks s ('"' :: k) → nextKey? isFirst t = .ok (some k))
    (enough : s.length < fuel) :
    ∃ read c, readMembers schema fuel isFirst acc t = .ok (read, c) ∧ Blanks c ('\x7d' :: r) ∧
      ∀ key, read.lookup key = (values.lookup key).or (acc.lookup key) := by
  induction h generalizing isFirst fuel acc t with
  | @last m s u r member closed =>
    have shorter := member.length_lt
    obtain ⟨fuel, rfl⟩ : ∃ n, fuel = n + 2 := ⟨fuel - 2, by omega⟩
    have fresh : ∀ v ∈ m, acc.lookup v.1 = none := fun v hv => fresh v (by simpa using hv)
    refine ⟨m.toList ++ acc, u, ?_, closed, fun key => List.lookup_append⟩
    rw [member.readMembers fresh next, readMembers_of_closing closed]
  | @next m values s u w r member comma others ih =>
    have shorter := member.length_lt
    have separated := comma.length_le
    rw [List.length_cons] at separated
    obtain ⟨fuel, rfl⟩ : ∃ n, fuel = n + 1 := ⟨fuel - 1, by omega⟩
    have room : w.length < fuel := by omega
    have fresh_member : ∀ v ∈ m, acc.lookup v.1 = none := fun v hv =>
      fresh v (List.mem_append_left _ (by simpa using hv))
    have fresh_others : ∀ v ∈ values, (m.toList ++ acc).lookup v.1 = none := by
      intro v hv
      rw [List.lookup_append, fresh v (List.mem_append_right _ hv), Option.or_none,
        List.lookup_eq_none_iff]
      intro p hp
      rw [List.map_append] at distinct
      have apart := (List.nodup_append.mp distinct).2.2 p.1 (List.mem_map_of_mem hp) v.1
        (List.mem_map_of_mem hv)
      simpa using apart.symm
    have distinct_others : (values.map Prod.fst).Nodup := by
      rw [List.map_append] at distinct
      exact (List.nodup_append.mp distinct).2.1
    obtain ⟨read, c, reads, closed, found⟩ := ih distinct_others fresh_others
      (fun k quote => nextKey?_of_comma comma quote) room
    refine ⟨read, c, ?_, closed, fun key => ?_⟩
    · rw [member.readMembers fresh_member next, reads]
    · rw [found, List.lookup_append, ← Option.or_assoc, lookup_or_comm distinct]

theorem Body.read (h : Body schema values s r) (optional : schema.required = false)
    (distinct : (values.map Prod.fst).Nodup) :
    ∃ read, readObject schema s = .ok (read, r) ∧
      ∀ key, read.lookup key = values.lookup key := by
  obtain ⟨read, c, reads, closed, found⟩ : ∃ read c,
      readMembers schema (s.length + 1) true [] s = .ok (read, c) ∧ Blanks c ('\x7d' :: r) ∧
        ∀ key, read.lookup key = values.lookup key := by
    cases h with
    | empty closed => exact ⟨[], s, readMembers_of_closing closed, closed, fun key => rfl⟩
    | members members =>
      have fresh : ∀ v ∈ values, ([] : Values).lookup v.1 = none := fun v _ => rfl
      obtain ⟨read, c, reads, closed, found⟩ := members.read distinct fresh
        (fun k quote => nextKey?_of_first quote) (Nat.lt_succ_self _)
      exact ⟨read, c, reads, closed, fun key => by rw [found]; exact Option.or_none⟩
  have complete : schema.missing? read = none := by
    rw [Schema.missing?, optional]
    rfl
  refine ⟨read, ?_, found⟩
  rw [readObject, reads]
  simp only [bind, Except.bind, complete, closed.skipSpace_cons rfl, List.drop_one,
    List.tail_cons]

/-- The text of a record is read to the end, and every field is found with its integer. -/
theorem RecordText.read {text : String} (h : RecordText schema values text.toList)
    (optional : schema.required = false) :
    ∃ read, recordOfText schema text = .ok read ∧ ∀ key, read.lookup key = values.lookup key := by
  obtain @⟨s, r, distinct, opening, body, blank⟩ := h
  obtain ⟨read, reads, found⟩ := body.read optional distinct
  have record := opening.skipSpace_cons rfl
  have ended : endText r = .ok () := by
    rw [endText, blank.skipSpace_eq]
    rfl
  refine ⟨read, ?_, found⟩
  rw [recordOfText, readRecord, record]
  simp only [bind, Except.bind, reads, ended]

end Reading

/-! ### Compact forms -/

section Compact

variable {schema : Schema}

/-- The fields that a schema takes under keys that need no escape. -/
def Schema.Takes (schema : Schema) (v : String × ℤ) : Prop :=
  IsPlainKey v.1 ∧ ∃ f, schema.field? v.1 = some f ∧ f.type.Holds v.2

theorem Schema.Takes.member {v : String × ℤ} (h : schema.Takes v) {r : List Char}
    (stops : EndsNumber r) :
    Member schema (some v)
      ('"' :: (v.1.toList ++ '"' :: ':' :: ((Text.signed v.2).toList ++ r))) r := by
  obtain ⟨plain, f, known, holds⟩ := h
  exact .field ⟨.done _, .of_plain plain _, .done _, .done _⟩ known holds stops

private theorem members_compact {fields : Values} (nonempty : fields ≠ [])
    (takes : ∀ v ∈ fields, schema.Takes v) (r : List Char) :
    Members schema fields
      ((Value.compactMembers (fields.map fun v => (v.1, .integer v.2))).toList ++ '\x7d' :: r)
      r := by
  induction fields with
  | nil => exact absurd rfl nonempty
  | cons v fields ih =>
    obtain ⟨first, others⟩ := List.forall_mem_cons.mp takes
    cases fields with
    | nil =>
      have member := first.member (r := '\x7d' :: r) (by rintro c ⟨⟩; decide)
      have text : (Value.compactMembers [(v.1, .integer v.2)]).toList ++ '\x7d' :: r =
          '"' :: (v.1.toList ++ '"' :: ':' :: ((Text.signed v.2).toList ++ '\x7d' :: r)) := by
        simp [Value.compactMembers, Value.compact, Value.toList_quotedKey]
      rw [List.map_singleton, text]
      exact .last member (.done _)
    | cons w fields =>
      have rest := ih (List.cons_ne_nil _ _) others
      generalize shown : (Value.compactMembers
        ((w :: fields).map fun v => (v.1, .integer v.2))).toList ++ '\x7d' :: r = u at rest
      have member := first.member (r := ',' :: u) (by rintro c ⟨⟩; decide)
      have text : (Value.compactMembers
          ((v :: w :: fields).map fun v => (v.1, .integer v.2))).toList ++ '\x7d' :: r =
          '"' :: (v.1.toList ++ '"' :: ':' :: ((Text.signed v.2).toList ++ ',' :: u)) := by
        rw [← shown]
        simp [Value.compactMembers, Value.compact, Value.toList_quotedKey]
      rw [text]
      exact .next member (.done _) rest

theorem recordText_compact {fields : Values} (nonempty : fields ≠ [])
    (distinct : (fields.map Prod.fst).Nodup) (takes : ∀ v ∈ fields, schema.Takes v) :
    RecordText schema fields
      (Value.object (fields.map fun v => (v.1, .integer v.2))).compact.toList := by
  have members := members_compact nonempty takes []
  refine ⟨distinct, ?_, .members members, .done []⟩
  have text : (Value.object (fields.map fun v => (v.1, .integer v.2))).compact.toList = '\x7b' ::
      ((Value.compactMembers (fields.map fun v => (v.1, .integer v.2))).toList ++ ['\x7d']) := by
    simp [Value.compact]
  rw [text]
  exact .done _

end Compact

end DecimalPowers.Json
