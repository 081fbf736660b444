import DecimalPowers.CommandLine.Run
import DecimalPowers.FileStore
import DecimalPowers.Proofs.Json.Object

/-!
The parameters of a run. Every field comes from its option, if there is one, or else from the file,
or else from the defaults. A file may hold any of the fields in any order, and other keys; the
compact document of parameters holds them all and is read back as those parameters.
-/

set_option autoImplicit false
set_option relaxedAutoImplicit false

namespace DecimalPowers

open Json (RecordText Values)

namespace Parameters

/-- Parameters whose fields are integers of the types of the document. -/
structure Typed (c : Parameters) : Prop where
  minExp : Json.IntegerType.int32.Holds c.minExp
  maxExp : Json.IntegerType.int32.Holds c.maxExp
  bits : Json.IntegerType.nat32.Holds c.bits
  mantissa : Json.IntegerType.nat64.Holds c.mantissa

def fields (c : Parameters) : Values :=
  [("min_exp", c.minExp), ("max_exp", c.maxExp), ("bits", c.bits), ("mantissa", c.mantissa)]

private theorem toJson_eq (c : Parameters) :
    c.toJson = .object (c.fields.map fun v => (v.1, .integer v.2)) := rfl

private theorem ofValues_fields (c : Parameters) : ofValues c.fields = c := rfl

private theorem ofValues_congr {values read : Values}
    (same : ∀ key, read.lookup key = values.lookup key) : ofValues read = ofValues values := by
  simp only [ofValues, same]

theorem Typed.takes {c : Parameters} (typed : c.Typed) : ∀ v ∈ c.fields, schema.Takes v := by
  simp only [fields, List.forall_mem_cons, List.not_mem_nil, false_implies, implies_true, and_true]
  have plain : ∀ key ∈ ["min_exp", "max_exp", "bits", "mantissa"], Json.IsPlainKey key := by
    decide
  simp only [List.forall_mem_cons] at plain
  obtain ⟨first, last, width, significand, -⟩ := plain
  exact ⟨⟨first, _, rfl, typed.minExp⟩, ⟨last, _, rfl, typed.maxExp⟩, ⟨width, _, rfl, typed.bits⟩,
    ⟨significand, _, rfl, typed.mantissa⟩⟩

private theorem Typed.recordText {c : Parameters} (typed : c.Typed) :
    RecordText schema c.fields c.toJson.compact.toList := by
  rw [toJson_eq]
  exact Json.recordText_compact (List.cons_ne_nil _ _) (by simp [fields]) typed.takes

section Loading

variable {σ : Type} [FileSystem σ] {store : σ} {path : Path} {text : String} {values : Values}

private theorem load_of_recordText (content : FileSystem.readText store path = .ok text)
    (record : RecordText schema values text.toList) :
    load store path = .ok (ofValues values) := by
  obtain ⟨read, reads, found⟩ := record.read rfl
  rw [load, content]
  show (ofText text).mapError _ = _
  rw [ofText, reads, ← ofValues_congr found]
  rfl

private theorem load_compact {c : Parameters} (typed : c.Typed)
    (content : FileSystem.readText store path = .ok c.toJson.compact) :
    load store path = .ok c := by
  rw [load_of_recordText content typed.recordText, ofValues_fields]

end Loading

end Parameters

namespace Options

/-- The parameters of a run that has read the given fields: an option stands before a field of the
file, and both stand before the default. -/
def effective (o : Options) (values : Values) : Parameters where
  minExp := (o.minExp.or (values.lookup "min_exp")).getD (-305)
  maxExp := (o.maxExp.or (values.lookup "max_exp")).getD 305
  bits := (o.bits.or ((values.lookup "bits").map Int.toNat)).getD 64
  mantissa := (o.mantissa.or ((values.lookup "mantissa").map Int.toNat)).getD 1

private theorem override_ofValues (o : Options) (values : Values) :
    o.override (.ofValues values) = o.effective values := by
  simp only [override, Parameters.ofValues, effective, Option.getD_or]

variable {σ : Type} [FileSystem σ] {o : Options} {store : σ}

private theorem parameters_of_no_file (absent : o.config = none) :
    o.parameters store = .ok (o.effective []) := by
  rw [← override_ofValues, parameters, absent]
  rfl

private theorem parameters_of_load {path : String} {c : Parameters} (named : o.config = some path)
    (loaded : Parameters.load store (Path.ofString path) = .ok c) :
    o.parameters store = .ok (o.override c) := by
  rw [parameters, named]
  simp only [loaded]
  rfl

/-- Every field of the parameters of a run is that of its option, or else that of the file, or else
the default. Without options, the compact document of parameters gives those parameters. -/
theorem parameters_effective (o : Options) (store : σ) :
    (o.config = none → o.parameters store = .ok (o.effective [])) ∧
    (∀ path text values, o.config = some path →
      FileSystem.readText store (Path.ofString path) = .ok text →
      RecordText Parameters.schema values text.toList →
      o.parameters store = .ok (o.effective values)) ∧
    ∀ (path : String) (c : Parameters), c.Typed →
      FileSystem.readText store (Path.ofString path) = .ok c.toJson.compact →
      Parameters.load store (Path.ofString path) = .ok c ∧
        (o.config = some path → o.minExp = none → o.maxExp = none → o.bits = none →
          o.mantissa = none → o.parameters store = .ok c) := by
  refine ⟨parameters_of_no_file, ?_, ?_⟩
  · intro path text values named content record
    rw [parameters_of_load named (Parameters.load_of_recordText content record),
      override_ofValues]
  · intro path c typed content
    have loaded := Parameters.load_compact typed content
    refine ⟨loaded, fun named minExp maxExp bits mantissa => ?_⟩
    rw [parameters_of_load named loaded, override, minExp, maxExp, bits, mantissa]
    rfl

theorem parameters_effective_of_file :
    ({ config := some "c.json", bits := some 24 } : Options).parameters
        (⟨[(["c.json"], utf8 "\x7b\"note\":[\x7b\x7d],\"max_exp\":9,\"bits\":53\x7d\n")], []⟩ :
          FileStore) =
      .ok ⟨-305, 9, 24, 1⟩ ∧
    ({ config := some "c.json" } : Options).parameters
        (⟨[(["c.json"], utf8 (⟨-7, 9, 53, 3⟩ : Parameters).toJson.compact)], []⟩ : FileStore) =
      .ok ⟨-7, 9, 53, 3⟩ := by
  constructor
  · have record : RecordText Parameters.schema [("max_exp", 9), ("bits", 53)]
        "\x7b\"note\":[\x7b\x7d],\"max_exp\":9,\"bits\":53\x7d\n".toList := by
      have shown : "\x7b\"note\":[\x7b\x7d],\"max_exp\":9,\"bits\":53\x7d\n".toList =
          '\x7b' :: '"' :: ("note".toList ++ '"' :: ':' :: '[' :: '\x7b' :: '\x7d' :: ']' ::
            ',' :: '"' :: ("max_exp".toList ++ '"' :: ':' :: ((Text.signed 9).toList ++
            ',' :: '"' :: ("bits".toList ++ '"' :: ':' :: ((Text.signed 53).toList ++
            ['\x7d', '\n']))))) := by
        decide
      have note (r : List Char) : Json.Member Parameters.schema none
          ('"' :: ("note".toList ++ '"' :: ':' :: '[' :: '\x7b' :: '\x7d' :: ']' :: r)) r :=
        .other ⟨.done _, .of_plain (by decide) _, .done _, .done _⟩ rfl
          (.list (.lastItem (.done _) (.emptyObject (.done _)) (.done _)))
      have last : Parameters.schema.Takes ("max_exp", 9) := ⟨by decide, _, rfl, by decide⟩
      have width : Parameters.schema.Takes ("bits", 53) := ⟨by decide, _, rfl, by decide⟩
      rw [shown]
      exact ⟨by decide, .done _, .members (.next (note _) (.done _) (.next (last.member
        (by rintro c ⟨⟩; decide)) (.done _) (.last (width.member (by rintro c ⟨⟩; decide))
          (.done _)))), .cons rfl (.done _)⟩
    obtain ⟨-, from_file, -⟩ := parameters_effective { config := some "c.json", bits := some 24 }
      (⟨[(["c.json"], utf8 "\x7b\"note\":[\x7b\x7d],\"max_exp\":9,\"bits\":53\x7d\n")], []⟩ :
        FileStore)
    exact from_file _ _ _ rfl rfl record
  · have typed : (⟨-7, 9, 53, 3⟩ : Parameters).Typed :=
      ⟨by decide, by decide, by decide, by decide⟩
    obtain ⟨-, -, compact⟩ := parameters_effective { config := some "c.json" }
      (⟨[(["c.json"], utf8 (⟨-7, 9, 53, 3⟩ : Parameters).toJson.compact)], []⟩ : FileStore)
    exact (compact "c.json" _ typed rfl).2 rfl rfl rfl rfl rfl

end Options

end DecimalPowers
