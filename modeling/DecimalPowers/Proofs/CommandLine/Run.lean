import DecimalPowers.CommandLine.Run
import DecimalPowers.Proofs.FileStore
import DecimalPowers.Proofs.Table.FullPrecision
import DecimalPowers.Proofs.Table.Writing

/-!
A run is all or nothing. Everything that can fail comes before the first change: a run that fails
has the cause of the first stage that fails, and leaves every file and the standard output as they
were. A run that succeeds has written the whole table to one place and changed no other file. All
that it reads, it reads before the output is created, so the output may be one of the files read.
-/

set_option autoImplicit false
set_option relaxedAutoImplicit false

namespace DecimalPowers

namespace Run

variable {σ α β ε : Type} {s t : Session σ} {cause : RunError}

private theorem bind_of_ok {x : Run σ α} {a : α} (h : x.run s = (.ok a, t)) (f : α → Run σ β) :
    (x >>= f).run s = (f a).run t := by
  rw [ExceptT.run_bind]
  show (StateT.bind _ _) s = _
  rw [StateT.bind, h]
  rfl

private theorem bind_of_error {x : Run σ α} (h : x.run s = (.error cause, t)) (f : α → Run σ β) :
    (x >>= f).run s = (.error cause, t) := by
  rw [ExceptT.run_bind]
  show (StateT.bind _ _) s = _
  rw [StateT.bind, h]
  rfl

private theorem run_get : (get : Run σ (Session σ)).run s = (.ok s, s) := rfl

private theorem run_check (rename : ε → RunError) (x : Except ε α) :
    (check rename x).run s = (x.mapError rename, s) := by
  cases x <;> rfl

private theorem run_logged (rename : ε → RunError) (x : Logged ε α) :
    (logged rename x).run s =
      (x.outcome.mapError rename, { s with events := s.events ++ x.events }) := by
  unfold logged
  cases x.outcome <;> rfl

end Run

namespace Options

open FileSystem (File HasText Rewritten content? create readText)

variable {σ : Type} [FileSystem σ]

/-- The cause for which a run fails. A stage is reached only when the stages before it succeed. -/
inductive FailsWith (o : Options) (store : σ) : RunError → Prop
  | config {path : String} {cause : LoadError} : o.config = some path →
      Parameters.load store (Path.ofString path) = .error cause →
      FailsWith o store (.config path cause)
  | headerOfDocument {c : Parameters} {path : String} : o.parameters store = .ok c →
      o.header = some path → o.format = .document → FailsWith o store .headerOfDocument
  | header {c : Parameters} {path : String} {cause : FileError} : o.parameters store = .ok c →
      o.header = some path → o.format = .source →
      readText store (Path.ofString path) = .error cause → FailsWith o store (.header path cause)
  | generation {c : Parameters} {header : Option String} {cause : Failure} :
      o.parameters store = .ok c → o.headerText store = .ok header →
      (Table.generate c).outcome = .error cause → FailsWith o store (.generation cause)
  | create {c : Parameters} {header : Option String} {t : Table} {path : String}
      {cause : FileError} : o.parameters store = .ok c → o.headerText store = .ok header →
      (Table.generate c).outcome = .ok t → o.output = some path →
      create store (Path.ofString path) = .error cause → FailsWith o store (.create path cause)

/-- What a sink without limit receives for a table in the format that is asked for. -/
def wholeText (o : Options) (header : Option String) (t : Table) : List UInt8 :=
  match o.format with
  | .source => (t.writeSource header none).received
  | .document => (t.writeDocument none).received

variable {o : Options} {store : σ} {s : Session σ}

private theorem utf8_render (header : Option String) (t : Table) :
    utf8 (o.render header t) = o.wholeText header t := by
  unfold render wholeText
  cases o.format with
  | source => rw [Table.writeSource_none]
  | document => rw [Table.writeDocument_none]

section Stages

variable {c : Parameters} {header : Option String} {t : Table} {cause : RunError}

private theorem parameters_eq_error_iff : o.parameters store = .error cause ↔
    ∃ path origin, o.config = some path ∧
      Parameters.load store (Path.ofString path) = .error origin ∧
      .config path origin = cause := by
  unfold parameters
  cases o.config with
  | none =>
    constructor
    · intro failed
      cases failed
    · rintro ⟨path, origin, named, -⟩
      cases named
  | some path =>
    show ((Parameters.load store (Path.ofString path)).mapError (RunError.config path)).bind _ =
      _ ↔ _
    rw [bind_eq_error_iff, mapError_eq_error_iff]
    constructor
    · rintro (⟨origin, failed, rfl⟩ | ⟨c, -, failed⟩)
      · exact ⟨path, origin, rfl, failed, rfl⟩
      · cases failed
    · rintro ⟨_, origin, ⟨⟩, failed, rfl⟩
      exact .inl ⟨origin, failed, rfl⟩

private theorem headerText_eq_error_iff : o.headerText store = .error cause ↔
    ∃ path, o.header = some path ∧
      (o.format = .document ∧ .headerOfDocument = cause ∨
        o.format = .source ∧ ∃ origin, readText store (Path.ofString path) = .error origin ∧
          .header path origin = cause) := by
  unfold headerText
  cases o.header with
  | none => simp
  | some path =>
    cases o.format with
    | document => simp
    | source => simp [map_eq_error_iff, mapError_eq_error_iff]

private theorem run_of_parameters_error (failed : o.parameters s.store = .error cause) :
    o.run.run s = (.error cause, s) := by
  unfold run
  rw [Run.bind_of_ok Run.run_get]
  apply Run.bind_of_error
  rw [Run.run_check, failed]
  rfl

private theorem run_of_headerText_error (hc : o.parameters s.store = .ok c)
    (failed : o.headerText s.store = .error cause) : o.run.run s = (.error cause, s) := by
  unfold run
  rw [Run.bind_of_ok Run.run_get]
  simp only [hc, Run.check, pure_bind]
  apply Run.bind_of_error
  rw [failed]
  rfl

private theorem run_of_generate_error (hc : o.parameters s.store = .ok c)
    (hh : o.headerText s.store = .ok header) {failure : Failure}
    (failed : (Table.generate c).outcome = .error failure) :
    o.run.run s = (.error (.generation failure),
      { s with events := s.events ++ (Table.generate c).events }) := by
  unfold run
  rw [Run.bind_of_ok Run.run_get]
  simp only [hc, hh, Run.check, pure_bind]
  apply Run.bind_of_error
  rw [Run.run_logged, failed]
  rfl

def emit (o : Options) (header : Option String) (t : Table) : Run σ Unit := do
  let file ← o.createOutput
  writeOutput file (o.render header t)
  match o.output with
  | none => pure ()
  | some path =>
    modify (fun session => { session with events := session.events ++ [.written path t.size] })

private theorem run_of_generate_ok (hc : o.parameters s.store = .ok c)
    (hh : o.headerText s.store = .ok header) (ht : (Table.generate c).outcome = .ok t) :
    o.run.run s =
      (o.emit header t).run { s with events := s.events ++ (Table.generate c).events } := by
  have made := Run.run_logged (s := s) .generation (Table.generate c)
  rw [ht] at made
  unfold run
  rw [Run.bind_of_ok Run.run_get]
  simp only [hc, hh, Run.check, pure_bind]
  rw [Run.bind_of_ok made]
  rfl

private theorem emit_of_no_output (standard : o.output = none) :
    (o.emit header t).run s = (.ok (), { s with stdout := s.stdout ++ o.wholeText header t }) := by
  unfold emit createOutput writeOutput
  rw [standard, utf8_render]
  rfl

private theorem createOutput_eq {path : String} (named : o.output = some path) :
    o.createOutput.run s =
      match create s.store (Path.ofString path) with
      | .ok (file, store) => (.ok (some file), { s with store })
      | .error failure => (.error (.create path failure), s) := by
  unfold createOutput
  simp only [named]
  rw [Run.bind_of_ok Run.run_get]
  cases create s.store (Path.ofString path) <;> rfl

private theorem emit_of_create_error {path : String} {failure : FileError}
    (named : o.output = some path)
    (failed : create s.store (Path.ofString path) = .error failure) :
    (o.emit header t).run s = (.error (.create path failure), s) := by
  unfold emit
  apply Run.bind_of_error
  rw [createOutput_eq named, failed]

private theorem emit_of_create_ok {path : String} {file : File σ} {created : σ}
    (named : o.output = some path)
    (made : create s.store (Path.ofString path) = .ok (file, created)) :
    (o.emit header t).run s =
      (.ok (), { s with
        store := FileSystem.append created file (o.wholeText header t)
        events := s.events ++ [.written path t.size] }) := by
  have opened := createOutput_eq (s := s) named
  rw [made] at opened
  unfold emit
  rw [Run.bind_of_ok opened, named, ← utf8_render]
  rfl

end Stages

private theorem run_of_failsWith {cause : RunError} (h : o.FailsWith s.store cause) :
    ∃ events, o.run.run s = (.error cause, { s with events }) := by
  cases h with
  | @config path origin named failed =>
    have failed : o.parameters s.store = .error (.config path origin) :=
      parameters_eq_error_iff.mpr ⟨path, origin, named, failed, rfl⟩
    exact ⟨_, run_of_parameters_error failed⟩
  | @headerOfDocument c path hc named format =>
    have failed : o.headerText s.store = .error .headerOfDocument :=
      headerText_eq_error_iff.mpr ⟨path, named, .inl ⟨format, rfl⟩⟩
    exact ⟨_, run_of_headerText_error hc failed⟩
  | @header c path origin hc named format failed =>
    have failed : o.headerText s.store = .error (.header path origin) :=
      headerText_eq_error_iff.mpr ⟨path, named, .inr ⟨format, origin, failed, rfl⟩⟩
    exact ⟨_, run_of_headerText_error hc failed⟩
  | generation hc hh failed => exact ⟨_, run_of_generate_error hc hh failed⟩
  | @create c header t path origin hc hh ht named failed =>
    rw [run_of_generate_ok hc hh ht]
    exact ⟨_, emit_of_create_error named failed⟩

/-- A run fails at one of its stages, or has its parameters, header, table and output. -/
theorem failsWith_or_ready (o : Options) (store : σ) :
    (∃ cause, o.FailsWith store cause) ∨
      ∃ c header t, o.parameters store = .ok c ∧ o.headerText store = .ok header ∧
        (Table.generate c).outcome = .ok t ∧
        ∀ path, o.output = some path → ∃ made,
          create store (Path.ofString path) = .ok made := by
  cases hc : o.parameters store with
  | error cause =>
    obtain ⟨path, origin, named, failed, -⟩ := parameters_eq_error_iff.mp hc
    exact .inl ⟨_, .config named failed⟩
  | ok c =>
    cases hh : o.headerText store with
    | error cause =>
      obtain ⟨path, named, ⟨format, -⟩ | ⟨format, origin, failed, -⟩⟩ :=
        headerText_eq_error_iff.mp hh
      · exact .inl ⟨_, .headerOfDocument hc named format⟩
      · exact .inl ⟨_, .header hc named format failed⟩
    | ok header =>
      cases ht : (Table.generate c).outcome with
      | error cause => exact .inl ⟨_, .generation hc hh ht⟩
      | ok t =>
        by_cases fails : ∃ cause, o.FailsWith store cause
        · exact .inl fails
        · refine .inr ⟨c, header, t, rfl, rfl, ht, fun path named => ?_⟩
          cases opened : create store (Path.ofString path) with
          | error cause => exact absurd ⟨_, .create hc hh ht named opened⟩ fails
          | ok made => exact ⟨made, rfl⟩

private theorem run_of_ready {c : Parameters} {header : Option String} {t : Table}
    (hc : o.parameters s.store = .ok c) (hh : o.headerText s.store = .ok header)
    (ht : (Table.generate c).outcome = .ok t)
    (ready : ∀ path, o.output = some path → ∃ made,
      create s.store (Path.ofString path) = .ok made) :
    ∃ after, o.run.run s = (.ok (), after) ∧
      (o.output = none → after.stdout = s.stdout ++ o.wholeText header t ∧
        after.store = s.store) ∧
      ∀ path, o.output = some path → after.stdout = s.stdout ∧ ∃ file created,
        create s.store (Path.ofString path) = .ok (file, created) ∧
        after.store = FileSystem.append created file (o.wholeText header t) := by
  rw [run_of_generate_ok hc hh ht]
  cases output : o.output with
  | none =>
    refine ⟨_, emit_of_no_output output, fun _ => ⟨rfl, rfl⟩, fun path named => ?_⟩
    cases named
  | some path =>
    obtain ⟨⟨file, created⟩, made⟩ := ready path output
    refine ⟨_, emit_of_create_ok output made, fun absent => ?_, ?_⟩
    · cases absent
    · rintro _ ⟨⟩
      exact ⟨rfl, file, created, made, rfl⟩

private theorem run_eq_error_iff {cause : RunError} :
    (∃ after, o.run.run s = (.error cause, after)) ↔ o.FailsWith s.store cause := by
  constructor
  · rintro ⟨after, result⟩
    rcases o.failsWith_or_ready s.store with ⟨other, fails⟩ | ⟨c, header, t, hc, hh, ht, ready⟩
    · obtain ⟨events, failed⟩ := run_of_failsWith fails
      rw [failed] at result
      cases result
      exact fails
    · obtain ⟨_, done, -⟩ := run_of_ready hc hh ht ready
      rw [done] at result
      cases result
  · intro fails
    obtain ⟨events, failed⟩ := run_of_failsWith fails
    exact ⟨_, failed⟩

section Reads

variable [LawfulFileSystem σ] {c : Parameters} {header : Option String} {path : String}

private theorem hasText_of_parameters (hc : o.parameters store = .ok c)
    (named : o.config = some path) :
    ∃ text read, HasText store (Path.ofString path) text ∧ Parameters.ofText text = .ok read ∧
      c = o.override read := by
  simp only [parameters, named] at hc
  obtain ⟨read, loaded, merged⟩ := bind_eq_ok_iff.mp hc
  obtain ⟨text, found, parsed⟩ := bind_eq_ok_iff.mp (mapError_eq_ok_iff.mp loaded)
  cases merged
  exact ⟨text, read, FileSystem.hasText_of_readText (mapError_eq_ok_iff.mp found),
    mapError_eq_ok_iff.mp parsed, rfl⟩

private theorem hasText_of_headerText (hh : o.headerText store = .ok header)
    (named : o.header = some path) :
    ∃ text, HasText store (Path.ofString path) text ∧ header = some text := by
  simp only [headerText, named] at hh
  split at hh
  · cases hh
  · obtain ⟨text, found, rfl⟩ := map_eq_ok_iff.mp hh
    exact ⟨text, FileSystem.hasText_of_readText (mapError_eq_ok_iff.mp found), rfl⟩

end Reads

/-- A run from any files fails exactly when one of its stages does, and then every file is as it was
and nothing is printed. Otherwise the text of the table is all that is printed, or the content of
the file that the path of the output leads to, and no other file has changed. The parameters and the
header are those of the files before the run, of which the output may be one. -/
theorem run_all_or_nothing [LawfulFileSystem σ] (o : Options) (store : σ) :
    (∀ cause, (∃ after, o.run.run { store } = (.error cause, after)) ↔ o.FailsWith store cause) ∧
    (∀ cause after, o.run.run { store } = (.error cause, after) →
      after.stdout = [] ∧ after.store = store) ∧
    ∀ after, o.run.run { store } = (.ok (), after) →
      ∃ c header t, o.parameters store = .ok c ∧ o.headerText store = .ok header ∧
        (Table.generate c).outcome = .ok t ∧
        (∀ path, o.config = some path → ∃ text read, HasText store (Path.ofString path) text ∧
          Parameters.ofText text = .ok read ∧ c = o.override read) ∧
        (∀ path, o.header = some path →
          ∃ text, HasText store (Path.ofString path) text ∧ header = some text) ∧
        (o.output = none → after.stdout = o.wholeText header t ∧ after.store = store) ∧
        ∀ path, o.output = some path → after.stdout = [] ∧
          ∃ file, Rewritten store after.store (Path.ofString path) (o.wholeText header t) file := by
  refine ⟨fun cause => run_eq_error_iff, fun cause after result => ?_, fun after result => ?_⟩
  · obtain ⟨events, failed⟩ := run_of_failsWith (run_eq_error_iff.mp ⟨after, result⟩)
    rw [failed] at result
    cases result
    exact ⟨rfl, rfl⟩
  · rcases o.failsWith_or_ready store with ⟨cause, fails⟩ | ⟨c, header, t, hc, hh, ht, ready⟩
    · obtain ⟨events, failed⟩ := run_of_failsWith (s := { store }) fails
      rw [failed] at result
      cases result
    · obtain ⟨_, done, printed, written⟩ := run_of_ready (s := { store }) hc hh ht ready
      rw [done] at result
      cases result
      refine ⟨c, header, t, hc, hh, ht, fun _ => hasText_of_parameters hc,
        fun _ => hasText_of_headerText hh, printed, fun path named => ?_⟩
      obtain ⟨silent, file, created, made, stored⟩ := written path named
      rw [stored]
      exact ⟨silent, file, FileSystem.rewritten_append made _⟩

def oldTable : FileStore := ⟨[(["table.rs"], utf8 "old")], [["x"]]⟩

theorem run_all_or_nothing_over_old :
    (∃ cause after, ({ maxExp := some 9884, output := some "table.rs" } : Options).run.run
        { store := oldTable } = (.error (.generation cause), after) ∧
      after.stdout = [] ∧ after.store = oldTable) ∧
    (∃ after, ({ output := some "x/.." } : Options).run.run { store := oldTable } =
        (.error (.create "x/.." .isDirectory), after) ∧
      after.stdout = [] ∧ after.store = oldTable) ∧
    ∃ t after, (Table.generate {}).outcome = .ok t ∧
      ({ header := some "table.rs", output := some "x/../table.rs" } : Options).run.run
        { store := oldTable } = (.ok (), after) ∧
      after.stdout = [] ∧
      after.store.content? ["table.rs"] = some (t.writeSource (some "old") none).received := by
  obtain ⟨t, made⟩ : ∃ t, (Table.generate {}).outcome = .ok t :=
    (Table.exists_generate_full_iff (by decide) (by decide) (by decide)).mpr (by decide)
  refine ⟨?_, ?_, ?_⟩
  · cases made : (Table.generate ⟨-305, 9884, 64, 1⟩).outcome with
    | ok t =>
      have fits := (Table.exists_generate_full_iff (by decide) (by decide) (by decide)).mp ⟨t, made⟩
      exact absurd fits (by decide)
    | error cause =>
      obtain ⟨failure, unchanged, -⟩ := run_all_or_nothing
        { maxExp := some 9884, output := some "table.rs" } oldTable
      obtain ⟨after, result⟩ := (failure (.generation cause)).mpr (.generation rfl rfl made)
      exact ⟨cause, after, result, unchanged _ after result⟩
  · obtain ⟨failure, unchanged, -⟩ := run_all_or_nothing { output := some "x/.." } oldTable
    have refused : create oldTable (Path.ofString "x/..") = .error .isDirectory := rfl
    obtain ⟨after, result⟩ := (failure _).mpr (.create rfl rfl made rfl refused)
    exact ⟨after, result, unchanged _ after result⟩
  · have header : ({ header := some "table.rs", output := some "x/../table.rs" } :
        Options).headerText oldTable = .ok (some "old") := rfl
    have leads : FileSystem.resolve? oldTable (Path.ofString "x/../table.rs") =
        some ["table.rs"] := rfl
    have creates : ∃ made, create oldTable (Path.ofString "x/../table.rs") = .ok made := ⟨_, rfl⟩
    obtain ⟨after, result, -⟩ := run_of_ready
      (o := { header := some "table.rs", output := some "x/../table.rs" })
      (s := { store := oldTable }) rfl header made (by rintro _ ⟨⟩; exact creates)
    obtain ⟨-, -, whole⟩ := run_all_or_nothing
      { header := some "table.rs", output := some "x/../table.rs" } oldTable
    obtain ⟨c, found, u, hc, hh, hu, -, -, -, written⟩ := whole after result
    obtain ⟨silent, file, rewritten⟩ := written "x/../table.rs" rfl
    cases hc
    cases header.symm.trans hh
    cases made.symm.trans hu
    have same : file = ["table.rs"] := by
      rcases rewritten.old_or_new with before | ⟨absent, -⟩
      · exact Option.some.inj (before.symm.trans leads)
      · cases absent.symm.trans leads
    subst same
    exact ⟨t, after, made, result, silent, rewritten.content⟩

end Options

end DecimalPowers
