import DecimalPowers.FileStore
import DecimalPowers.Proofs.FileSystem

/-!
A tree without links is lawful. A file is created in a directory, so the directories stay the same
and no path is obstructed by the new file.
-/

set_option autoImplicit false
set_option relaxedAutoImplicit false

namespace DecimalPowers

namespace Path

variable {path : Path} {name : String}

private theorem namesOf_concat (parts : List String) (proper : name ≠ "") :
    namesOf (parts ++ [name]) = step (namesOf parts) name := by
  have head : (parts ++ [name]).head? = some "" ↔ parts.head? = some "" := by
    cases parts <;> simp [proper]
  simp only [namesOf, head, List.foldl_append, List.foldl_cons, List.foldl_nil]

private theorem exists_parts_of_fileName? (named : path.fileName? = some name) :
    ∃ parts, path.parts = parts ++ [name] ∧ name ≠ "" ∧ path.names = namesOf parts ++ [name] := by
  obtain ⟨last, proper⟩ := Option.filter_eq_some_iff.mp named
  simp only [Bool.and_eq_true, decide_eq_true_eq, ne_eq] at proper
  obtain ⟨⟨nonempty, stays⟩, back⟩ := proper
  obtain ⟨parts, split⟩ := List.getLast?_eq_some_iff.mp last
  refine ⟨parts, split, nonempty, ?_⟩
  rw [names, split, namesOf_concat parts nonempty, step]
  simp [nonempty, stays, back]

private theorem toLastName_of_fileName? (named : path.fileName?.isSome) :
    path.toLastName = path.parts := by
  obtain ⟨name, named⟩ := Option.isSome_iff_exists.mp named
  obtain ⟨parts, split, nonempty, -⟩ := exists_parts_of_fileName? named
  simp [toLastName, split, nonempty]

end Path

namespace FileStore

variable {store created : FileStore} {path place : Path} {names way : List String}
  {bytes : List UInt8}

private theorem hasDirectory_iff : store.hasDirectory names ↔
    (∀ name ∈ names, name = "..") ∨ names = ["/"] ∨ (∃ known ∈ store.directories, names <+: known) ∨
      ∃ file ∈ store.files, names <+: file.1 ∧ names ≠ file.1 := by
  simp [hasDirectory, or_assoc]

private theorem hasDirectory_of_prefix (above : way <+: names) (there : store.hasDirectory names) :
    store.hasDirectory way := by
  rw [hasDirectory_iff] at there ⊢
  rcases there with up | rfl | ⟨known, member, below⟩ | ⟨file, member, below, distinct⟩
  · exact .inl fun name within => up name (above.subset within)
  · rcases List.prefix_cons_iff.mp above with rfl | ⟨rest, rfl, none_left⟩
    · exact .inl (by simp)
    · rw [List.prefix_nil.mp none_left]
      exact .inr (.inl rfl)
  · exact .inr (.inr (.inl ⟨known, member, above.trans below⟩))
  · refine .inr (.inr (.inr ⟨file, member, above.trans below, fun same => distinct ?_⟩))
    exact below.eq_of_length_le (same ▸ above.length_le)

private theorem obstacle?_eq_none_iff {ways : List (List String)} :
    store.obstacle? ways = none ↔ ∀ way ∈ ways, store.hasDirectory way := by
  simp [obstacle?]

/-- A path leads through directories to a place that is none. -/
structure Reaches (store : FileStore) (path : Path) : Prop where
  nonempty : path.parts ≠ [""]
  ways : ∀ way ∈ ways path.parts, store.hasDirectory way
  place : store.hasDirectory path.names = false

private theorem reaches_congr
    (same : ∀ way, created.hasDirectory way = store.hasDirectory way) :
    created.Reaches path ↔ store.Reaches path := by
  constructor
  · rintro ⟨nonempty, ways, place⟩
    simp only [same] at ways place
    exact ⟨nonempty, ways, place⟩
  · rintro ⟨nonempty, ways, place⟩
    refine ⟨nonempty, fun way on => ?_, ?_⟩
    · rw [same]
      exact ways way on
    · rw [same, place]

private theorem read_eq_ok_iff :
    store.read path = .ok bytes ↔ store.Reaches path ∧ store.content? path.names = some bytes := by
  constructor
  · intro done
    unfold read at done
    split at done
    · cases done
    next nonempty =>
    split at done
    · cases done
    next free =>
    split at done
    · cases done
    next place =>
    split at done
    · next content =>
      cases done
      exact ⟨⟨nonempty, obstacle?_eq_none_iff.mp free, by simpa using place⟩, content⟩
    · cases done
  · rintro ⟨⟨nonempty, ways, place⟩, content⟩
    simp [read, nonempty, obstacle?_eq_none_iff.mpr ways, place, content]

private theorem create_eq_ok_iff : store.create path = .ok (names, created) ↔
    store.Reaches path ∧ path.fileName?.isSome ∧ names = path.names ∧
      created = store.write path [] := by
  constructor
  · intro done
    unfold create at done
    split at done
    · cases done
    next nonempty =>
    split at done
    · cases done
    next free =>
    split at done
    · cases done
    next proper =>
    simp only [Bool.or_eq_true, not_or, Bool.not_eq_true, Option.isNone_eq_false_iff] at proper
    obtain ⟨named, place⟩ := proper
    rw [Path.toLastName_of_fileName? named] at free
    cases done
    exact ⟨⟨nonempty, obstacle?_eq_none_iff.mp free, place⟩, named, rfl, rfl⟩
  · rintro ⟨⟨nonempty, ways, place⟩, named, rfl, rfl⟩
    have free := obstacle?_eq_none_iff.mpr ways
    simp [create, nonempty, Path.toLastName_of_fileName? named, free, place,
      Option.isNone_eq_false_iff.mpr named]

private theorem content?_write : (store.write path bytes).content? way =
    if way = path.names then some bytes else store.content? way := by
  have kept (files : List (List String × List UInt8)) (h : way ≠ path.names) :
      (files.filter (fun file => file.1 ≠ path.names)).lookup way = files.lookup way := by
    have other : (way == path.names) = false := by simpa using h
    induction files with
    | nil => rfl
    | cons file files ih =>
      by_cases same : file.1 = path.names
      · rw [List.filter_cons_of_neg (by simpa using same), ih, List.lookup_cons]
        simp [same, other]
      · rw [List.filter_cons_of_pos (by simpa using same), List.lookup_cons, List.lookup_cons, ih]
  unfold content? write
  by_cases h : way = path.names
  · simp [h]
  · have other : (way == path.names) = false := by simpa using h
    simp only [h, if_false, List.lookup_cons, other, kept store.files h]

section Created

variable (made : store.create path = .ok (names, created))

include made

private theorem hasDirectory_of_above (above : way <+: path.names) (distinct : way ≠ path.names) :
    store.hasDirectory way := by
  obtain ⟨reached, named, -, -⟩ := create_eq_ok_iff.mp made
  obtain ⟨name, named⟩ := Option.isSome_iff_exists.mp named
  obtain ⟨parts, split, -, place⟩ := Path.exists_parts_of_fileName? named
  have parent : store.hasDirectory (Path.namesOf parts) := by
    apply reached.ways
    refine List.mem_map.mpr ⟨parts.length, ?_, ?_⟩
    · simp [split]
    · simp [split]
  refine hasDirectory_of_prefix ?_ parent
  rw [place] at above distinct
  exact (List.prefix_concat_iff.mp above).resolve_left distinct

private theorem hasDirectory_created : created.hasDirectory way = store.hasDirectory way := by
  obtain ⟨-, -, rfl, rfl⟩ := create_eq_ok_iff.mp made
  rw [Bool.eq_iff_iff]
  constructor
  · intro there
    rcases hasDirectory_iff.mp there with up | root | known | ⟨file, member, above, distinct⟩
    · exact hasDirectory_iff.mpr (.inl up)
    · exact hasDirectory_iff.mpr (.inr (.inl root))
    · exact hasDirectory_iff.mpr (.inr (.inr (.inl known)))
    · rcases List.mem_cons.mp member with rfl | old
      · exact hasDirectory_of_above made above distinct
      · exact hasDirectory_iff.mpr
          (.inr (.inr (.inr ⟨file, (List.mem_filter.mp old).1, above, distinct⟩)))
  · intro there
    rw [hasDirectory_iff] at there ⊢
    refine there.imp_right (Or.imp_right (Or.imp_right ?_))
    rintro ⟨file, member, above, distinct⟩
    by_cases same : file.1 = path.names
    · exact ⟨_, List.mem_cons_self, same ▸ above, same ▸ distinct⟩
    · exact ⟨file, List.mem_cons_of_mem _ (List.mem_filter.mpr ⟨member, by simpa using same⟩),
        above, distinct⟩

private theorem reaches_created : created.Reaches place ↔ store.Reaches place :=
  reaches_congr fun _ => hasDirectory_created made

private theorem content?_created :
    created.content? way = if way = path.names then some [] else store.content? way := by
  obtain ⟨-, -, -, rfl⟩ := create_eq_ok_iff.mp made
  exact content?_write

end Created

private theorem resolve?_eq_some_iff : FileSystem.resolve? store path = some names ↔
    store.Reaches path ∧ (store.content? path.names).isSome ∧ path.names = names := by
  show (store.read path).toOption.map (fun _ => path.names) = some names ↔ _
  constructor
  · intro leads
    obtain ⟨bytes, found, rfl⟩ := Option.map_eq_some_iff.mp leads
    cases done : store.read path with
    | error cause =>
      rw [done] at found
      cases found
    | ok bytes =>
      obtain ⟨reached, content⟩ := read_eq_ok_iff.mp done
      exact ⟨reached, by rw [content]; rfl, rfl⟩
  · rintro ⟨reached, present, rfl⟩
    obtain ⟨bytes, content⟩ := Option.isSome_iff_exists.mp present
    rw [read_eq_ok_iff.mpr ⟨reached, content⟩]
    rfl

private theorem resolve?_created (made : store.create path = .ok (names, created)) :
    FileSystem.resolve? created place = FileSystem.resolve? store place ∨
      FileSystem.resolve? store place = none ∧ FileSystem.resolve? created place = some names := by
  obtain ⟨-, -, rfl, -⟩ := create_eq_ok_iff.mp made
  by_cases new : store.Reaches place ∧ store.content? place.names = none ∧ place.names = path.names
  · obtain ⟨reached, absent, same⟩ := new
    refine .inr ⟨?_, ?_⟩
    · refine Option.eq_none_iff_forall_ne_some.mpr fun old leads => ?_
      obtain ⟨-, present, -⟩ := resolve?_eq_some_iff.mp leads
      simp [absent] at present
    · refine resolve?_eq_some_iff.mpr ⟨(reaches_created made).mpr reached, ?_, same⟩
      simp [content?_created made, same]
  · refine .inl (Option.ext fun old => ?_)
    rw [resolve?_eq_some_iff, resolve?_eq_some_iff, reaches_created made, content?_created made]
    refine and_congr_right fun reached => and_congr_left fun leads => ?_
    by_cases same : place.names = path.names
    · have present : store.content? place.names ≠ none := fun absent => new ⟨reached, absent, same⟩
      simp [same, Option.isSome_iff_ne_none, same ▸ present]
    · simp [same]

section Appended

variable {more : List UInt8}

private theorem content?_append : (store.append names more).content? way =
    if way = names then (store.content? way).map (· ++ more) else store.content? way := by
  have mapped (files : List (List String × List UInt8)) :
      (files.map fun file =>
          (file.1, if file.1 = names then file.2 ++ more else file.2)).lookup way =
        if way = names then (files.lookup way).map (· ++ more) else files.lookup way := by
    induction files with
    | nil => simp
    | cons file files ih =>
      obtain ⟨there, bytes⟩ := file
      simp only [List.map_cons, List.lookup_cons, ih]
      cases here : way == there with
      | false => rfl
      | true =>
        rw [beq_iff_eq.mp here]
        exact apply_ite some _ _ _
  exact mapped store.files

private theorem hasDirectory_append :
    (store.append names more).hasDirectory way = store.hasDirectory way := by
  simp only [hasDirectory, append, List.any_map, Function.comp_def]

private theorem reaches_append : (store.append names more).Reaches path ↔ store.Reaches path :=
  reaches_congr fun _ => hasDirectory_append

private theorem resolve?_append :
    FileSystem.resolve? (store.append names more) path = FileSystem.resolve? store path := by
  refine Option.ext fun file => ?_
  rw [resolve?_eq_some_iff, resolve?_eq_some_iff, reaches_append, content?_append]
  split
  · rw [Option.isSome_map]
  · rfl

end Appended

instance : LawfulFileSystem FileStore where
  content?_of_read done := by
    obtain ⟨reached, content⟩ := read_eq_ok_iff.mp done
    exact ⟨_, resolve?_eq_some_iff.mpr ⟨reached, Option.isSome_of_eq_some content, rfl⟩, content⟩
  resolve?_create made := by
    obtain ⟨reached, -, rfl, -⟩ := create_eq_ok_iff.mp made
    refine resolve?_eq_some_iff.mpr ⟨(reaches_created made).mpr reached, ?_, rfl⟩
    simp [content?_created made]
  resolve?_create_or _ made := resolve?_created made
  content?_of_create_new made absent := by
    obtain ⟨reached, -, rfl, -⟩ := create_eq_ok_iff.mp made
    refine Option.eq_none_iff_forall_ne_some.mpr fun bytes content => ?_
    cases absent.symm.trans
      (resolve?_eq_some_iff.mpr ⟨reached, Option.isSome_of_eq_some content, rfl⟩)
  content?_create made := by
    obtain ⟨-, -, rfl, -⟩ := create_eq_ok_iff.mp made
    exact (content?_created made).trans (if_pos rfl)
  content?_create_of_ne made other := by
    obtain ⟨-, -, rfl, -⟩ := create_eq_ok_iff.mp made
    exact (content?_created made).trans (if_neg other)
  content?_append there := by
    refine content?_append.trans ((if_pos rfl).trans ?_)
    rw [show FileStore.content? _ _ = _ from there]
    rfl
  content?_append_of_ne other := content?_append.trans (if_neg other)
  resolve?_append := resolve?_append

end FileStore

end DecimalPowers
