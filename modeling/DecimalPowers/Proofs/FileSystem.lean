import DecimalPowers.FileSystem
import DecimalPowers.Proofs.Outcome
import DecimalPowers.Sink

/-!
What is known of any files. The laws are those of regular files in one tree of names: a file is what
paths lead to, so links and different spellings may name one file, and a file may be refused for any
reason. Writing to a file that was created does not fail.
-/

set_option autoImplicit false
set_option relaxedAutoImplicit false

namespace DecimalPowers

open FileSystem (File resolve? content? read create append readText)

/-- Regular files. What is read is the content of the file that the path leads to. The path of a
file that is created leads to it, and any other path leads where it did, or to that file if it led
to none. The file is then empty, and if the path led to none it was not there; all others keep their
content. Writing adds to the one file. -/
class LawfulFileSystem (σ : Type) [FileSystem σ] : Prop where
  content?_of_read {store : σ} {path : Path} {bytes : List UInt8} :
    read store path = .ok bytes →
      ∃ file, resolve? store path = some file ∧ content? store file = some bytes
  resolve?_create {store created : σ} {path : Path} {file : File σ} :
    create store path = .ok (file, created) → resolve? created path = some file
  resolve?_create_or {store created : σ} {path : Path} {file : File σ} (place : Path) :
    create store path = .ok (file, created) →
      resolve? created place = resolve? store place ∨
        resolve? store place = none ∧ resolve? created place = some file
  content?_of_create_new {store created : σ} {path : Path} {file : File σ} :
    create store path = .ok (file, created) → resolve? store path = none →
      content? store file = none
  content?_create {store created : σ} {path : Path} {file : File σ} :
    create store path = .ok (file, created) → content? created file = some []
  content?_create_of_ne {store created : σ} {path : Path} {file other : File σ} :
    create store path = .ok (file, created) → other ≠ file →
      content? created other = content? store other
  content?_append {store : σ} {file : File σ} {bytes more : List UInt8} :
    content? store file = some bytes →
      content? (append store file more) file = some (bytes ++ more)
  content?_append_of_ne {store : σ} {file other : File σ} {more : List UInt8} : other ≠ file →
    content? (append store file more) other = content? store other
  resolve?_append {store : σ} {file : File σ} {more : List UInt8} {path : Path} :
    resolve? (append store file more) path = resolve? store path

namespace FileSystem

variable {σ : Type} [FileSystem σ] {store created : σ} {path : Path} {file : File σ}

def HasText (store : σ) (path : Path) (text : String) : Prop :=
  ∃ file, resolve? store path = some file ∧ content? store file = some (utf8 text)

/-- The file that a path leads to holds the given bytes. It is the one that the path led to before,
or it is new; no other file has changed, and a path leads where it did, or to the new file. -/
structure Rewritten (store after : σ) (path : Path) (bytes : List UInt8) (file : File σ) :
    Prop where
  leads : resolve? after path = some file
  old_or_new : resolve? store path = some file ∨
    resolve? store path = none ∧ content? store file = none
  content : content? after file = some bytes
  others : ∀ other, other ≠ file → content? after other = content? store other
  places : ∀ place, resolve? after place = resolve? store place ∨
    resolve? store place = none ∧ resolve? after place = some file

section Lawful

variable [LawfulFileSystem σ]

theorem hasText_of_readText {text : String} (done : readText store path = .ok text) :
    HasText store path text := by
  obtain ⟨bytes, found, decoded⟩ := bind_eq_ok_iff.mp done
  obtain ⟨file, leads, content⟩ := LawfulFileSystem.content?_of_read found
  refine ⟨file, leads, content.trans (congrArg some ?_)⟩
  split at decoded
  · next valid =>
    cases decoded
    unfold String.fromUTF8? at valid
    split at valid
    · cases valid
      rfl
    · cases valid
  · cases decoded

private theorem eq_of_create {old : File σ} (made : create store path = .ok (file, created))
    (leads : resolve? store path = some old) : file = old := by
  have after := LawfulFileSystem.resolve?_create made
  rcases LawfulFileSystem.resolve?_create_or path made with same | ⟨absent, -⟩
  · exact Option.some.inj (after.symm.trans (same.trans leads))
  · cases absent.symm.trans leads

theorem rewritten_append (made : create store path = .ok (file, created)) (bytes : List UInt8) :
    Rewritten store (append created file bytes) path bytes file where
  leads := by
    rw [LawfulFileSystem.resolve?_append, LawfulFileSystem.resolve?_create made]
  old_or_new := by
    cases leads : resolve? store path with
    | none => exact .inr ⟨rfl, LawfulFileSystem.content?_of_create_new made leads⟩
    | some old => exact .inl (congrArg some (eq_of_create made leads).symm)
  content := by
    rw [LawfulFileSystem.content?_append (LawfulFileSystem.content?_create made), List.nil_append]
  others := fun other distinct => by
    rw [LawfulFileSystem.content?_append_of_ne distinct,
      LawfulFileSystem.content?_create_of_ne made distinct]
  places := fun place => by
    rw [LawfulFileSystem.resolve?_append]
    exact LawfulFileSystem.resolve?_create_or place made

end Lawful

end FileSystem

end DecimalPowers
