import TokenClient.Proofs.FileStorage
import TokenClient.Proofs.SettingsDocument
import TokenClient.Settings.File

/-! Settings that were saved are loaded again, and a failed attempt to save them changes no
file. -/
namespace TokenClient

namespace Settings

variable {s : Settings} {files files' : Storage} {path : String}

/-- What was done when settings were saved. -/
structure Saved (s : Settings) (files : Storage) (path : String) (files' : Storage)
    (made : Storage) (text : String) : Prop where
  directories : files.makeDirectories (Storage.names path).dropLast = (.ok (), made)
  document : s.document = .ok text
  written : made.write path (Bytes.ofString text) = .ok files'

theorem save_ok_iff : s.save files path = (.ok (), files') ↔
    ∃ made text, Saved s files path files' made text := by
  constructor
  · intro saved
    unfold save at saved
    split at saved
    · cases saved
    · rename_i made directories
      split at saved
      · cases saved
      · rename_i text document
        split at saved
        · cases saved
        · rename_i written
          cases saved
          exact ⟨made, text, directories, document, written⟩
  · rintro ⟨made, text, directories, document, written⟩
    simp [save, directories, document, written]

theorem save_failed {failure : Failure} (failed : s.save files path = (.error failure, files')) :
    files'.files = files.files := by
  have kept := files.makeDirectories_files (Storage.names path).dropLast
  unfold save at failed
  split at failed
  · rename_i directories
    cases failed
    rwa [directories] at kept
  · rename_i directories
    rw [directories] at kept
    split at failed
    · cases failed
      exact kept
    · split at failed
      · cases failed
        exact kept
      · cases failed

/-- How an attempt to save ends does not depend on what the files hold. -/
theorem save_bare (s : Settings) (files : Storage) (path : String) :
    (s.save files.bare path).1 = (s.save files path).1 := by
  unfold save
  rw [Storage.makeDirectories_bare]
  rcases files.makeDirectories (Storage.names path).dropLast with ⟨_ | _, made⟩
  · rfl
  · cases s.document with
    | error failure => rfl
    | ok text =>
      have writes := made.write_bare path (Bytes.ofString text)
      dsimp only
      generalize made.bare.write path _ = first at writes ⊢
      generalize made.write path _ = second at writes ⊢
      cases first <;> cases second <;> cases writes <;> rfl

namespace Saved

variable {made : Storage} {text : String} (saved : Saved s files path files' made text)
include saved

theorem load_eq : load files' path = .ok s := by
  simp [load, Storage.isThere_write saved.written, Storage.read_write saved.written,
    read_document saved.document]

theorem place : ∃ place, files'.locate path = .ok (.file place) ∧
    ∀ other ≠ place, files'.files.lookup other = files.files.lookup other := by
  obtain ⟨place, located, rfl⟩ := Storage.write_ok saved.written
  have kept := files.makeDirectories_files (Storage.names path).dropLast
  rw [saved.directories] at kept
  refine ⟨place, located, fun other apart => ?_⟩
  rw [← kept]
  exact Storage.lookup_put_of_ne apart made.files

theorem again : s.save files' path = (.ok (), files') := by
  refine save_ok_iff.mpr ⟨files', text, ?_, saved.document, Storage.write_write saved.written⟩
  apply Storage.makeDirectories_of_isDirectory
  intro some_
  have there := Storage.makeDirectories_ok some_ saved.directories
  obtain ⟨place, -, rfl⟩ := Storage.write_ok saved.written
  exact Storage.isDirectory_of_subset (s := made) (List.Subset.refl _) there

end Saved

theorem saves_iff :
    (∃ files', s.save files path = (.ok (), files')) ↔ s.Bounded ∧ files.Writable path := by
  constructor
  · rintro ⟨files', saved⟩
    obtain ⟨made, text, saved⟩ := save_ok_iff.mp saved
    exact ⟨bounded_of_document saved.document, made, _, files', saved.directories, saved.written⟩
  · rintro ⟨bounded, made, content, written, directories, write⟩
    obtain ⟨files', written⟩ := Storage.write_any write (Bytes.ofString (String.ofList s.chars))
    exact ⟨files', save_ok_iff.mpr
      ⟨made, _, directories, document_of_bounded bounded, written⟩⟩

theorem bounded_iff_numbers : s.Bounded ↔ ∀ number ∈ s.numbers, number ≤ 2 ^ 63 - 1 := by
  have largest : maxInteger = 2 ^ 63 - 1 := by decide
  rw [Bounded, largest]

/-- Settings come back from the file they were saved to, in every member. Numbers of more than 63
bits cannot be saved, and then no file is another one or a new one. -/
theorem save_load (s : Settings) (files : Storage) (path : String) :
    ((∀ number ∈ s.numbers, number ≤ 2 ^ 63 - 1) → files.Writable path →
      ∃ files', s.save files path = (.ok (), files') ∧ load files' path = .ok s) ∧
    ((∃ number ∈ s.numbers, 2 ^ 63 - 1 < number) →
      ∃ failure files', s.save files path = (.error failure, files') ∧
        files'.files = files.files) := by
  constructor
  · intro small writable
    obtain ⟨files', saved⟩ := saves_iff.mpr ⟨bounded_iff_numbers.mpr small, writable⟩
    obtain ⟨made, text, done⟩ := save_ok_iff.mp saved
    exact ⟨files', saved, done.load_eq⟩
  · rintro ⟨number, member, large⟩
    rcases saved : s.save files path with ⟨failure | _, files'⟩
    · exact ⟨failure, files', rfl, save_failed saved⟩
    · have bounded := (saves_iff.mp ⟨files', saved⟩).1
      exact absurd (bounded_iff_numbers.mp bounded number member) (Nat.not_le_of_lt large)

/-- Quotes in runs, line breaks of both kinds, control characters and backslashes. -/
def hardSettings : Settings :=
  { rpcUrl := "\n\"\"\"'''\\\"\"\"\"\r\n\x00\x7f\t'\\\n\""
    chainId := some (2 ^ 63 - 1)
    gasLimit := 0
    transferAmount := "" }

def hardFiles : Storage := ⟨[(["notes"], [1, 2, 3])], [["keep"]]⟩

theorem hardFiles_writable : hardFiles.Writable "keep/new/settings.toml" := by
  have split : Storage.parts "keep/new/settings.toml" = ["keep", "new"] ++ ["settings.toml"] := by
    decide
  refine Storage.writable_of_names split (by simp [Storage.IsName]) ?_ (by decide)
  intro start some_ isStart
  obtain ⟨first, start, rfl⟩ := List.exists_cons_of_ne_nil some_
  obtain ⟨rfl, -⟩ := List.cons_prefix_cons.mp isStart
  exact .inr rfl

theorem save_load_hard :
    (∃ files', hardSettings.save hardFiles "keep/new/settings.toml" = (.ok (), files') ∧
      load files' "keep/new/settings.toml" = .ok hardSettings) ∧
    ∃ failure files', { hardSettings with gasLimit := 2 ^ 63 }.save hardFiles "notes" =
      (.error failure, files') ∧ files'.files = hardFiles.files :=
  ⟨(save_load hardSettings hardFiles "keep/new/settings.toml").1 (by decide) hardFiles_writable,
    (save_load { hardSettings with gasLimit := 2 ^ 63 } hardFiles "notes").2
      ⟨2 ^ 63, by decide, by decide⟩⟩

end Settings
end TokenClient
