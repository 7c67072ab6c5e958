import PostalRegions.Proofs.Storage.Files
import PostalRegions.Snapshot.Store

/-!
# Putting snapshot files into place

A snapshot file is put into place as a whole, or else no file is touched.
-/

namespace PostalRegions.SnapshotStore

variable {κ : Type} {directory next : DataDirectory κ} {path : String} {now : Instant}

theorem sameFiles_of_place {content : Content κ} {cause : StoreError}
    (hplace : place directory path content now = (next, .error cause)) :
    directory.SameFiles next := by
  unfold place at hplace
  split at hplace
  · rename_i made hmade
    cases hplace
    exact Storage.Directory.sameFiles_of_makeFolders hmade
  · rename_i made hmade
    split at hplace
    · cases hplace
    · cases hplace
      exact Storage.Directory.sameFiles_of_makeFolders hmade

theorem fileWritten_of_place {content : Content κ} {done : Unit}
    (hplace : place directory path content now = (next, .ok done)) :
    directory.FileWritten next (Storage.destination path) content now := by
  unfold place at hplace
  split at hplace
  · cases hplace
  · rename_i made hmade
    split at hplace
    · rename_i written hwrite
      cases hplace
      exact Storage.Directory.fileWritten_of_makeFolders hmade hwrite
    · cases hplace

theorem file?_of_place {content : Content κ} {done : Unit}
    (hplace : place directory path content now = (next, .ok done)) :
    next.file? path = some (content, now) := by
  unfold place at hplace
  split at hplace
  · cases hplace
  · split at hplace
    · rename_i hwrite
      cases hplace
      exact Storage.Directory.file?_of_write? hwrite
    · cases hplace

theorem file?_of_save {snapshot : Snapshot κ} {version fingerprint : String} {now : Instant}
    {metadata : Metadata}
    (hsave : save directory path snapshot version fingerprint now = (next, .ok metadata)) :
    metadata = metadataOf snapshot version fingerprint now ∧
      next.file? path = some (.database (.ofSnapshot snapshot metadata), now) := by
  unfold save at hsave
  simp only [write_eq_place] at hsave
  cases hplace : place directory path
      (.database (.ofSnapshot snapshot (metadataOf snapshot version fingerprint now))) now with
  | mk placed result =>
      rw [hplace] at hsave
      cases result with
      | error cause => simp [Except.map] at hsave
      | ok done =>
          simp only [Except.map, Prod.mk.injEq, Except.ok.injEq] at hsave
          obtain ⟨rfl, rfl⟩ := hsave
          exact ⟨rfl, file?_of_place hplace⟩

/-- A file that is put into place does not take away from what all files have in common, if it
has it, too. -/
theorem everyFile_place {property : Storage.Place → Content κ → Prop}
    (hevery : directory.EveryFile property) {content : Content κ}
    (hcontent : ∀ here, property here content) (path : String) (now : Instant) :
    (place directory path content now).1.EveryFile property := by
  cases hplace : place directory path content now with
  | mk next result =>
      cases result with
      | error cause => exact hevery.of_sameFiles (sameFiles_of_place hplace)
      | ok done =>
          exact hevery.of_fileWritten (fileWritten_of_place hplace) (hcontent _)

theorem everyFile_write {property : Storage.Place → Content κ → Prop}
    (hevery : directory.EveryFile property) {snapshot : Snapshot κ} {metadata : Metadata}
    (hcontent : ∀ here, property here (.database (.ofSnapshot snapshot metadata))) (path : String)
    (now : Instant) :
    (write directory path snapshot metadata now).1.EveryFile property := by
  rw [write_eq_place]
  exact everyFile_place hevery hcontent path now

theorem everyFile_save {property : Storage.Place → Content κ → Prop}
    (hevery : directory.EveryFile property) {snapshot : Snapshot κ} {version fingerprint : String}
    (hcontent : ∀ here, property here
      (.database (.ofSnapshot snapshot (metadataOf snapshot version fingerprint now))))
    (path : String) :
    (save directory path snapshot version fingerprint now).1.EveryFile property := by
  have hwrite := everyFile_write hevery hcontent path now
  unfold save
  dsimp only
  cases hwritten : write directory path snapshot
      (metadataOf snapshot version fingerprint now) now with
  | mk next result =>
      rw [hwritten] at hwrite
      exact hwrite

/-- A snapshot is saved where the path leads, or no file is touched. -/
theorem save_cases (directory : DataDirectory κ) (path : String) (snapshot : Snapshot κ)
    (version fingerprint : String) (now : Instant) :
    (∃ cause, (save directory path snapshot version fingerprint now).2 = .error cause ∧
      directory.SameFiles (save directory path snapshot version fingerprint now).1) ∨
    ((save directory path snapshot version fingerprint now).2 =
        .ok (metadataOf snapshot version fingerprint now) ∧
      directory.FileWritten (save directory path snapshot version fingerprint now).1
        (Storage.destination path)
        (.database (.ofSnapshot snapshot (metadataOf snapshot version fingerprint now))) now) := by
  unfold save
  simp only [write_eq_place]
  cases hplace : place directory path
      (.database (.ofSnapshot snapshot (metadataOf snapshot version fingerprint now))) now with
  | mk next result =>
      cases result with
      | error cause => exact Or.inl ⟨cause, rfl, sameFiles_of_place hplace⟩
      | ok done => exact Or.inr ⟨rfl, fileWritten_of_place hplace⟩

end PostalRegions.SnapshotStore
