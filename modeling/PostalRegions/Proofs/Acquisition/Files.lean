import PostalRegions.Proofs.Acquisition.Steps

/-!
# What an acquisition does to files

An acquisition touches no files but cached copies: it removes those that cannot be used, and
writes plain bytes.  So a property that all plain files have is preserved, whatever the paths of
the cache are.
-/

namespace PostalRegions

theorem archiveName?_eq_some {address name : String} (hname : archiveName? address = some name) :
    name ≠ "" ∧ '/' ∉ name.toList := by
  unfold archiveName? at hname
  dsimp only at hname
  split at hname
  · cases hname
  · rename_i hchars
    cases hname
    constructor
    · intro hempty
      exact hchars (by simpa using hempty)
    · rw [String.toList_ofList]
      intro hslash
      have hall := List.all_eq_true.mp List.all_takeWhile '/' (List.mem_reverse.mp hslash)
      simp at hall

theorem archiveName_eq_of_destination {folder address other name otherName : String}
    {place : Storage.Place} (hname : archiveName? address = some name)
    (hother : archiveName? other = some otherName) (hnonempty : place ≠ [])
    (hplace : Storage.destination (Storage.join folder name) = place)
    (hplaceOther : Storage.destination (Storage.join folder otherName) = place) :
    name = otherName :=
  Storage.destination_join_injective (archiveName?_eq_some hname).1
    (archiveName?_eq_some hother).1 (archiveName?_eq_some hname).2
    (archiveName?_eq_some hother).2 hnonempty hplace hplaceOther

namespace ArchiveCache

variable {κ : Type}

theorem sameFiles_of_save {cache : ArchiveCache} {directory next : DataDirectory κ}
    {name : String} {content : ByteArray} {now : Instant}
    (hsave : cache.save directory name content now = (next, false)) :
    directory.SameFiles next := by
  unfold save at hsave
  split at hsave
  · rename_i made hmade
    cases hsave
    exact Storage.Directory.sameFiles_of_makeFolders hmade
  · rename_i made hmade
    split at hsave
    · cases hsave
    · cases hsave
      exact Storage.Directory.sameFiles_of_makeFolders hmade

theorem fileWritten_of_save {cache : ArchiveCache} {directory next : DataDirectory κ}
    {name : String} {content : ByteArray} {now : Instant}
    (hsave : cache.save directory name content now = (next, true)) :
    directory.FileWritten next (Storage.destination (cache.pathOf name)) (.plain content) now := by
  unfold save at hsave
  split at hsave
  · cases hsave
  · rename_i made hmade
    split at hsave
    · rename_i written hwrite
      cases hsave
      exact Storage.Directory.fileWritten_of_makeFolders hmade hwrite
    · cases hsave

variable [DatabaseFormat κ]

theorem load_snd (cache : ArchiveCache) (directory : DataDirectory κ) (name : String)
    (now : Instant) : (cache.load directory name now).2 = cache.find directory name now := by
  unfold load
  dsimp only
  split <;> rfl

theorem load_cases (cache : ArchiveCache) (directory : DataDirectory κ) (name : String)
    (now : Instant) :
    (cache.load directory name now).1 = directory ∨
      ((cache.load directory name now).2 = .unusable ∧
        (cache.load directory name now).1 = directory.remove (cache.pathOf name)) := by
  unfold load
  dsimp only
  split
  · rename_i hunusable
    exact Or.inr ⟨hunusable, rfl⟩
  · exact Or.inl rfl

theorem load_usable {cache : ArchiveCache} {directory next : DataDirectory κ} {name : String}
    {now : Instant} {content : ByteArray}
    (hload : cache.load directory name now = (next, .usable content)) :
    ∃ stored modified, directory.file? (cache.pathOf name) = some (stored, modified) ∧
      stored.toBytes = content ∧ cache.isOutdated modified now = false ∧
      Archive.isReadable content = true := by
  have hfind : cache.find directory name now = .usable content := by
    rw [← load_snd, hload]
  unfold find at hfind
  split at hfind
  · cases hfind
  · rename_i stored modified hfile
    split at hfind
    · cases hfind
    · rename_i hcurrent
      split at hfind
      · rename_i hreadable
        cases hfind
        exact ⟨stored, modified, hfile, rfl, Bool.not_eq_true _ ▸ hcurrent, hreadable⟩
      · cases hfind

end ArchiveCache

namespace AcquisitionTask

variable {κ : Type} {property : Storage.Place → Content κ → Prop}

open Storage.Directory

/-- What is kept goes into one file of the cache, or no file is touched. -/
theorem keep_files (task : AcquisitionTask) (state : AcquisitionState κ) (address : String)
    (content : ByteArray) :
    state.directory.SameFiles (task.keep state address content).directory ∨
      ∃ name, archiveName? address = some name ∧
        state.directory.FileWritten (task.keep state address content).directory
          (Storage.destination (task.cache.pathOf name)) (.plain content)
          (task.wall state.clock) := by
  unfold keep
  split
  · exact Or.inl fun _ => rfl
  · rename_i name hname
    split
    · rename_i hsave
      exact Or.inr ⟨name, hname, ArchiveCache.fileWritten_of_save hsave⟩
    · rename_i hsave
      exact Or.inl (ArchiveCache.sameFiles_of_save hsave)

theorem download_files (task : AcquisitionTask) (state : AcquisitionState κ) (address : String) :
    state.directory.SameFiles (task.download state address).1.directory ∨
      ∃ content name now, (task.download state address).2 = some content ∧
        archiveName? address = some name ∧
        state.directory.FileWritten (task.download state address).1.directory
          (Storage.destination (task.cache.pathOf name)) (.plain content) now := by
  unfold download
  dsimp only
  split
  · exact Or.inl fun _ => rfl
  · exact Or.inl fun _ => rfl
  · rename_i content _
    split
    · rcases task.keep_files
          ((state.record (.requested (.archive address))).wait
            (task.fetcher.archive state.requests address).elapsed) address content with
        hsame | ⟨name, hname, hwritten⟩
      · exact Or.inl hsame
      · exact Or.inr ⟨content, name, _, rfl, hname, hwritten⟩
    · exact Or.inl fun _ => rfl

theorem everyFile_download {task : AcquisitionTask} {state : AcquisitionState κ}
    (hplain : ∀ place bytes, property place (.plain bytes))
    (hevery : state.directory.EveryFile property) (address : String) :
    (task.download state address).1.directory.EveryFile property := by
  rcases task.download_files state address with hsame | ⟨content, _, _, _, _, hwritten⟩
  · exact hevery.of_sameFiles hsame
  · exact hevery.of_fileWritten hwritten (hplain _ content)

variable [DatabaseFormat κ]

theorem everyFile_fromCache {task : AcquisitionTask} {state : AcquisitionState κ}
    (hevery : state.directory.EveryFile property) (address : String) :
    (task.fromCache state address).1.directory.EveryFile property := by
  unfold fromCache
  split
  · exact hevery
  · rename_i name _
    have hloaded :
        (task.cache.load state.directory name (task.wall state.clock)).1.EveryFile property := by
      rcases task.cache.load_cases state.directory name (task.wall state.clock) with
        hsame | ⟨_, hremoved⟩
      · rw [hsame]
        exact hevery
      · rw [hremoved]
        exact hevery.remove (task.cache.pathOf name)
    split
    · rename_i hload
      rw [hload] at hloaded
      exact hloaded
    · rename_i hload
      rw [hload] at hloaded
      exact hloaded
    · rename_i hload
      rw [hload] at hloaded
      exact hloaded

theorem everyFile_obtain {task : AcquisitionTask} {state : AcquisitionState κ}
    (hplain : ∀ place bytes, property place (.plain bytes))
    (hevery : state.directory.EveryFile property) (address : String) :
    (task.obtain state address).1.directory.EveryFile property := by
  rcases task.obtain_cases state address with ⟨content, _, hobtain⟩ | ⟨_, hobtain⟩
  · rw [hobtain]
    exact everyFile_fromCache hevery address
  · rw [hobtain]
    exact everyFile_download hplain (everyFile_fromCache hevery address) address

theorem everyFile_run (task : AcquisitionTask) {directory : DataDirectory κ}
    (hplain : ∀ place bytes, property place (.plain bytes)) (hevery : directory.EveryFile property)
    (clock : Nat) : (task.run directory clock).directory.EveryFile property := by
  have hstep : ∀ state next : AcquisitionState κ, task.Step state next →
      state.directory.EveryFile property → next.directory.EveryFile property := by
    intro state next hstep hstate
    cases hstep with
    | checked => exact hstate
    | listed => exact hstate
    | obtained address => exact everyFile_obtain hplain hstate address
    | merged address country mode content tables hobtained htables =>
        rw [AcquisitionState.mergeTables_directory, AcquisitionState.record_directory]
        exact everyFile_obtain hplain hstate address
    | skipped => exact hstate
    | loaded => exact hstate
  have hstart : (AcquisitionState.start directory clock).directory.EveryFile property := hevery
  exact run_induction hstart hstep

end AcquisitionTask

end PostalRegions
