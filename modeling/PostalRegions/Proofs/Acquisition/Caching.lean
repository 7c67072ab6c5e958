import PostalRegions.Proofs.Acquisition.Clock
import PostalRegions.Proofs.Acquisition.Provenance
import PostalRegions.Proofs.Acquisition.Visits

/-!
# The cache stays sound

The journal of an acquisition tells of every file that is removed or written, so the files at any
moment are what comes of the first ones by the events up to then.  An archive is looked at before it
is used: the bytes of a cached copy when they are loaded, those of a download before they are kept.
Hence only archives are unpacked and written, and a copy is removed only if it cannot be used.
-/

namespace PostalRegions

variable {κ : Type}

/-! ## Files and the journal -/

/-- The name of the cached copy that was removed or written. -/
def AcquisitionEvent.changedName? : AcquisitionEvent → Option String
  | .removed name => some name
  | .kept name _ => some name
  | _ => none

/-- An event tells that the file at a place was changed. -/
def AcquisitionEvent.Changes (event : AcquisitionEvent) (cache : ArchiveCache)
    (place : Storage.Place) : Prop :=
  ∃ address name, archiveName? address = some name ∧ event.changedName? = some name ∧
    Storage.destination (cache.pathOf name) = place

/-- The file at a place after an event at a moment, given the one before it. -/
def AcquisitionEvent.fileAfter (cache : ArchiveCache) (place : Storage.Place) (now : Instant)
    (found : Option (Content κ × Instant)) : AcquisitionEvent → Option (Content κ × Instant)
  | .removed name => if Storage.destination (cache.pathOf name) = place then none else found
  | .kept name content =>
      if Storage.destination (cache.pathOf name) = place then some (.plain content, now)
      else found
  | _ => found

/-- The moment on the wall clock after the events of an acquisition. -/
def AcquisitionTask.momentAfter (task : AcquisitionTask) (clock : Nat)
    (earlier : List AcquisitionEvent) : Instant :=
  task.wall (task.fetcher.clockAfter clock (earlier.filterMap AcquisitionEvent.request?))

def AcquisitionTask.fileToldFrom (task : AcquisitionTask) (clock : Nat) (place : Storage.Place)
    (earlier : List AcquisitionEvent) (found : Option (Content κ × Instant)) :
    List AcquisitionEvent → Option (Content κ × Instant)
  | [] => found
  | event :: rest =>
      task.fileToldFrom clock place (earlier ++ [event])
        (event.fileAfter task.cache place (task.momentAfter clock earlier) found) rest

/-- The file at a place after all events of a journal. -/
def AcquisitionTask.fileTold (task : AcquisitionTask) (before : DataDirectory κ) (clock : Nat)
    (journal : List AcquisitionEvent) (place : Storage.Place) : Option (Content κ × Instant) :=
  task.fileToldFrom clock place [] (before.fileAt? place) journal

theorem AcquisitionTask.fileToldFrom_concat (task : AcquisitionTask) (clock : Nat)
    (place : Storage.Place) (earlier : List AcquisitionEvent)
    (found : Option (Content κ × Instant)) (events : List AcquisitionEvent)
    (event : AcquisitionEvent) :
    task.fileToldFrom clock place earlier found (events ++ [event]) =
      event.fileAfter task.cache place (task.momentAfter clock (earlier ++ events))
        (task.fileToldFrom clock place earlier found events) := by
  induction events generalizing earlier found with
  | nil => simp [fileToldFrom]
  | cons first rest ih =>
      rw [List.cons_append, fileToldFrom, fileToldFrom, ih]
      simp

theorem AcquisitionTask.fileTold_concat (task : AcquisitionTask) (before : DataDirectory κ)
    (clock : Nat) (journal : List AcquisitionEvent) (event : AcquisitionEvent)
    (place : Storage.Place) :
    task.fileTold before clock (journal ++ [event]) place =
      event.fileAfter task.cache place (task.momentAfter clock journal)
        (task.fileTold before clock journal place) :=
  task.fileToldFrom_concat clock place [] (before.fileAt? place) journal event

/-- The copy with a name that the earlier events left has a property. -/
def AcquisitionTask.CopyTold (task : AcquisitionTask) (before : DataDirectory κ) (clock : Nat)
    (earlier : List AcquisitionEvent) (name : String)
    (property : Content κ → Instant → Prop) : Prop :=
  ∃ address place content modified, archiveName? address = some name ∧
    Storage.destination (task.cache.pathOf name) = place ∧
    task.fileTold before clock earlier place = some (content, modified) ∧
    property content modified

variable [DatabaseFormat κ]

/-- A copy is used only if it is neither too old nor no archive, and removed only if it is one of
them; only archives that were fetched are written, and only archives are unpacked. -/
def AcquisitionEvent.IsSound (task : AcquisitionTask) (before : DataDirectory κ) (clock : Nat)
    (earlier : List AcquisitionEvent) : AcquisitionEvent → Prop
  | .requested _ => True
  -- The copy is the one that the earlier events left there, not the one before the run.
  | .reused name => task.CopyTold before clock earlier name fun content modified =>
      task.cache.isOutdated modified (task.momentAfter clock earlier) = false ∧
        Archive.isReadable content.toBytes = true
  | .removed name => task.CopyTold before clock earlier name fun content modified =>
      task.cache.isOutdated modified (task.momentAfter clock earlier) = true ∨
        Archive.isReadable content.toBytes = false
  | .kept name content => Archive.isReadable content = true ∧
      ∃ address, archiveName? address = some name ∧
        (FetchRecord.mk task.fetcher earlier).Fetched address content
  | .merged _ _ _ content => Archive.isReadable content = true

theorem AcquisitionEvent.IsSound.fileAfter_eq {task : AcquisitionTask} {before : DataDirectory κ}
    {clock : Nat} {earlier : List AcquisitionEvent} {event : AcquisitionEvent}
    (hsound : event.IsSound task before clock earlier) {place : Storage.Place}
    (hother : ¬ event.Changes task.cache place) (now : Instant)
    (found : Option (Content κ × Instant)) :
    event.fileAfter task.cache place now found = found := by
  cases event with
  | requested => rfl
  | reused => rfl
  | removed name =>
      obtain ⟨address, _, _, _, hname, _⟩ := hsound
      exact if_neg fun hplace => hother ⟨address, name, hname, rfl, hplace⟩
  | kept name content =>
      obtain ⟨-, address, hname, -⟩ := hsound
      exact if_neg fun hplace => hother ⟨address, name, hname, rfl, hplace⟩
  | merged => rfl

namespace ArchiveCache

variable {cache : ArchiveCache} {directory next : DataDirectory κ} {name : String} {now : Instant}

theorem load_unusable (hload : cache.load directory name now = (next, .unusable)) :
    next = directory.remove (cache.pathOf name) ∧ ∃ content modified,
      directory.file? (cache.pathOf name) = some (content, modified) ∧
        (cache.isOutdated modified now = true ∨ Archive.isReadable content.toBytes = false) := by
  have hfind : cache.find directory name now = .unusable := by
    rw [← load_snd, hload]
  constructor
  · simpa [load, hfind] using congrArg Prod.fst hload.symm
  · unfold find at hfind
    split at hfind
    · cases hfind
    · rename_i content modified hfile
      refine ⟨content, modified, hfile, ?_⟩
      split at hfind
      · rename_i houtdated
        exact Or.inl houtdated
      · split at hfind
        · cases hfind
        · rename_i hreadable
          exact Or.inr (Bool.not_eq_true _ ▸ hreadable)

theorem load_directory {copy : CachedCopy} (hload : cache.load directory name now = (next, copy))
    (hcopy : copy ≠ .unusable) : next = directory := by
  have hcases := cache.load_cases directory name now
  rw [hload] at hcases
  rcases hcases with hsame | ⟨hunusable, -⟩
  · exact hsame
  · exact absurd hunusable hcopy

end ArchiveCache

namespace AcquisitionTask

variable {task : AcquisitionTask} {before : DataDirectory κ} {clock : Nat}
  {state next : AcquisitionState κ}

/-- The clock tells the time of the requests, the files are those that the journal tells of, and
each of its events is sound. -/
structure Accounted (task : AcquisitionTask) (before : DataDirectory κ) (clock : Nat)
    (state : AcquisitionState κ) : Prop where
  time : task.TellsTime clock state
  told : ∀ place, state.directory.fileAt? place = task.fileTold before clock state.journal place
  events : ∀ earlier event, earlier ++ [event] <+: state.journal →
    event.IsSound task before clock earlier

theorem Accounted.moment_eq (hstate : task.Accounted before clock state) :
    task.wall state.clock = task.momentAfter clock state.journal :=
  congrArg task.wall hstate.time

theorem Accounted.of_sameFiles (hstate : task.Accounted before clock state)
    (hjournal : next.journal = state.journal) (hclock : next.clock = state.clock)
    (hsame : state.directory.SameFiles next.directory) : task.Accounted before clock next := by
  constructor
  · unfold TellsTime AcquisitionState.requests
    rw [hclock, hjournal]
    exact hstate.time
  · intro place
    rw [hsame place, hjournal]
    exact hstate.told place
  · rw [hjournal]
    exact hstate.events

theorem Accounted.record (hstate : task.Accounted before clock state) (event : AcquisitionEvent)
    (hjournal : next.journal = state.journal ++ [event]) (htime : task.TellsTime clock next)
    (hfiles : ∀ place, next.directory.fileAt? place =
      event.fileAfter task.cache place (task.momentAfter clock state.journal)
        (state.directory.fileAt? place))
    (hsound : event.IsSound task before clock state.journal) :
    task.Accounted before clock next := by
  refine ⟨htime, ?_, ?_⟩
  · intro place
    rw [hfiles, hstate.told, hjournal, fileTold_concat]
  · intro earlier last hprefix
    rw [hjournal, List.prefix_concat_iff] at hprefix
    rcases hprefix with hlast | hearlier
    · obtain ⟨rfl, hevent⟩ := List.append_inj' hlast rfl
      cases hevent
      exact hsound
    · exact hstate.events earlier last hearlier

/-- A copy that was found is the one that the journal tells of. -/
theorem Accounted.copyTold (hstate : task.Accounted before clock state) {address name : String}
    (hname : archiveName? address = some name) {content : Content κ} {modified : Instant}
    (hfile : state.directory.file? (task.cache.pathOf name) = some (content, modified))
    {property : Content κ → Instant → Prop} (hproperty : property content modified) :
    task.CopyTold before clock state.journal name property := by
  have hfound := Storage.Directory.fileAt?_destination_of_file? hfile
  rw [hstate.told] at hfound
  exact ⟨address, _, content, modified, hname, rfl, hfound, hproperty⟩

theorem accounted_fromCache (hstate : task.Accounted before clock state) (address : String) :
    task.Accounted before clock (task.fromCache state address).1 := by
  have htime := hstate.time.asks (.nothing (task.idles_fromCache state address))
  revert htime
  unfold fromCache
  split
  · exact fun _ => hstate
  · rename_i name hname
    split
    · rename_i directory content hload
      intro htime
      obtain ⟨stored, modified, hfile, rfl, hcurrent, hreadable⟩ := ArchiveCache.load_usable hload
      obtain rfl := ArchiveCache.load_directory hload nofun
      apply hstate.record (.reused name) rfl htime (fun _ => rfl)
      apply hstate.copyTold hname hfile
      rw [← hstate.moment_eq]
      exact ⟨hcurrent, hreadable⟩
    · rename_i directory hload
      intro htime
      obtain ⟨rfl, content, modified, hfile, hunusable⟩ := ArchiveCache.load_unusable hload
      apply hstate.record (.removed name) rfl htime
      · exact Storage.Directory.fileAt?_remove_of_file? hfile
      · apply hstate.copyTold hname hfile
        rw [← hstate.moment_eq]
        exact hunusable
    · rename_i hload
      rw [ArchiveCache.load_directory hload nofun]
      exact fun _ => hstate

theorem accounted_keep (hstate : task.Accounted before clock state) {address : String}
    {content : ByteArray} (hreadable : Archive.isReadable content = true)
    (hfetched : (FetchRecord.mk task.fetcher state.journal).Fetched address content) :
    task.Accounted before clock (task.keep state address content) := by
  have htime := hstate.time.asks (.nothing (task.idles_keep state address content))
  revert htime
  unfold keep
  split
  · exact fun _ => hstate
  · rename_i name hname
    split
    · rename_i directory hsave
      intro htime
      have hwritten := ArchiveCache.fileWritten_of_save hsave
      apply hstate.record (.kept name content) rfl htime
      · intro other
        change directory.fileAt? other = _
        rw [hwritten other, AcquisitionEvent.fileAfter, hstate.moment_eq]
        simp only [eq_comm]
      · exact ⟨hreadable, address, hname, hfetched⟩
    · rename_i hsave
      exact fun _ => hstate.of_sameFiles rfl rfl (ArchiveCache.sameFiles_of_save hsave)

theorem accounted_download (hstate : task.Accounted before clock state) (address : String) :
    task.Accounted before clock (task.download state address).1 := by
  have hasked : task.Accounted before clock ((state.record (.requested (.archive address))).wait
      (task.fetcher.archive state.requests address).elapsed) :=
    hstate.record (.requested (.archive address)) rfl
      (hstate.time.asks (.requested task.fetcher state (.archive address))) (fun _ => rfl) trivial
  unfold download
  dsimp only
  split
  · exact hasked
  · exact hasked.of_sameFiles rfl rfl fun _ => rfl
  · rename_i content hanswer
    split
    · rename_i hreadable
      exact accounted_keep hasked hreadable ⟨state.journal, List.prefix_rfl, hanswer⟩
    · exact hasked.of_sameFiles rfl rfl fun _ => rfl

theorem accounted_obtain (hstate : task.Accounted before clock state) (address : String) :
    task.Accounted before clock (task.obtain state address).1 := by
  have hcache := accounted_fromCache hstate address
  rcases task.obtain_cases state address with ⟨content, _, hobtain⟩ | ⟨_, hobtain⟩
  · rw [hobtain]
    exact hcache
  · rw [hobtain]
    exact accounted_download hcache address

theorem isReadable_of_obtain {address : String} {content : ByteArray}
    (hobtained : (task.obtain state address).2 = some content) :
    Archive.isReadable content = true := by
  rw [obtain_snd] at hobtained
  exact isReadable_of_available? hobtained

theorem accounted_step (hstep : task.Step state next)
    (hstate : task.Accounted before clock state) : task.Accounted before clock next := by
  have htime := tellsTime_step hstep hstate.time
  cases hstep with
  | checked => exact hstate.of_sameFiles rfl rfl fun _ => rfl
  | listed => exact hstate.record (.requested _) rfl htime (fun _ => rfl) trivial
  | obtained address => exact accounted_obtain hstate address
  | merged address country mode content tables hobtained htables =>
      apply (accounted_obtain hstate address).record (.merged address country mode content) _ htime
      · intro place
        rw [AcquisitionState.mergeTables_directory]
        rfl
      · exact isReadable_of_obtain hobtained
      · rw [AcquisitionState.mergeTables_journal, AcquisitionState.record_journal]
  | skipped => exact hstate.of_sameFiles rfl rfl fun _ => rfl
  | loaded => exact hstate.of_sameFiles rfl rfl fun _ => rfl

theorem accounted_run (task : AcquisitionTask) (directory : DataDirectory κ) (clock : Nat) :
    task.Accounted directory clock (task.run directory clock) := by
  have hstart : task.Accounted directory clock (.start directory clock : AcquisitionState κ) := by
    refine ⟨rfl, fun _ => rfl, ?_⟩
    intro earlier event hprefix
    simp [AcquisitionState.start] at hprefix
  exact run_induction hstart fun _ _ => accounted_step

/-! ## Which files change -/

/-- Where the journal tells of no change, the files are as they were. -/
def TellsChanges (task : AcquisitionTask) (before : DataDirectory κ)
    (state : AcquisitionState κ) : Prop :=
  ∀ place, state.directory.fileAt? place = before.fileAt? place ∨
    ∃ event ∈ state.journal, event.Changes task.cache place

theorem fileTold_of_unchanged {place : Storage.Place}
    (journal : List AcquisitionEvent)
    (hevents : ∀ earlier event, earlier ++ [event] <+: journal →
      event.IsSound task before clock earlier)
    (hunchanged : ∀ event ∈ journal, ¬ event.Changes task.cache place) :
    task.fileTold before clock journal place = before.fileAt? place := by
  induction journal using List.reverseRecOn with
  | nil => rfl
  | append_singleton earlier event ih =>
      have hsound := hevents earlier event List.prefix_rfl
      rw [fileTold_concat, hsound.fileAfter_eq (hunchanged event (by simp))]
      apply ih
      · intro first middle hwithin
        exact hevents first middle (hwithin.trans (List.prefix_append _ _))
      · intro other hother
        exact hunchanged other (List.mem_append_left _ hother)

theorem Accounted.tellsChanges (hstate : task.Accounted before clock state) :
    task.TellsChanges before state := by
  intro place
  rw [or_iff_not_imp_right, hstate.told]
  intro hunchanged
  apply fileTold_of_unchanged state.journal hstate.events
  intro event hevent hchanges
  exact hunchanged ⟨event, hevent, hchanges⟩

/-- Whatever file an acquisition changes, its journal tells of the change. -/
theorem tellsChanges_run (task : AcquisitionTask) (directory : DataDirectory κ) (clock : Nat) :
    task.TellsChanges directory (task.run directory clock) :=
  (accounted_run task directory clock).tellsChanges

/-! ## Files of other addresses -/

/-- The file at a place is the cached copy for an address. -/
def CopyAt (task : AcquisitionTask) (address : String) (place : Storage.Place) : Prop :=
  ∃ name, archiveName? address = some name ∧ Storage.destination (task.cache.pathOf name) = place

theorem fromCache_files (task : AcquisitionTask) (state : AcquisitionState κ) (address : String)
    (place : Storage.Place) :
    (task.fromCache state address).1.directory.fileAt? place = state.directory.fileAt? place ∨
      (task.fromCache state address).2 = none ∧ task.CopyAt address place := by
  unfold fromCache
  split
  · exact Or.inl rfl
  · rename_i name hname
    split
    · rename_i hload
      rw [ArchiveCache.load_directory hload nofun]
      exact Or.inl rfl
    · rename_i directory hload
      have hremoved := (ArchiveCache.load_unusable hload).1
      change directory.fileAt? place = _ ∨ _
      rw [hremoved, Storage.Directory.fileAt?_remove]
      split
      · rename_i hplace
        exact Or.inr ⟨rfl, name, hname, Storage.Directory.destination_of_place? hplace⟩
      · exact Or.inl rfl
    · rename_i hload
      rw [ArchiveCache.load_directory hload nofun]
      exact Or.inl rfl

theorem obtain_files (task : AcquisitionTask) (state : AcquisitionState κ) (address : String)
    (place : Storage.Place) :
    (task.obtain state address).1.directory.fileAt? place = state.directory.fileAt? place ∨
      .archive address ∈ (task.obtain state address).1.requests ∧ task.CopyAt address place := by
  have hcache := task.fromCache_files state address place
  rcases task.obtain_cases state address with ⟨content, hcached, hobtain⟩ | ⟨hnone, hobtain⟩
  · rw [hobtain]
    rcases hcache with hsame | ⟨hmissed, -⟩
    · exact Or.inl hsame
    · rw [hmissed] at hcached
      cases hcached
  · -- A copy that was removed is not obtained, so the network is asked for another one.
    have hasked : .archive address ∈
        (task.download (task.fromCache state address).1 address).1.requests := by
      rw [requests_download]
      exact List.mem_append_right _ (List.mem_singleton_self _)
    rw [hobtain]
    rcases hcache with hsame | ⟨-, hcopy⟩
    · rcases task.download_files (task.fromCache state address).1 address with
        hunchanged | ⟨content, name, now, -, hname, hwritten⟩
      · exact Or.inl ((hunchanged place).trans hsame)
      · by_cases hplace : place = Storage.destination (task.cache.pathOf name)
        · exact Or.inr ⟨hasked, name, hname, hplace.symm⟩
        · refine Or.inl (Eq.trans ?_ hsame)
          rw [hwritten place, if_neg hplace]
    · exact Or.inr ⟨hasked, hcopy⟩

/-- Only cached copies for addresses that were asked for differ from the files before. -/
def SparesOthers (task : AcquisitionTask) (before : DataDirectory κ)
    (state : AcquisitionState κ) : Prop :=
  ∀ place, state.directory.fileAt? place = before.fileAt? place ∨
    ∃ address, .archive address ∈ state.requests ∧ task.CopyAt address place

omit [DatabaseFormat κ] in
theorem SparesOthers.mono (hstate : task.SparesOthers before state)
    (hjournal : state.journal <+: next.journal)
    (hnext : ∀ place, next.directory.fileAt? place = state.directory.fileAt? place ∨
      ∃ address, .archive address ∈ next.requests ∧ task.CopyAt address place) :
    task.SparesOthers before next := by
  intro place
  rcases hnext place with hsame | hcopy
  · rcases hstate place with hunchanged | ⟨address, hasked, hcopy⟩
    · exact Or.inl (hsame.trans hunchanged)
    · exact Or.inr ⟨address, (hjournal.filterMap _).subset hasked, hcopy⟩
  · exact Or.inr hcopy

theorem sparesOthers_obtain (hstate : task.SparesOthers before state) (address : String) :
    task.SparesOthers before (task.obtain state address).1 := by
  apply hstate.mono (task.obtain_journal state address).isPrefix
  intro place
  rcases task.obtain_files state address place with hsame | ⟨hasked, hcopy⟩
  · exact Or.inl hsame
  · exact Or.inr ⟨address, hasked, hcopy⟩

theorem sparesOthers_step (hstep : task.Step state next)
    (hstate : task.SparesOthers before state) : task.SparesOthers before next := by
  cases hstep with
  | checked => exact hstate
  | listed => exact hstate.mono (List.prefix_append _ _) fun _ => Or.inl rfl
  | obtained address => exact sparesOthers_obtain hstate address
  | merged address country mode content tables hobtained htables =>
      apply (sparesOthers_obtain hstate address).mono
      · rw [AcquisitionState.mergeTables_journal]
        exact List.prefix_append _ _
      · intro place
        rw [AcquisitionState.mergeTables_directory]
        exact Or.inl rfl
  | skipped => exact hstate
  | loaded => exact hstate

/-! ## Soundness -/

/-- What an acquisition may do to the cached copies. -/
structure KeepsCacheSound (task : AcquisitionTask) (before : DataDirectory κ) (clock : Nat)
    (state : AcquisitionState κ) : Prop extends task.Accounted before clock state where
  others : task.SparesOthers before state

/-- The cache stays sound, and whatever is obtained can be unpacked. -/
theorem keepsCacheSound_run (task : AcquisitionTask) (directory : DataDirectory κ)
    (clock : Nat) :
    task.KeepsCacheSound directory clock (task.run directory clock) ∧
      ∀ (state : AcquisitionState κ) (address : String) (content : ByteArray),
        (task.obtain state address).2 = some content →
          Archive.tables? content ≠ none := by
  constructor
  · have hothers : task.SparesOthers directory (task.run directory clock) :=
      run_induction (fun _ => Or.inl rfl) fun _ _ => sparesOthers_step
    exact { accounted_run task directory clock with others := hothers }
  · intro state address content hobtained
    have hreadable := isReadable_of_obtain hobtained
    rw [← Archive.tables?_isSome] at hreadable
    exact Option.isSome_iff_ne_none.mp hreadable

end AcquisitionTask

end PostalRegions
