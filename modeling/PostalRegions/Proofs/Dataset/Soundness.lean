import PostalRegions.Proofs.Acquisition.Files
import PostalRegions.Proofs.Acquisition.Filing
import PostalRegions.Proofs.Dataset.Importing
import PostalRegions.Proofs.Dataset.Rebuild
import PostalRegions.Proofs.Estimate.Reading
import PostalRegions.Proofs.Snapshot.Soundness

/-!
# Sound datasets

Rebuilds and imports of estimates may follow one another in any order, under any settings, and
the operator may put files into the data directory and remove them at any time.  All generations
that are published on the way, and all snapshot files that are stored, are sound exactly if what is
taken over from files that were not stored here is filed under canonical keys: such a file is
judged by its bytes alone, and the rows in it are not checked.
-/

namespace PostalRegions

variable {κ : Type}

/-! ## Where keys come from -/

theorem EstimateSheet.hasKeyTexts_ofFile {confidences : ConfidenceTable κ}
    {content : Option ByteArray} {sheet : EstimateSheet κ}
    (hfile : EstimateSheet.ofFile confidences content = .ok sheet) :
    Table.HasKeyTexts sheet.estimates := by
  intro key hkey
  have hfound := Std.ExtTreeMap.mem_iff_isSome_getElem?.mp hkey
  obtain ⟨estimate, hestimate⟩ := Option.isSome_iff_exists.mp hfound
  obtain ⟨columns, row, hrow⟩ := EstimateSheet.exists_fileRow_of_ofFile hfile hestimate
  obtain ⟨label, haccepts, _⟩ := EstimateReading.fileRow_eq_some_iff.mp hrow
  exact haccepts.isKeyText

theorem AcquisitionTask.hasKeyTexts_run [DatabaseFormat κ] (task : AcquisitionTask)
    (directory : DataDirectory κ) (clock : Nat) :
    Table.HasKeyTexts (task.run directory clock).table := by
  intro key hkey
  obtain ⟨row, _, hfiled⟩ := (task.filesMerged_run directory clock key).mp hkey
  exact hfiled.isKeyText

/-! ## One rebuild -/

def Generation.IsSound (generation : Generation κ) : Prop :=
  Snapshot.IsSound ⟨generation.tables.exact, generation.tables.estimates⟩

namespace Settings

variable [DatabaseFormat κ] {settings : Settings κ} {directory : DataDirectory κ}

/-- The exact table that a rebuild publishes, and the directory in which it then finds the
estimates. -/
def exactData (settings : Settings κ) (fetcher : Fetcher) (directory : DataDirectory κ)
    (clock : Nat) (wall : WallClock) : DataDirectory κ × ExactData :=
  match settings.reusable? directory (wall clock) with
  | some (exact, createdAt) => (directory, ⟨exact, .snapshot, some createdAt⟩)
  | none =>
    let state := (settings.acquisition fetcher clock wall).run directory clock
    (state.directory, settings.afterAcquisition state (wall state.clock))

theorem exists_rebuild_eq_publish (settings : Settings κ) (fetcher : Fetcher)
    (directory : DataDirectory κ) (clock : Nat) (wall : WallClock) :
    ∃ ended journal now, settings.rebuild fetcher directory clock wall =
      settings.publish (settings.exactData fetcher directory clock wall).1
        (settings.exactData fetcher directory clock wall).2 ended journal now := by
  unfold rebuild exactData
  cases settings.reusable? directory (wall clock) with
  | some reused => exact ⟨_, _, _, rfl⟩
  | none => exact ⟨_, _, _, rfl⟩

theorem everyFile_exactData {property : Storage.Place → Content κ → Prop}
    (hplain : ∀ place bytes, property place (.plain bytes)) (hevery : directory.EveryFile property)
    (settings : Settings κ) (fetcher : Fetcher) (clock : Nat) (wall : WallClock) :
    (settings.exactData fetcher directory clock wall).1.EveryFile property := by
  unfold exactData
  split
  · exact hevery
  · exact (settings.acquisition fetcher clock wall).everyFile_run hplain hevery clock

/-- What a rebuild takes over from a snapshot file that was not stored here is filed under
canonical keys. -/
structure TakesOverKeyTexts (settings : Settings κ) (directory : DataDirectory κ)
    (data : ExactData) : Prop where
  exact : directory.IsForeign settings.snapshotPath →
    data.origin = .snapshot ∨ data.origin = .staleSnapshot → Table.HasKeyTexts data.table
  estimates : directory.IsForeign settings.snapshotPath →
    settings.operatorEstimates? directory = none → ∀ found,
      SnapshotStore.loadEstimates directory settings.snapshotPath = .ok found →
        Table.HasKeyTexts (found.without data.table)

theorem hasKeyTexts_estimates_without (hfaithful : directory.IsFaithful) {data : ExactData}
    (htakes : settings.TakesOverKeyTexts directory data) :
    Table.HasKeyTexts ((settings.estimates directory).without data.table) := by
  have hrest {found : EstimateTable κ} (hfound : Table.HasKeyTexts found) :
      Table.HasKeyTexts (found.without data.table) :=
    fun key hkey => hfound key (EstimateTable.mem_without.mp hkey).1
  unfold estimates
  split
  · rename_i found hoperator
    obtain ⟨bytes, sheet, _, hsheet, _, rfl⟩ := operatorEstimates?_eq_some_iff.mp hoperator
    exact hrest (EstimateSheet.hasKeyTexts_ofFile hsheet)
  · rename_i hoperator
    cases hload : SnapshotStore.loadEstimates directory settings.snapshotPath with
    | error cause => exact hrest Table.HasKeyTexts.empty
    | ok stored =>
        by_cases hforeign : directory.IsForeign settings.snapshotPath
        · exact htakes.estimates hforeign hoperator stored hload
        · exact hrest (SnapshotStore.hasKeyTexts_of_loadEstimates hfaithful hforeign hload)

theorem hasKeyTexts_fallback (hfaithful : directory.IsFaithful)
    (hforeign : directory.IsForeign settings.snapshotPath →
      (settings.fallback directory).origin = .staleSnapshot →
        Table.HasKeyTexts (settings.fallback directory).table) :
    Table.HasKeyTexts (settings.fallback directory).table := by
  revert hforeign
  unfold fallback
  split
  · exact fun _ => Table.HasKeyTexts.empty
  · rename_i exact hload
    split
    · exact fun _ => Table.HasKeyTexts.empty
    · intro hforeign
      exact SnapshotStore.hasKeyTexts_of_loadExact hfaithful (fun hfound => hforeign hfound rfl)
        hload

/-- The directory that a rebuild reads is as faithful as the one before, and the exact table is
filed under canonical keys. -/
theorem sound_exactData (settings : Settings κ) (fetcher : Fetcher)
    (hfaithful : directory.IsFaithful) (clock : Nat) (wall : WallClock)
    (htakes : settings.TakesOverKeyTexts (settings.exactData fetcher directory clock wall).1
      (settings.exactData fetcher directory clock wall).2) :
    (settings.exactData fetcher directory clock wall).1.IsFaithful ∧
      Table.HasKeyTexts (settings.exactData fetcher directory clock wall).2.table := by
  have hread := everyFile_exactData (fun _ _ => trivial) hfaithful settings fetcher clock wall
  have hexact := htakes.exact
  refine ⟨hread, ?_⟩
  revert hread hexact
  unfold exactData
  split
  · rename_i exact created hreusable
    intro _ hexact
    obtain ⟨metadata, _, _, hload, _, _⟩ := reusable?_eq_some_iff.mp hreusable
    exact SnapshotStore.hasKeyTexts_of_loadExact hfaithful
      (fun hforeign => hexact hforeign (Or.inl rfl)) hload
  · dsimp only
    unfold afterAcquisition
    split
    · intro hacquired hexact
      exact hasKeyTexts_fallback hacquired fun hforeign horigin => hexact hforeign (Or.inr horigin)
    · intro _ _
      exact AcquisitionTask.hasKeyTexts_run _ directory clock

/-- Whatever the origin of its exact table is, a published snapshot is sound, and so is what is
saved of it. -/
theorem sound_publish (hfaithful : directory.IsFaithful) {data : ExactData}
    (hdata : Table.HasKeyTexts data.table) (htakes : settings.TakesOverKeyTexts directory data)
    (clock : Nat) (journal : List AcquisitionEvent) (now : Instant) :
    (settings.publish directory data clock journal now).generation.IsSound ∧
      (settings.publish directory data clock journal now).directory.IsFaithful := by
  have hsound : Snapshot.IsSound
      ⟨data.table, (settings.estimates directory).without data.table⟩ :=
    ⟨hdata, hasKeyTexts_estimates_without hfaithful htakes,
      fun _ hkey hwithout => (EstimateTable.mem_without.mp hwithout).2 hkey⟩
  refine ⟨hsound, everyFile_publish hfaithful rfl ?_ clock journal⟩
  intro here
  exact ⟨_, _, rfl, hsound, rfl, rfl⟩

theorem sound_rebuild (settings : Settings κ) (fetcher : Fetcher)
    (hfaithful : directory.IsFaithful) (clock : Nat) (wall : WallClock)
    (htakes : settings.TakesOverKeyTexts (settings.exactData fetcher directory clock wall).1
      (settings.exactData fetcher directory clock wall).2) :
    (settings.rebuild fetcher directory clock wall).generation.IsSound ∧
      (settings.rebuild fetcher directory clock wall).directory.IsFaithful := by
  obtain ⟨hread, hdata⟩ := settings.sound_exactData fetcher hfaithful clock wall htakes
  obtain ⟨ended, journal, now, hrebuild⟩ :=
    settings.exists_rebuild_eq_publish fetcher directory clock wall
  rw [hrebuild]
  exact sound_publish hread hdata htakes ended journal now

/-- A generation that is sound takes over nothing else. -/
theorem takesOverKeyTexts_of_isSound (settings : Settings κ) (fetcher : Fetcher)
    (directory : DataDirectory κ) (clock : Nat) (wall : WallClock)
    (hsound : (settings.rebuild fetcher directory clock wall).generation.IsSound) :
    settings.TakesOverKeyTexts (settings.exactData fetcher directory clock wall).1
      (settings.exactData fetcher directory clock wall).2 := by
  obtain ⟨ended, journal, now, hrebuild⟩ :=
    settings.exists_rebuild_eq_publish fetcher directory clock wall
  rw [hrebuild] at hsound
  refine ⟨fun _ _ => hsound.exactKeys, ?_⟩
  intro _ hoperator found hload
  have hestimates :
      settings.estimates (settings.exactData fetcher directory clock wall).1 = found := by
    simp only [estimates, hoperator, hload]
    rfl
  rw [← hestimates]
  exact hsound.estimateKeys

end Settings

/-! ## Histories -/

variable [DatabaseFormat κ]

/-- Something that happens to a data directory. -/
inductive DataStep (κ : Type) where
  /-- The operator puts a file into the directory, such as one with estimates. -/
  | supply (path : String) (bytes : ByteArray) (now : Instant)
  | withdraw (path : String)
  | rebuild (settings : Settings κ) (fetcher : Fetcher) (clock : Nat) (wall : WallClock)
  /-- The estimates of a snapshot are replaced by those in a file, if the file is there. -/
  | importEstimates (path : String) (confidences : ConfidenceTable κ)
      (content : Option ByteArray) (now : Instant)

structure DataHistory (κ : Type) where
  directory : DataDirectory κ
  published : List (Generation κ)

namespace DataHistory

def start : DataHistory κ :=
  ⟨.empty, []⟩

def extend (history : DataHistory κ) : DataStep κ → DataHistory κ
  | .supply path bytes now =>
    { history with
      directory := (SnapshotStore.place history.directory path (.plain bytes) now).1 }
  | .withdraw path => { history with directory := history.directory.remove path }
  | .rebuild settings fetcher clock wall =>
    let rebuilt := settings.rebuild fetcher history.directory clock wall
    ⟨rebuilt.directory, history.published ++ [rebuilt.generation]⟩
  | .importEstimates path confidences content now =>
    { history with
      directory :=
        (PostalRegions.importEstimates history.directory path confidences content now).1 }

def ofSteps (steps : List (DataStep κ)) : DataHistory κ :=
  steps.foldl extend start

theorem ofSteps_concat (steps : List (DataStep κ)) (step : DataStep κ) :
    ofSteps (steps ++ [step]) = (ofSteps steps).extend step := by
  unfold ofSteps
  rw [List.foldl_concat]

/-- What a step takes over from a file that was not stored here is sound. -/
def TakesOverSoundly (history : DataHistory κ) : DataStep κ → Prop
  | .supply _ _ _ => True
  | .withdraw _ => True
  | .rebuild settings fetcher clock wall =>
    settings.TakesOverKeyTexts (settings.exactData fetcher history.directory clock wall).1
      (settings.exactData fetcher history.directory clock wall).2
  | .importEstimates path confidences content now =>
    history.directory.IsForeign path → ∀ next stored exact facts,
      PostalRegions.importEstimates history.directory path confidences content now =
        (next, .ok stored) →
      SnapshotStore.loadExact history.directory path = .ok exact →
      SnapshotStore.readMetadata history.directory path = .ok facts →
        Table.HasKeyTexts exact ∧ facts.exactCount = exact.size

structure IsSound (history : DataHistory κ) : Prop where
  published : ∀ generation ∈ history.published, generation.IsSound
  stored : ∀ path database modified,
    history.directory.file? path = some (.database database, modified) → database.IsSound

/-- What every sound step preserves: the snapshot files hold what was saved. -/
structure Invariant (history : DataHistory κ) : Prop where
  published : ∀ generation ∈ history.published, generation.IsSound
  faithful : history.directory.IsFaithful

omit [DatabaseFormat κ] in
theorem Invariant.isSound {history : DataHistory κ} (hinvariant : history.Invariant) :
    history.IsSound where
  published := hinvariant.published
  stored := by
    intro path database modified hfile
    obtain ⟨_, _, hholds⟩ := hinvariant.faithful.of_file? hfile
    exact hholds.isSound

theorem Invariant.extend {history : DataHistory κ} (hinvariant : history.Invariant)
    {step : DataStep κ} (htakes : history.TakesOverSoundly step) :
    (history.extend step).Invariant := by
  obtain ⟨hpublished, hfaithful⟩ := hinvariant
  cases step with
  | supply path bytes now =>
      have hplain : Content.IsFaithful (.plain bytes : Content κ) := trivial
      exact ⟨hpublished, SnapshotStore.everyFile_place hfaithful (fun _ => hplain) path now⟩
  | withdraw path => exact ⟨hpublished, hfaithful.remove path⟩
  | rebuild settings fetcher clock wall =>
      obtain ⟨hgeneration, hdirectory⟩ :=
        settings.sound_rebuild fetcher hfaithful clock wall htakes
      refine ⟨?_, hdirectory⟩
      intro generation hmem
      rcases List.mem_append.mp hmem with hearlier | hlast
      · exact hpublished generation hearlier
      · rw [List.mem_singleton.mp hlast]
        exact hgeneration
  | importEstimates path confidences content now =>
      refine ⟨hpublished, everyFile_importEstimates hfaithful ?_⟩
      intro next sheet snapshot facts himport hreads _
      obtain ⟨hexact, hcount⟩ := SnapshotStore.exactCount_of_readMetadata hfaithful
        (fun hforeign => htakes hforeign next _ snapshot.exact facts himport hreads.exact
          hreads.metadata) hreads.metadata hreads.exact
      have hsound : snapshot.IsSound := by
        have hwithout := EstimateTable.isSound_without hexact
          (EstimateSheet.hasKeyTexts_ofFile hreads.file)
        rw [← hreads.kept] at hwithout
        exact hwithout
      exact ⟨snapshot, _, rfl, hsound, hcount, rfl⟩

/-- A step after which all is sound takes over nothing else. -/
theorem takesOverSoundly_of_isSound {history : DataHistory κ} {step : DataStep κ}
    (hsound : (history.extend step).IsSound) : history.TakesOverSoundly step := by
  cases step with
  | supply path bytes now => trivial
  | withdraw path => trivial
  | rebuild settings fetcher clock wall =>
      exact settings.takesOverKeyTexts_of_isSound fetcher history.directory clock wall
        (hsound.published _ (List.mem_append_right _ (List.mem_singleton_self _)))
  | importEstimates path confidences content now =>
      intro _ next stored exact facts himport hload hread
      obtain ⟨sheet, snapshot, found, hreads, rfl, hplace⟩ := ok_of_importEstimates himport
      have hexact : exact = snapshot.exact := Except.ok.inj (hload.symm.trans hreads.exact)
      have hfacts : facts = found := Except.ok.inj (hread.symm.trans hreads.metadata)
      have hdirectory : (history.extend
          (.importEstimates path confidences content now)).directory = next :=
        congrArg Prod.fst himport
      have hfile := SnapshotStore.file?_of_place hplace
      rw [← hdirectory] at hfile
      have hstored := Database.exact_of_isSound (hsound.stored path _ now hfile)
      rw [hexact, hfacts]
      exact hstored

theorem invariant_ofSteps {steps : List (DataStep κ)}
    (htakes : ∀ earlier step, earlier ++ [step] <+: steps →
      (ofSteps earlier).TakesOverSoundly step) : (ofSteps steps).Invariant := by
  induction steps using List.reverseRecOn with
  | nil =>
      constructor
      · intro generation hmem
        cases hmem
      · exact Storage.Directory.everyFile_empty
  | append_singleton earlier step ih =>
      rw [ofSteps_concat]
      refine Invariant.extend (ih ?_) (htakes earlier step List.prefix_rfl)
      intro first middle hwithin
      exact htakes first middle (hwithin.trans (List.prefix_append _ _))

/-- All published generations and all stored snapshots are sound after each of some steps exactly
if each step takes over sound rows alone from files that were not stored here. -/
theorem isSound_ofSteps_iff (steps : List (DataStep κ)) :
    (∀ earlier, earlier <+: steps → (ofSteps earlier).IsSound) ↔
      ∀ earlier step, earlier ++ [step] <+: steps → (ofSteps earlier).TakesOverSoundly step := by
  constructor
  · intro hsound earlier step hwithin
    apply takesOverSoundly_of_isSound
    rw [← ofSteps_concat]
    exact hsound _ hwithin
  · intro htakes earlier hwithin
    refine (invariant_ofSteps ?_).isSound
    intro first step hfirst
    exact htakes first step (hfirst.trans hwithin)

end DataHistory

end PostalRegions
