import PostalRegions.Dataset.Rebuild
import PostalRegions.Proofs.Snapshot.Reading
import PostalRegions.Proofs.Snapshot.Writing

/-!
# The course of a rebuild

When a rebuild takes the snapshot as it is, when it falls back on the snapshot after an
acquisition without data, and what it publishes in each case.
-/

namespace PostalRegions

theorem Metadata.invalidity?_eq_none_iff {metadata : Metadata} {expected : Expectation}
    {now : Instant} :
    metadata.invalidity? expected now = none ↔
      metadata.version = expected.version ∧ metadata.exactCount ≠ 0 ∧
        now.since metadata.createdAt < (expected.timeToLive * nanosPerSecond : Nat) ∧
        metadata.fingerprint = expected.fingerprint := by
  unfold invalidity?
  dsimp only
  by_cases hversion : metadata.version = expected.version
  · rw [if_neg (not_not_intro hversion)]
    by_cases hcount : metadata.exactCount = 0
    · rw [if_pos hcount]
      exact iff_of_false (by simp) fun hvalid => hvalid.2.1 hcount
    · rw [if_neg hcount]
      by_cases hage : (expected.timeToLive * nanosPerSecond : Nat) ≤ now.since metadata.createdAt
      · rw [if_pos hage]
        exact iff_of_false (by simp) fun hvalid => absurd hage (Int.not_le.mpr hvalid.2.2.1)
      · rw [if_neg hage]
        by_cases hfingerprint : metadata.fingerprint = expected.fingerprint
        · rw [if_neg (not_not_intro hfingerprint)]
          exact iff_of_true rfl ⟨hversion, hcount, Int.not_le.mp hage, hfingerprint⟩
        · rw [if_pos hfingerprint]
          exact iff_of_false (by simp) fun hvalid => hfingerprint hvalid.2.2.2
  · rw [if_pos hversion]
    exact iff_of_false (by simp) fun hvalid => hversion hvalid.1

namespace Settings

variable {κ : Type} [DatabaseFormat κ] {settings : Settings κ} {directory : DataDirectory κ}

/-- The snapshot is reused if the facts about it speak for it and it has entries. -/
theorem reusable?_eq_some_iff {now created : Instant} {exact : ExactTable} :
    settings.reusable? directory now = some (exact, created) ↔
      ∃ metadata, SnapshotStore.readMetadata directory settings.snapshotPath = .ok metadata ∧
        metadata.invalidity? settings.expectation now = none ∧
        SnapshotStore.loadExact directory settings.snapshotPath = .ok exact ∧
        exact ≠ ∅ ∧ metadata.createdAt = created := by
  unfold reusable?
  cases hread : SnapshotStore.readMetadata directory settings.snapshotPath with
  | error cause => simp [Except.toOption]
  | ok metadata =>
      cases hload : SnapshotStore.loadExact directory settings.snapshotPath with
      | error cause => simp [Except.toOption]
      | ok found =>
          cases hinvalid : metadata.invalidity? settings.expectation now with
          | some reason => simp [Except.toOption, hinvalid]
          | none =>
              simp only [Except.toOption, hinvalid, Option.bind_eq_bind, Option.bind_some,
                Option.isSome_none, Bool.false_eq_true, ↓reduceIte, Except.ok.injEq,
                exists_eq_left', true_and]
              constructor
              · intro hfound
                split at hfound
                · cases hfound
                · rename_i hexact
                  cases hfound
                  exact ⟨rfl, by simpa using hexact, rfl⟩
              · rintro ⟨rfl, hexact, rfl⟩
                rw [if_neg (by simpa using hexact)]

/-- The bytes of the operator's file, if it is there. -/
def operatorFile? (settings : Settings κ) (directory : DataDirectory κ) : Option ByteArray :=
  (directory.file? settings.estimateFile).map fun found => found.1.toBytes

/-- The estimates of the operator, of which there have to be some. -/
theorem operatorEstimates?_eq_some_iff {estimates : EstimateTable κ} :
    settings.operatorEstimates? directory = some estimates ↔
      ∃ bytes sheet, settings.operatorFile? directory = some bytes ∧
        EstimateSheet.ofFile settings.confidenceTable (some bytes) = .ok sheet ∧
        sheet.estimates ≠ ∅ ∧ sheet.estimates = estimates := by
  unfold operatorEstimates? operatorFile?
  cases hfile : directory.file? settings.estimateFile with
  | none => simp
  | some found =>
      obtain ⟨content, modified⟩ := found
      cases hsheet : EstimateSheet.ofFile settings.confidenceTable (some content.toBytes) with
      | error cause => simp [hsheet, Except.toOption]
      | ok sheet =>
          by_cases hempty : sheet.estimates = ∅
          · simp [hsheet, hempty, Except.toOption]
          · simp [hsheet, hempty, Except.toOption]

/-- Of the directory, only the operator's file matters to the operator's estimates. -/
theorem operatorEstimates?_congr {later : DataDirectory κ}
    (hoperator : settings.operatorFile? later = settings.operatorFile? directory) :
    settings.operatorEstimates? later = settings.operatorEstimates? directory := by
  apply Option.ext
  intro estimates
  rw [operatorEstimates?_eq_some_iff, operatorEstimates?_eq_some_iff, hoperator]

/-- Of the directory, only the snapshot file matters to whether the snapshot is reused. -/
theorem reusable?_congr {later : DataDirectory κ} {now : Instant}
    (hcontent : (later.file? settings.snapshotPath).map Prod.fst =
      (directory.file? settings.snapshotPath).map Prod.fst) :
    settings.reusable? later now = settings.reusable? directory now := by
  unfold reusable?
  rw [SnapshotStore.readMetadata_congr hcontent, SnapshotStore.loadExact_congr hcontent]

/-- When a snapshot that was written as a whole is reused. -/
theorem reusable?_iff_of_file? {snapshot : Snapshot κ} {metadata : Metadata}
    {modified now created : Instant} {exact : ExactTable}
    (hfile : directory.file? settings.snapshotPath =
      some (.database (.ofSnapshot snapshot metadata), modified))
    (hcodes : ∀ key ∈ snapshot.exact, key.code ≠ "") :
    settings.reusable? directory now = some (exact, created) ↔
      metadata.version = settings.version ∧ metadata.fingerprint = settings.extraFingerprint ∧
        metadata.exactCount ≠ 0 ∧ metadata.exactCount < Text.countBound ∧
        Instant.parse? metadata.createdAt.written = some created ∧
        now.since created < (settings.timeToLive * nanosPerSecond : Nat) ∧
        snapshot.exact = exact ∧ exact ≠ ∅ := by
  have hload := SnapshotStore.loadExact_of_file? hfile hcodes
  rw [reusable?_eq_some_iff]
  constructor
  · rintro ⟨found, hread, hvalid, hloaded, hnonempty, rfl⟩
    obtain ⟨created, hcreated, hcount, rfl⟩ := (SnapshotStore.readMetadata_eq_ok_iff hfile).mp hread
    obtain ⟨hversion, hsome, hyoung, hfingerprint⟩ := Metadata.invalidity?_eq_none_iff.mp hvalid
    rw [hload] at hloaded
    cases hloaded
    exact ⟨hversion, hfingerprint, hsome, hcount, hcreated, hyoung, rfl, hnonempty⟩
  · rintro ⟨hversion, hfingerprint, hsome, hcount, hcreated, hyoung, rfl, hnonempty⟩
    refine ⟨metadata.readBack created, ?_, ?_, hload, hnonempty, rfl⟩
    · exact (SnapshotStore.readMetadata_eq_ok_iff hfile).mpr ⟨created, hcreated, hcount, rfl⟩
    · exact Metadata.invalidity?_eq_none_iff.mpr ⟨hversion, hsome, hyoung, hfingerprint⟩

theorem fallback_origin (settings : Settings κ) (directory : DataDirectory κ) :
    (settings.fallback directory).origin = .staleSnapshot ∨
      (settings.fallback directory).origin = .empty := by
  unfold fallback
  split
  · exact Or.inr rfl
  · split
    · exact Or.inr rfl
    · exact Or.inl rfl

variable {fetcher : Fetcher} {clock : Nat} {now : Instant}

theorem publish_tables {data : ExactData} {journal : List AcquisitionEvent} :
    (settings.publish directory data clock journal now).generation.tables =
      .ofTables data.table ((settings.estimates directory).without data.table) settings.policy :=
  rfl

/-- What all files have in common they keep, if a snapshot that is saved has it, too. -/
theorem everyFile_publish {property : Storage.Place → Content κ → Prop}
    (hevery : directory.EveryFile property) {data : ExactData} {snapshot : Snapshot κ}
    (hsnapshot : ⟨data.table, (settings.estimates directory).without data.table⟩ = snapshot)
    (hsaved : ∀ here, property here (.database (.ofSnapshot snapshot
      (SnapshotStore.metadataOf snapshot settings.version settings.extraFingerprint now))))
    (clock : Nat) (journal : List AcquisitionEvent) :
    (settings.publish directory data clock journal now).directory.EveryFile property := by
  subst hsnapshot
  change (settings.saveAcquired directory data.origin _ now).EveryFile property
  unfold saveAcquired
  split
  · exact SnapshotStore.everyFile_save hevery hsaved settings.snapshotPath
  · exact hevery

theorem publish_directory_of_acquired {table : ExactTable} {timedOut : Bool}
    {loadedAt : Option Instant} {journal : List AcquisitionEvent} :
    (settings.publish directory ⟨table, .acquired timedOut, loadedAt⟩ clock journal now).directory =
      (SnapshotStore.save directory settings.snapshotPath
        ⟨table, (settings.estimates directory).without table⟩ settings.version
        settings.extraFingerprint now).1 := by
  simp only [publish, saveAcquired]

theorem publish_directory_of_fallback {journal : List AcquisitionEvent} :
    (settings.publish directory (settings.fallback directory) clock journal now).directory =
      directory := by
  change settings.saveAcquired directory (settings.fallback directory).origin _ now = directory
  rcases settings.fallback_origin directory with horigin | horigin
  · rw [horigin]
    rfl
  · rw [horigin]
    rfl

variable {wall : WallClock}

theorem rebuild_of_reusable? {exact : ExactTable} {created : Instant}
    (hreusable : settings.reusable? directory (wall clock) = some (exact, created)) :
    settings.rebuild fetcher directory clock wall =
      settings.publish directory ⟨exact, .snapshot, some created⟩ clock [] (wall clock) := by
  unfold rebuild
  rw [hreusable]

variable {state : AcquisitionState κ}

theorem rebuild_of_isEmpty (hreusable : settings.reusable? directory (wall clock) = none)
    (hrun : (settings.acquisition fetcher clock wall).run directory clock = state)
    (hempty : state.table.isEmpty = true) :
    settings.rebuild fetcher directory clock wall =
      settings.publish state.directory (settings.fallback state.directory) state.clock
        state.journal (wall state.clock) := by
  unfold rebuild
  rw [hreusable]
  dsimp only
  rw [hrun, afterAcquisition, if_pos hempty]

theorem rebuild_of_acquired (hreusable : settings.reusable? directory (wall clock) = none)
    (hrun : (settings.acquisition fetcher clock wall).run directory clock = state)
    (hacquired : state.table.isEmpty = false) :
    settings.rebuild fetcher directory clock wall =
      settings.publish state.directory
        ⟨state.table, .acquired state.report.timedOut, some (wall state.clock)⟩ state.clock
        state.journal (wall state.clock) := by
  unfold rebuild
  rw [hreusable]
  dsimp only
  rw [hrun, afterAcquisition, if_neg (by rw [hacquired]; decide)]

end Settings

end PostalRegions
