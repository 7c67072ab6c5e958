import PostalRegions.Proofs.Acquisition.Deadline
import PostalRegions.Proofs.Calendar.Rfc3339
import PostalRegions.Proofs.Dataset.Decision

/-!
# Restarts

A rebuild that acquired its data and saved them is followed by another one over what it left
behind.  As long as the snapshot is not too old, the later rebuild needs no fetch, and whatever is
asked is answered as before, with one exception: a moment of saving whose year does not have four
digits can be written, but not read.
-/

namespace PostalRegions

namespace ScheduledRebuild

variable {κ : Type} [DatabaseFormat κ] {first second : ScheduledRebuild κ}
  {directory later : DataDirectory κ}

/-- What a rebuild that saves its acquisition publishes and leaves behind. -/
theorem result_of_saved (hsaved : (first.saved? directory).isSome = true) :
    (first.result directory).generation.tables =
        .ofTables (first.acquiredSnapshot directory).exact
          (first.acquiredSnapshot directory).estimates first.settings.policy ∧
      (first.acquiredSnapshot directory).exact ≠ ∅ ∧
      (first.result directory).directory.file? first.settings.snapshotPath =
        some (.database (.ofSnapshot (first.acquiredSnapshot directory)
          (SnapshotStore.metadataOf (first.acquiredSnapshot directory) first.settings.version
            first.settings.extraFingerprint (first.acquiredAt directory))),
          first.acquiredAt directory) := by
  unfold saved? at hsaved
  split at hsaved
  · simp at hsaved
  · rename_i hreusable
    split at hsaved
    · simp at hsaved
    · rename_i hacquired
      have hnone : first.settings.reusable? directory first.begunAt = none := by
        simpa using hreusable
      have hnonempty : (first.acquired directory).table.isEmpty = false :=
        Bool.eq_false_iff.mpr hacquired
      have hresult : first.result directory = _ :=
        Settings.rebuild_of_acquired hnone rfl hnonempty
      rw [hresult, Settings.publish_directory_of_acquired]
      refine ⟨rfl, Std.ExtTreeMap.isEmpty_eq_false_iff.mp hnonempty, ?_⟩
      cases hsave : SnapshotStore.save (first.acquired directory).directory
          first.settings.snapshotPath (first.acquiredSnapshot directory) first.settings.version
          first.settings.extraFingerprint (first.acquiredAt directory) with
      | mk next result =>
          cases result with
          | error cause => simp [hsave, Except.toOption] at hsaved
          | ok metadata =>
              obtain ⟨rfl, hfile⟩ := SnapshotStore.file?_of_save hsave
              exact (congrArg (fun saved => saved.1.file? first.settings.snapshotPath) hsave).trans
                hfile

/-- A later rebuild under the same settings finds what an earlier one left behind. -/
structure Succeeds (second first : ScheduledRebuild κ) (directory later : DataDirectory κ) :
    Prop where
  settings : second.settings = first.settings
  snapshot : (later.file? first.settings.snapshotPath).map Prod.fst =
    ((first.result directory).directory.file? first.settings.snapshotPath).map Prod.fst
  /-- The operator's file is as the earlier rebuild read it, or missing both times. -/
  operatorFile : first.settings.operatorFile? later =
    first.settings.operatorFile? (first.acquired directory).directory
  young : second.begunAt.since (first.acquiredAt directory) <
    (first.settings.timeToLive * nanosPerSecond : Nat)

/-- The snapshot left behind has the estimates that were published, and the operator's file is
asked first both times. -/
theorem Succeeds.estimates_without (hsucceeds : second.Succeeds first directory later)
    {metadata : Metadata} {modified : Instant}
    (hfile : later.file? first.settings.snapshotPath =
      some (.database (.ofSnapshot (first.acquiredSnapshot directory) metadata), modified)) :
    (first.settings.estimates later).without (first.acquiredSnapshot directory).exact =
      (first.acquiredSnapshot directory).estimates := by
  have hoperator := Settings.operatorEstimates?_congr hsucceeds.operatorFile
  change _ = (first.settings.estimates (first.acquired directory).directory).without _
  cases hestimates :
      first.settings.operatorEstimates? (first.acquired directory).directory with
  | some estimates =>
      rw [hestimates] at hoperator
      simp only [Settings.estimates, hoperator, hestimates]
      rfl
  | none =>
      rw [hestimates] at hoperator
      have hload := SnapshotStore.loadEstimates_of_file? hfile
      have hlater : first.settings.estimates later =
          (first.acquiredSnapshot directory).estimates := by
        simp only [Settings.estimates, hoperator, hload]
        rfl
      rw [hlater]
      exact EstimateTable.without_without _ _

/-- A rebuild that cannot reuse the snapshot asks for something, if it has any time for it. -/
theorem requests_result_ne_nil (hreusable : second.settings.reusable? later second.begunAt = none)
    (htime : second.settings.startupTimeout ≠ 0) : (second.result later).requests ≠ [] := by
  have hjournal : (second.result later).journal = (second.acquired later).journal := by
    unfold result Settings.rebuild
    unfold begunAt at hreusable
    rw [hreusable]
    rfl
  unfold Rebuilt.requests
  rw [hjournal]
  apply AcquisitionTask.requests_run_ne_nil
  simp [AcquisitionState.checkDeadline, AcquisitionState.start, Settings.acquisition, htime]

/-- What was acquired took some time. -/
theorem startupTimeout_ne_zero (hnonempty : (first.acquired directory).table ≠ ∅) :
    first.settings.startupTimeout ≠ 0 := by
  intro hzero
  apply hnonempty
  apply AcquisitionTask.table_run_of_late
  simp [AcquisitionState.checkDeadline, AcquisitionState.start, Settings.acquisition, hzero]

/-- The second rebuild finds the first one's snapshot, and has to read the moment at which it was
saved. -/
theorem Succeeds.reusable?_iff (hsaved : (first.saved? directory).isSome = true)
    (hsucceeds : second.Succeeds first directory later)
    (hproper : (first.acquiredAt directory).IsProper) {exact : ExactTable} {created : Instant} :
    second.settings.reusable? later second.begunAt = some (exact, created) ↔
      (first.acquiredAt directory).HasFourDigitYear ∧
        (first.acquired directory).table.size < Text.countBound ∧
        created = first.acquiredAt directory ∧
        exact = (first.acquiredSnapshot directory).exact := by
  obtain ⟨_, hnonempty, hleft⟩ := result_of_saved hsaved
  obtain ⟨modified, hfile⟩ := DataDirectory.exists_file?_of_content
    (hsucceeds.snapshot.trans (congrArg (Option.map Prod.fst) hleft))
  have hkeys : Table.HasKeyTexts (first.acquiredSnapshot directory).exact :=
    AcquisitionTask.hasKeyTexts_run _ directory first.clock
  have hsize : (first.acquiredSnapshot directory).exact.size ≠ 0 :=
    fun hzero => hnonempty (Std.ExtTreeMap.eq_empty_iff_size_eq_zero.mpr hzero)
  rw [hsucceeds.settings, Settings.reusable?_iff_of_file? hfile hkeys.ne_empty]
  constructor
  · rintro ⟨_, _, _, hcount, hcreated, _, rfl, _⟩
    obtain ⟨hyear, hmoment⟩ := (Instant.parse?_written_iff hproper).mp hcreated
    exact ⟨hyear, hcount, hmoment, rfl⟩
  · rintro ⟨hyear, hcount, rfl, rfl⟩
    exact ⟨rfl, rfl, hsize, hcount, Instant.parse?_written hproper hyear, hsucceeds.young, rfl,
      hnonempty⟩

/-- After a restart, nothing is fetched, and the tables and the answers to all queries are those
that they were before, exactly if the moment of saving has a year of four digits and the number of
exact entries can be read back. -/
theorem restarts_alike_iff [Confidence κ] (hsaved : (first.saved? directory).isSome = true)
    (hsucceeds : second.Succeeds first directory later)
    (hproper : (first.acquiredAt directory).IsProper) :
    ((second.result later).requests = [] ∧
      (second.result later).generation.tables = (first.result directory).generation.tables ∧
      ∀ country postalCode,
        (second.result later).generation.lookup country postalCode =
          (first.result directory).generation.lookup country postalCode) ↔
    (first.acquiredAt directory).HasFourDigitYear ∧
      (first.acquired directory).table.size < Text.countBound := by
  obtain ⟨htables, hnonempty, hleft⟩ := result_of_saved hsaved
  constructor
  · rintro ⟨hrequests, -, -⟩
    have htime : second.settings.startupTimeout ≠ 0 := by
      rw [hsucceeds.settings]
      exact startupTimeout_ne_zero hnonempty
    cases hreusable : second.settings.reusable? later second.begunAt with
    | none => exact absurd hrequests (requests_result_ne_nil hreusable htime)
    | some reused =>
        obtain ⟨hyear, hcount, -, -⟩ := (hsucceeds.reusable?_iff hsaved hproper).mp hreusable
        exact ⟨hyear, hcount⟩
  · rintro ⟨hyear, hcount⟩
    have hreusable := (hsucceeds.reusable?_iff hsaved hproper).mpr ⟨hyear, hcount, rfl, rfl⟩
    have hresult : second.result later = _ := Settings.rebuild_of_reusable? hreusable
    obtain ⟨modified, hfile⟩ := DataDirectory.exists_file?_of_content
      (hsucceeds.snapshot.trans (congrArg (Option.map Prod.fst) hleft))
    have hsame :
        (second.result later).generation.tables = (first.result directory).generation.tables := by
      rw [hresult, Settings.publish_tables, htables, hsucceeds.settings]
      exact congrArg (LookupTables.ofTables _ · _) (hsucceeds.estimates_without hfile)
    refine ⟨?_, hsame, ?_⟩
    · rw [hresult]
      rfl
    · intro country postalCode
      unfold Generation.lookup
      rw [hsame]

/-- A rebuild with an archive for one country. -/
def ordinaryRebuild : ScheduledRebuild Rat where
  settings :=
    { Settings.standard with
      baseAddress := "https://host"
      countryNames := ["AT"]
      dataFolder := "data"
      estimateFile := "data/estimates.csv" }
  fetcher :=
    { archive := fun _ _ =>
        ⟨.ok (some (Archive.ofTable ⟨"at.csv", "CODE,NUTS3\n1010,AT130\n"⟩)), 0⟩
      listing := fun _ _ => ⟨.error .network, 0⟩ }
  clock := 0
  wall := .steady (.sinceEpoch 1700000000 0)

/-- The next day, with nothing to be had from the source. -/
def restartedRebuild : ScheduledRebuild Rat where
  settings := ordinaryRebuild.settings
  fetcher :=
    { archive := fun _ _ => ⟨.error .network, 0⟩
      listing := fun _ _ => ⟨.error .network, 0⟩ }
  clock := 0
  wall := .steady (.sinceEpoch 1700086400 0)

/-- A directory with a file of the operator, with one estimate. -/
def suppliedDirectory : DataDirectory Rat :=
  (SnapshotStore.place .empty ordinaryRebuild.settings.estimateFile
    (.plain ("COUNTRY_CODE,POSTAL_CODE,ESTIMATED_LEVEL3,ESTIMATED_LEVEL2,ESTIMATED_LEVEL1," ++
      "CONFIDENCE\nAT,1011,AT130,AT13,AT1,high\n").toUTF8) ordinaryRebuild.begunAt).1

theorem restartedRebuild_answers_alike :
    (ordinaryRebuild.saved? suppliedDirectory).isSome = true ∧
      restartedRebuild.Succeeds ordinaryRebuild suppliedDirectory
        (ordinaryRebuild.result suppliedDirectory).directory ∧
      (ordinaryRebuild.result suppliedDirectory).generation.tables.estimates.size = 1 ∧
      (restartedRebuild.result (ordinaryRebuild.result suppliedDirectory).directory).requests =
        [] ∧
      (restartedRebuild.result
          (ordinaryRebuild.result suppliedDirectory).directory).generation.tables =
        (ordinaryRebuild.result suppliedDirectory).generation.tables := by
  have hrun : (ordinaryRebuild.saved? suppliedDirectory).isSome = true ∧
      ordinaryRebuild.settings.operatorFile? (ordinaryRebuild.result suppliedDirectory).directory =
        ordinaryRebuild.settings.operatorFile?
          (ordinaryRebuild.acquired suppliedDirectory).directory ∧
      (ordinaryRebuild.acquired suppliedDirectory).table.size < Text.countBound ∧
      (ordinaryRebuild.result suppliedDirectory).generation.tables.estimates.size = 1 := by
    decide +kernel
  obtain ⟨hsaved, hoperator, hcount, hestimates⟩ := hrun
  have hsucceeds : restartedRebuild.Succeeds ordinaryRebuild suppliedDirectory
      (ordinaryRebuild.result suppliedDirectory).directory :=
    ⟨rfl, rfl, hoperator, by decide +kernel⟩
  have hclock : (ordinaryRebuild.acquiredAt suppliedDirectory).IsProper ∧
      (ordinaryRebuild.acquiredAt suppliedDirectory).HasFourDigitYear := by
    decide +kernel
  obtain ⟨hrequests, htables, _⟩ :=
    (restarts_alike_iff hsaved hsucceeds hclock.1).mpr ⟨hclock.2, hcount⟩
  exact ⟨hsaved, hsucceeds, hestimates, hrequests, htables⟩

end ScheduledRebuild

end PostalRegions
