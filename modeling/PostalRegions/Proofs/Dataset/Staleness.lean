import Mathlib.Logic.Function.Basic
import PostalRegions.Confidence.Rational
import PostalRegions.Proofs.Dataset.Soundness
import PostalRegions.Snapshot.Pages

/-!
# Stale generations

A generation over an acquisition that the deadline cut short is published as stale, but what is
saved of the acquisition does not tell that it was cut short.  Rebuilds over one data directory
are followed together with the acquisitions that were saved on the way.  This shows exactly when
such a table is read back and published as if it were complete.
-/

namespace PostalRegions

variable {κ : Type}

/-! ## Databases of a directory -/

def DataDirectory.databaseAt? (directory : DataDirectory κ) (place : Storage.Place) :
    Option (Database κ) :=
  match directory.fileAt? place with
  | some (.database database, _) => some database
  | _ => none

/-- A directory has no snapshot files but those of another one. -/
def DataDirectory.AddsNoDatabase (directory next : DataDirectory κ) : Prop :=
  ∀ place database, next.databaseAt? place = some database →
    directory.databaseAt? place = some database

theorem DataDirectory.databaseAt?_of_fileAt? {directory : DataDirectory κ} {place : Storage.Place}
    {database : Database κ} {modified : Instant}
    (hfile : directory.fileAt? place = some (.database database, modified)) :
    directory.databaseAt? place = some database := by
  unfold databaseAt?
  rw [hfile]

theorem DataDirectory.exists_fileAt?_of_databaseAt? {directory : DataDirectory κ}
    {place : Storage.Place} {database : Database κ}
    (hdatabase : directory.databaseAt? place = some database) :
    ∃ modified, directory.fileAt? place = some (.database database, modified) := by
  unfold databaseAt? at hdatabase
  split at hdatabase
  · rename_i found modified hfile
    cases hdatabase
    exact ⟨modified, hfile⟩
  · cases hdatabase

theorem DataDirectory.databaseAt?_of_sameFiles {directory next : DataDirectory κ}
    (hsame : directory.SameFiles next) (place : Storage.Place) :
    next.databaseAt? place = directory.databaseAt? place := by
  unfold databaseAt?
  rw [hsame place]

theorem DataDirectory.databaseAt?_of_fileWritten {directory next : DataDirectory κ}
    {here : Storage.Place} {database : Database κ} {now : Instant}
    (hwritten : directory.FileWritten next here (.database database) now)
    (place : Storage.Place) :
    next.databaseAt? place =
      if place = here then some database else directory.databaseAt? place := by
  unfold databaseAt?
  rw [hwritten place]
  by_cases hplace : place = here
  · simp [hplace]
  · simp [hplace]

theorem AcquisitionTask.addsNoDatabase_run [DatabaseFormat κ] (task : AcquisitionTask)
    (directory : DataDirectory κ) (clock : Nat) :
    directory.AddsNoDatabase (task.run directory clock).directory := by
  have hevery : (task.run directory clock).directory.EveryFile fun place content =>
      ∀ database, content = .database database → directory.databaseAt? place = some database := by
    refine task.everyFile_run ?_ ?_ clock
    · intro place bytes database hcontent
      cases hcontent
    · intro place content modified hfile database hcontent
      rw [hcontent] at hfile
      exact DataDirectory.databaseAt?_of_fileAt? hfile
  intro place database hdatabase
  obtain ⟨modified, hfile⟩ := DataDirectory.exists_fileAt?_of_databaseAt? hdatabase
  exact hevery place (.database database) modified hfile database rfl

/-! ## Sequences of rebuilds -/

structure SavedAcquisition (κ : Type) where
  snapshot : Snapshot κ
  metadata : Metadata
  /-- Whether the deadline cut it short. -/
  timedOut : Bool

structure SavedAcquisition.IsKept (acquisition : SavedAcquisition κ) : Prop where
  exactKeys : Table.HasKeyTexts acquisition.snapshot.exact
  nonempty : acquisition.snapshot.exact ≠ ∅
  exactCount : acquisition.metadata.exactCount = acquisition.snapshot.exact.size

structure ScheduledRebuild (κ : Type) where
  settings : Settings κ
  fetcher : Fetcher
  clock : Nat
  wall : WallClock

namespace ScheduledRebuild

variable [DatabaseFormat κ]

/-- The moment at which the rebuild begins. -/
def begunAt (rebuild : ScheduledRebuild κ) : Instant :=
  rebuild.wall rebuild.clock

def result (rebuild : ScheduledRebuild κ) (directory : DataDirectory κ) : Rebuilt κ :=
  rebuild.settings.rebuild rebuild.fetcher directory rebuild.clock rebuild.wall

/-- The end of the acquisition of the rebuild, if it has one. -/
def acquired (rebuild : ScheduledRebuild κ) (directory : DataDirectory κ) : AcquisitionState κ :=
  (rebuild.settings.acquisition rebuild.fetcher rebuild.clock rebuild.wall).run directory
    rebuild.clock

/-- The moment at which the acquisition of the rebuild ends. -/
def acquiredAt (rebuild : ScheduledRebuild κ) (directory : DataDirectory κ) : Instant :=
  rebuild.wall (rebuild.acquired directory).clock

/-- The acquired table, with the estimates that go with it. -/
def acquiredSnapshot (rebuild : ScheduledRebuild κ) (directory : DataDirectory κ) : Snapshot κ :=
  let state := rebuild.acquired directory
  ⟨state.table, (rebuild.settings.estimates state.directory).without state.table⟩

/-- The acquisition that the rebuild saves, if it has one with data and can save it. -/
def saved? (rebuild : ScheduledRebuild κ) (directory : DataDirectory κ) :
    Option (SavedAcquisition κ) :=
  if (rebuild.settings.reusable? directory rebuild.begunAt).isSome then none
  else if (rebuild.acquired directory).table.isEmpty then none
  else
    let saved := SnapshotStore.save (rebuild.acquired directory).directory
      rebuild.settings.snapshotPath (rebuild.acquiredSnapshot directory) rebuild.settings.version
      rebuild.settings.extraFingerprint (rebuild.acquiredAt directory)
    saved.2.toOption.map fun metadata =>
      ⟨rebuild.acquiredSnapshot directory, metadata,
        (rebuild.acquired directory).report.timedOut⟩

variable {rebuild : ScheduledRebuild κ} {directory : DataDirectory κ}

theorem isStale_result (rebuild : ScheduledRebuild κ) (directory : DataDirectory κ) :
    (rebuild.result directory).generation.status.isStale =
      (rebuild.result directory).origin.isStale := by
  unfold result Settings.rebuild
  split <;> rfl

theorem result_of_reusable? {exact : ExactTable} {created : Instant}
    (hreusable : rebuild.settings.reusable? directory rebuild.begunAt = some (exact, created)) :
    (rebuild.result directory).origin = .snapshot ∧
      (rebuild.result directory).generation.tables.exact = exact ∧
      (rebuild.result directory).directory = directory := by
  unfold result
  rw [Settings.rebuild_of_reusable? hreusable]
  exact ⟨rfl, rfl, rfl⟩

/-- What a rebuild can come to. -/
inductive Course (rebuild : ScheduledRebuild κ) (directory : DataDirectory κ) : Prop
  | reused (exact : ExactTable) (created : Instant)
      (hreusable : rebuild.settings.reusable? directory rebuild.begunAt = some (exact, created))
      (horigin : (rebuild.result directory).origin = .snapshot)
      (hsaved : rebuild.saved? directory = none)
      (hdirectory : (rebuild.result directory).directory = directory)
  /-- The acquisition has no data. -/
  | fellBack
      (horigin : (rebuild.result directory).origin = .staleSnapshot ∨
        (rebuild.result directory).origin = .empty)
      (hsaved : rebuild.saved? directory = none)
      (hdirectory :
        (rebuild.result directory).directory = (rebuild.acquired directory).directory)
  /-- The acquisition has data, which cannot be saved. -/
  | unsaved
      (horigin : (rebuild.result directory).origin =
        .acquired (rebuild.acquired directory).report.timedOut)
      (hsaved : rebuild.saved? directory = none)
      (hsame :
        (rebuild.acquired directory).directory.SameFiles (rebuild.result directory).directory)
  | saved (acquisition : SavedAcquisition κ)
      (horigin : (rebuild.result directory).origin =
        .acquired (rebuild.acquired directory).report.timedOut)
      (hsaved : rebuild.saved? directory = some acquisition)
      (hkept : acquisition.IsKept)
      (hwritten : (rebuild.acquired directory).directory.FileWritten
        (rebuild.result directory).directory (Storage.destination rebuild.settings.snapshotPath)
        (.database (.ofSnapshot acquisition.snapshot acquisition.metadata))
        (rebuild.acquiredAt directory))

theorem course_of_acquired (hreusable : rebuild.settings.reusable? directory rebuild.begunAt = none)
    (hacquired : (rebuild.acquired directory).table.isEmpty = false) :
    rebuild.Course directory := by
  have hresult : rebuild.result directory = _ :=
    Settings.rebuild_of_acquired hreusable rfl hacquired
  have horigin : (rebuild.result directory).origin =
      .acquired (rebuild.acquired directory).report.timedOut := by
    rw [hresult]
    rfl
  have hdirectory : (rebuild.result directory).directory =
      (SnapshotStore.save (rebuild.acquired directory).directory rebuild.settings.snapshotPath
        (rebuild.acquiredSnapshot directory) rebuild.settings.version
        rebuild.settings.extraFingerprint (rebuild.acquiredAt directory)).1 := by
    rw [hresult]
    exact Settings.publish_directory_of_acquired
  rcases SnapshotStore.save_cases (rebuild.acquired directory).directory
      rebuild.settings.snapshotPath (rebuild.acquiredSnapshot directory) rebuild.settings.version
      rebuild.settings.extraFingerprint (rebuild.acquiredAt directory) with
    ⟨cause, herror, hsame⟩ | ⟨hok, hwritten⟩
  · have hsaved : rebuild.saved? directory = none := by
      simp [saved?, hreusable, hacquired, herror, Except.toOption]
    rw [← hdirectory] at hsame
    exact .unsaved horigin hsaved hsame
  · have hsaved : rebuild.saved? directory = some ⟨rebuild.acquiredSnapshot directory,
        SnapshotStore.metadataOf (rebuild.acquiredSnapshot directory) rebuild.settings.version
          rebuild.settings.extraFingerprint (rebuild.acquiredAt directory),
        (rebuild.acquired directory).report.timedOut⟩ := by
      simp [saved?, hreusable, hacquired, hok, Except.toOption]
    rw [← hdirectory] at hwritten
    refine .saved _ horigin hsaved ⟨?_, ?_, rfl⟩ hwritten
    · exact AcquisitionTask.hasKeyTexts_run _ directory rebuild.clock
    · exact Std.ExtTreeMap.isEmpty_eq_false_iff.mp hacquired

theorem course (rebuild : ScheduledRebuild κ) (directory : DataDirectory κ) :
    rebuild.Course directory := by
  cases hreusable : rebuild.settings.reusable? directory rebuild.begunAt with
  | some reused =>
      obtain ⟨exact, created⟩ := reused
      obtain ⟨horigin, _, hdirectory⟩ := result_of_reusable? hreusable
      have hsaved : rebuild.saved? directory = none := by
        simp [saved?, hreusable]
      exact .reused exact created hreusable horigin hsaved hdirectory
  | none =>
      cases hacquired : (rebuild.acquired directory).table.isEmpty with
      | true =>
          have hresult : rebuild.result directory = _ :=
            Settings.rebuild_of_isEmpty hreusable rfl hacquired
          have hsaved : rebuild.saved? directory = none := by
            simp [saved?, hreusable, hacquired]
          refine .fellBack ?_ hsaved ?_
          · rw [hresult]
            exact Settings.fallback_origin _ _
          · rw [hresult]
            exact Settings.publish_directory_of_fallback
      | false => exact course_of_acquired hreusable hacquired

/-- A rebuild that saves nothing brings no snapshot file into the directory. -/
theorem addsNoDatabase_result (hsaved : rebuild.saved? directory = none) :
    directory.AddsNoDatabase (rebuild.result directory).directory := by
  have hrun : directory.AddsNoDatabase (rebuild.acquired directory).directory :=
    AcquisitionTask.addsNoDatabase_run _ directory rebuild.clock
  cases rebuild.course directory with
  | reused exact created _ _ _ hdirectory =>
      rw [hdirectory]
      exact fun _ _ hdatabase => hdatabase
  | fellBack _ _ hdirectory =>
      rw [hdirectory]
      exact hrun
  | unsaved _ _ hsame =>
      intro place database hdatabase
      rw [DataDirectory.databaseAt?_of_sameFiles hsame] at hdatabase
      exact hrun place database hdatabase
  | saved acquisition _ hfound =>
      rw [hsaved] at hfound
      cases hfound

/-- A rebuild that saves an acquisition brings one snapshot file into the directory. -/
theorem databaseAt?_result {acquisition : SavedAcquisition κ}
    (hsaved : rebuild.saved? directory = some acquisition) :
    acquisition.IsKept ∧
      ∀ place database, (rebuild.result directory).directory.databaseAt? place = some database →
        if place = Storage.destination rebuild.settings.snapshotPath then
          database = .ofSnapshot acquisition.snapshot acquisition.metadata
        else directory.databaseAt? place = some database := by
  cases rebuild.course directory with
  | reused _ _ _ _ hnone => simp [hsaved] at hnone
  | fellBack _ hnone => simp [hsaved] at hnone
  | unsaved _ hnone => simp [hsaved] at hnone
  | saved found _ hfound hkept hwritten =>
      rw [hsaved] at hfound
      cases hfound
      refine ⟨hkept, ?_⟩
      intro place database hdatabase
      rw [DataDirectory.databaseAt?_of_fileWritten hwritten] at hdatabase
      by_cases hplace : place = Storage.destination rebuild.settings.snapshotPath
      · rw [if_pos hplace] at hdatabase ⊢
        exact (Option.some.inj hdatabase).symm
      · rw [if_neg hplace] at hdatabase ⊢
        exact AcquisitionTask.addsNoDatabase_run _ directory rebuild.clock place database hdatabase

end ScheduledRebuild

/-- A data directory, together with the acquisition that was saved last at each place. -/
structure SnapshotTrace (κ : Type) where
  directory : DataDirectory κ
  saved : Storage.Place → Option (SavedAcquisition κ)

namespace SnapshotTrace

variable [DatabaseFormat κ]

def extend (trace : SnapshotTrace κ) (rebuild : ScheduledRebuild κ) : SnapshotTrace κ where
  directory := (rebuild.result trace.directory).directory
  saved :=
    match rebuild.saved? trace.directory with
    | some acquisition =>
      Function.update trace.saved (Storage.destination rebuild.settings.snapshotPath)
        (some acquisition)
    | none => trace.saved

def ofRebuilds (directory : DataDirectory κ) (rebuilds : List (ScheduledRebuild κ)) :
    SnapshotTrace κ :=
  rebuilds.foldl extend ⟨directory, fun _ => none⟩

/-- The acquisition was the last to be saved where a path leads, and a snapshot file is there. -/
def ReadsBack (trace : SnapshotTrace κ) (path : String) (acquisition : SavedAcquisition κ) :
    Prop :=
  ∃ place, trace.directory.place? path = some place ∧ trace.saved place = some acquisition ∧
    (trace.directory.databaseAt? place).isSome = true

/-- A rebuild publishes the exact table of an acquisition that was cut short: of its own, or of
one that is read back. -/
def PublishesCutShort (trace : SnapshotTrace κ) (rebuild : ScheduledRebuild κ) : Prop :=
  match (rebuild.result trace.directory).origin with
  | .acquired timedOut => timedOut = true
  | .snapshot | .staleSnapshot =>
    ∃ acquisition, trace.ReadsBack rebuild.settings.snapshotPath acquisition ∧
      acquisition.timedOut = true ∧
      (rebuild.result trace.directory).generation.tables.exact = acquisition.snapshot.exact
  | .empty => False

/-! ## What is saved where -/

/-- The snapshot files hold the acquisitions that were saved last at their places. -/
def Invariant (trace : SnapshotTrace κ) : Prop :=
  ∀ place acquisition, trace.saved place = some acquisition →
    acquisition.IsKept ∧ ∀ database, trace.directory.databaseAt? place = some database →
      database = .ofSnapshot acquisition.snapshot acquisition.metadata

theorem Invariant.extend {trace : SnapshotTrace κ} (hinvariant : trace.Invariant)
    (rebuild : ScheduledRebuild κ) : (trace.extend rebuild).Invariant := by
  intro place acquisition hplace
  unfold SnapshotTrace.extend at hplace ⊢
  dsimp only at hplace ⊢
  cases hsaved : rebuild.saved? trace.directory with
  | none =>
      rw [hsaved] at hplace
      obtain ⟨hkept, hdatabases⟩ := hinvariant place acquisition hplace
      refine ⟨hkept, ?_⟩
      intro database hdatabase
      exact hdatabases database
        (ScheduledRebuild.addsNoDatabase_result hsaved place database hdatabase)
  | some last =>
      obtain ⟨hkept, hdatabases⟩ := ScheduledRebuild.databaseAt?_result hsaved
      rw [hsaved] at hplace
      dsimp only at hplace
      by_cases hhere : place = Storage.destination rebuild.settings.snapshotPath
      · subst place
        rw [Function.update_self] at hplace
        cases hplace
        refine ⟨hkept, ?_⟩
        intro database hdatabase
        simpa using hdatabases _ database hdatabase
      · rw [Function.update_of_ne hhere] at hplace
        obtain ⟨hkeptBefore, hdatabasesBefore⟩ := hinvariant place acquisition hplace
        refine ⟨hkeptBefore, ?_⟩
        intro database hdatabase
        have hbefore := hdatabases place database hdatabase
        rw [if_neg hhere] at hbefore
        exact hdatabasesBefore database hbefore

theorem invariant_ofRebuilds (directory : DataDirectory κ) (rebuilds : List (ScheduledRebuild κ)) :
    (ofRebuilds directory rebuilds).Invariant := by
  have hstart : (⟨directory, fun _ => none⟩ : SnapshotTrace κ).Invariant := by
    intro place acquisition hplace
    cases hplace
  apply List.foldlRecOn rebuilds SnapshotTrace.extend hstart
  intro trace htrace rebuild _
  exact htrace.extend rebuild

omit [DatabaseFormat κ] in
theorem Invariant.file?_of_readsBack {trace : SnapshotTrace κ} (hinvariant : trace.Invariant)
    {path : String} {acquisition : SavedAcquisition κ} (hreads : trace.ReadsBack path acquisition) :
    acquisition.IsKept ∧ ∃ modified, trace.directory.file? path =
      some (.database (.ofSnapshot acquisition.snapshot acquisition.metadata), modified) := by
  obtain ⟨place, hplace, hsaved, hsome⟩ := hreads
  obtain ⟨hkept, hdatabases⟩ := hinvariant place acquisition hsaved
  obtain ⟨database, hdatabase⟩ := Option.isSome_iff_exists.mp hsome
  obtain ⟨modified, hfile⟩ := DataDirectory.exists_fileAt?_of_databaseAt? hdatabase
  refine ⟨hkept, modified, ?_⟩
  rw [Storage.Directory.file?_eq, hplace, Option.bind_some, hfile, hdatabases database hdatabase]

/-! ## Partial tables that pass as complete -/

/-- When a saved acquisition is reused in place of a fresh one. -/
theorem Invariant.reusable?_iff {trace : SnapshotTrace κ} (hinvariant : trace.Invariant)
    {settings : Settings κ} {acquisition : SavedAcquisition κ}
    (hreads : trace.ReadsBack settings.snapshotPath acquisition) {now created : Instant}
    {exact : ExactTable} :
    settings.reusable? trace.directory now = some (exact, created) ↔
      acquisition.metadata.version = settings.version ∧
        acquisition.metadata.fingerprint = settings.extraFingerprint ∧
        acquisition.metadata.exactCount < Text.countBound ∧
        Instant.parse? acquisition.metadata.createdAt.written = some created ∧
        now.since created < (settings.timeToLive * nanosPerSecond : Nat) ∧
        acquisition.snapshot.exact = exact := by
  obtain ⟨hkept, modified, hfile⟩ := hinvariant.file?_of_readsBack hreads
  have hsize : acquisition.metadata.exactCount ≠ 0 := by
    rw [hkept.exactCount]
    intro hzero
    exact hkept.nonempty (Std.ExtTreeMap.eq_empty_iff_size_eq_zero.mpr hzero)
  rw [Settings.reusable?_iff_of_file? hfile hkept.exactKeys.ne_empty]
  constructor
  · rintro ⟨hversion, hfingerprint, _, hcount, hcreated, hyoung, hexact, _⟩
    exact ⟨hversion, hfingerprint, hcount, hcreated, hyoung, hexact⟩
  · rintro ⟨hversion, hfingerprint, hcount, hcreated, hyoung, rfl⟩
    exact ⟨hversion, hfingerprint, hsize, hcount, hcreated, hyoung, rfl, hkept.nonempty⟩

/-- A partial table is published as complete exactly if a cut-short acquisition is read back that
has the version and the overriding archives of the settings, is not too old, and whose time and
count can be read. -/
theorem partial_passes_as_complete_iff (directory : DataDirectory κ)
    (earlier : List (ScheduledRebuild κ)) (last : ScheduledRebuild κ) :
    ((last.result (ofRebuilds directory earlier).directory).generation.status.isStale = false ∧
        (ofRebuilds directory earlier).PublishesCutShort last) ↔
      ∃ acquisition created,
        (ofRebuilds directory earlier).ReadsBack last.settings.snapshotPath acquisition ∧
        acquisition.timedOut = true ∧
        acquisition.metadata.version = last.settings.version ∧
        acquisition.metadata.fingerprint = last.settings.extraFingerprint ∧
        acquisition.metadata.exactCount < Text.countBound ∧
        Instant.parse? acquisition.metadata.createdAt.written = some created ∧
        last.begunAt.since created < (last.settings.timeToLive * nanosPerSecond : Nat) := by
  have hinvariant := invariant_ofRebuilds directory earlier
  let trace := ofRebuilds directory earlier
  rw [ScheduledRebuild.isStale_result]
  constructor
  · rintro ⟨hstale, hcut⟩
    -- A table of the rebuild's own acquisition is marked if it is partial.
    have hown : (last.result trace.directory).origin ≠
        .acquired (last.acquired trace.directory).report.timedOut := by
      intro horigin
      unfold PublishesCutShort at hcut
      rw [horigin] at hstale hcut
      change (last.acquired trace.directory).report.timedOut = false at hstale
      change (last.acquired trace.directory).report.timedOut = true at hcut
      rw [hcut] at hstale
      cases hstale
    cases last.course trace.directory with
    | reused exact created hreusable horigin =>
        unfold PublishesCutShort at hcut
        rw [horigin] at hcut
        obtain ⟨acquisition, hreads, htimedOut, _⟩ := hcut
        obtain ⟨hversion, hfingerprint, hcount, hcreated, hyoung, _⟩ :=
          (hinvariant.reusable?_iff hreads).mp hreusable
        exact ⟨acquisition, created, hreads, htimedOut, hversion, hfingerprint, hcount, hcreated,
          hyoung⟩
    | fellBack horigin =>
        rcases horigin with horigin | horigin
        · rw [horigin] at hstale
          cases hstale
        · rw [horigin] at hstale
          cases hstale
    | unsaved horigin => exact absurd horigin hown
    | saved _ horigin => exact absurd horigin hown
  · rintro ⟨acquisition, created, hreads, htimedOut, hversion, hfingerprint, hcount, hcreated,
      hyoung⟩
    have hreusable : last.settings.reusable? trace.directory last.begunAt =
        some (acquisition.snapshot.exact, created) :=
      (hinvariant.reusable?_iff hreads).mpr
        ⟨hversion, hfingerprint, hcount, hcreated, hyoung, rfl⟩
    obtain ⟨horigin, htable, _⟩ := ScheduledRebuild.result_of_reusable? hreusable
    constructor
    · rw [horigin]
      rfl
    · unfold PublishesCutShort
      rw [horigin]
      exact ⟨acquisition, hreads, htimedOut, htable⟩

/-- A rebuild whose first archive takes longer than the whole acquisition may. -/
def hurriedRebuild : ScheduledRebuild Rat where
  settings :=
    { Settings.standard with
      baseAddress := "https://host"
      countryNames := ["AT", "DE"]
      dataFolder := "data"
      startupTimeout := 2 }
  fetcher :=
    { archive := fun _ _ =>
        ⟨.ok (some (Archive.ofTable ⟨"at.csv", "CODE,NUTS3\n1010,AT130\n"⟩)), 3000⟩
      listing := fun _ _ => ⟨.error .network, 0⟩ }
  clock := 0
  wall := .steady (.sinceEpoch 1700000000 0)

theorem hurriedRebuild_passes_as_complete :
    (hurriedRebuild.result
        (ofRebuilds .empty [hurriedRebuild]).directory).generation.status.isStale = false ∧
      (ofRebuilds .empty [hurriedRebuild]).PublishesCutShort hurriedRebuild := by
  have hrun : (hurriedRebuild.saved? .empty).map (fun saved => (saved.timedOut, saved.metadata)) =
        some (true, ⟨"2024", hurriedRebuild.acquiredAt .empty, 1, 0,
          hurriedRebuild.settings.extraFingerprint⟩) ∧
      (hurriedRebuild.result .empty).directory.place? hurriedRebuild.settings.snapshotPath =
        some ["data", "postal-regions-2024.db"] ∧
      ((hurriedRebuild.result .empty).directory.databaseAt?
        ["data", "postal-regions-2024.db"]).isSome = true := by
    decide +kernel
  have hdestination : Storage.destination hurriedRebuild.settings.snapshotPath =
      ["data", "postal-regions-2024.db"] := by
    decide +kernel
  have hcreated : Instant.parse? (hurriedRebuild.acquiredAt .empty).written =
      some (hurriedRebuild.acquiredAt .empty) := by
    decide +kernel
  obtain ⟨acquisition, hsaved, hfacts⟩ := Option.map_eq_some_iff.mp hrun.1
  obtain ⟨htimedOut, hmetadata⟩ := Prod.mk.inj hfacts
  have hlast : (ofRebuilds .empty [hurriedRebuild]).saved ["data", "postal-regions-2024.db"] =
      some acquisition := by
    unfold ofRebuilds
    rw [List.foldl_cons, List.foldl_nil]
    unfold extend
    simp only [hsaved, hdestination]
    exact Function.update_self _ _ _
  apply (partial_passes_as_complete_iff .empty [hurriedRebuild] hurriedRebuild).mpr
  refine ⟨acquisition, hurriedRebuild.acquiredAt .empty, ⟨_, hrun.2.1, hlast, hrun.2.2⟩,
    htimedOut, ?_⟩
  rw [hmetadata]
  exact ⟨rfl, rfl, by decide, hcreated, by decide +kernel⟩

end SnapshotTrace

end PostalRegions
