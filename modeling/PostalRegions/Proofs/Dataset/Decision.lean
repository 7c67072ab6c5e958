import PostalRegions.Configuration.Loading
import PostalRegions.Proofs.Acquisition.Caching
import PostalRegions.Proofs.Dataset.Staleness

/-!
# Where the data of a rebuild come from

A rebuild reuses the snapshot exactly if what it tells about itself speaks for it and one of its
rows can be read.  Otherwise the data come from an acquisition, and if that has none, from whatever
the snapshot holds then.  Unless it acquired data, a rebuild leaves the snapshot file as it was; the
one exception is a version with slashes that leads the cached archives to the same place.
-/

namespace PostalRegions

/-! ## Rows that can be read -/

/-- A row has a country, a region and a code that is not empty. -/
def ExactRow.IsWellFormed (row : ExactRow) : Prop :=
  ∃ (country : Country) (code : String) (region : RegionCode),
    row = ⟨some country.code, some code, some region.code⟩ ∧ code ≠ ""

theorem ExactRow.isWellFormed_iff {row : ExactRow} :
    row.IsWellFormed ↔ ∃ entry, row.toEntry? = some entry := by
  constructor
  · rintro ⟨country, code, region, rfl, hcode⟩
    exact ⟨_, @ExactRow.entry_of_ofEntry (⟨country, code⟩, region) hcode⟩
  · rintro ⟨entry, hentry⟩
    unfold toEntry? at hentry
    obtain ⟨countryText, hcountryText, hentry⟩ := Option.bind_eq_some_iff.mp hentry
    obtain ⟨country, hcountry, hentry⟩ := Option.bind_eq_some_iff.mp hentry
    obtain ⟨code, hcode, hentry⟩ := Option.bind_eq_some_iff.mp hentry
    obtain ⟨regionText, hregionText, hentry⟩ := Option.bind_eq_some_iff.mp hentry
    obtain ⟨region, hregion, hentry⟩ := Option.bind_eq_some_iff.mp hentry
    have hnonempty : code ≠ "" := by
      rintro rfl
      simp at hentry
    cases hparsed : Country.parse countryText with
    | error cause => simp [hparsed, Except.toOption] at hcountry
    | ok parsed =>
        cases hread : RegionCode.parse regionText with
        | error cause => simp [hread, Except.toOption] at hregion
        | ok read =>
            refine ⟨parsed, code, read, ?_, hnonempty⟩
            rw [Country.parse_eq_ok_iff.mp hparsed, RegionCode.parse_eq_ok_iff.mp hread,
              ← hcountryText, ← hcode, ← hregionText]

/-- A table is not empty exactly if a row of it can be read. -/
theorem Database.exactOf_ne_empty_iff {rows : List ExactRow} :
    Database.exactOf rows ≠ ∅ ↔ ∃ row ∈ rows, row.IsWellFormed := by
  have hmember (key : EntryKey) : key ∈ Database.exactOf rows ↔
      ∃ row ∈ rows, ∃ entry, row.toEntry? = some entry ∧ entry.1 = key := by
    unfold Database.exactOf
    rw [Std.ExtTreeMap.mem_ofList, List.contains_iff_mem]
    simp only [List.mem_map, List.mem_filterMap]
    constructor
    · rintro ⟨entry, ⟨row, hrow, hentry⟩, hkey⟩
      exact ⟨row, hrow, entry, hentry, hkey⟩
    · rintro ⟨row, hrow, entry, hentry, hkey⟩
      exact ⟨entry, ⟨row, hrow, hentry⟩, hkey⟩
  rw [ne_eq, Std.ExtTreeMap.eq_empty_iff_forall_not_mem, not_forall]
  simp only [not_not]
  simp only [hmember, ExactRow.isWellFormed_iff]
  constructor
  · rintro ⟨_, row, hrow, entry, hentry, _⟩
    exact ⟨row, hrow, entry, hentry⟩
  · rintro ⟨row, hrow, entry, hentry⟩
    exact ⟨entry.1, row, hrow, entry, hentry, rfl⟩

namespace SnapshotStore

variable {κ : Type} [DatabaseFormat κ]

/-- The file at a path has a table of exact entries, and a row of it can be read. -/
def YieldsExact (directory : DataDirectory κ) (path : String) : Prop :=
  ∃ database rows, open? directory path = .ok database ∧ database.exact = some rows ∧
    ∃ row ∈ rows, row.IsWellFormed

theorem yieldsExact_iff {directory : DataDirectory κ} {path : String} :
    YieldsExact directory path ↔ ∃ exact, loadExact directory path = .ok exact ∧ exact ≠ ∅ := by
  have hload : loadExact directory path = (open? directory path).bind fun database =>
      (tableOf database.exact).map Database.exactOf := rfl
  unfold YieldsExact
  rw [hload]
  cases hopen : open? directory path with
  | error cause => simp [Except.bind]
  | ok database =>
      cases hrows : database.exact with
      | none => simp [Except.bind, Except.map, hrows, tableOf]
      | some rows =>
          simp [Except.bind, Except.map, hrows, tableOf, ← Database.exactOf_ne_empty_iff]

end SnapshotStore

theorem ExactOrigin.isStale_eq_false_iff {origin : ExactOrigin} :
    origin.isStale = false ↔ origin = .snapshot ∨ origin = .acquired false := by
  cases origin <;> simp [isStale]

theorem Table.mem_countries {β : Type} {table : Table β} {country : Country} :
    country ∈ table.countries ↔ ∃ key ∈ table, key.country = country := by
  unfold countries
  rw [Std.ExtTreeSet.mem_ofList, List.contains_iff_mem]
  simp only [List.mem_map, Std.ExtTreeMap.mem_iff_isSome_getElem?, Option.isSome_iff_exists]
  constructor
  · rintro ⟨⟨key, value⟩, hentry, hcountry⟩
    exact ⟨key, ⟨value, Std.ExtTreeMap.mem_toList_iff_getElem?_eq_some.mp hentry⟩, hcountry⟩
  · rintro ⟨key, ⟨value, hvalue⟩, hcountry⟩
    exact ⟨(key, value), Std.ExtTreeMap.mem_toList_iff_getElem?_eq_some.mpr hvalue, hcountry⟩

namespace Settings

variable {κ : Type} [DatabaseFormat κ] {settings : Settings κ} {directory : DataDirectory κ}

omit [DatabaseFormat κ] in
theorem timeToLive_of_valid [Confidence κ] (hvalid : settings.fault? = none) :
    settings.timeToLive = settings.cacheDays * secondsPerDay := by
  have hdays : settings.cacheDays ≤ maxCacheDays := by
    by_contra hmore
    have hrange : maxCacheDays < settings.cacheDays := Nat.lt_of_not_le hmore
    unfold fault? at hvalid
    split_ifs at hvalid
  have hbound : maxCacheDays * secondsPerDay ≤ greatestDuration := by decide
  unfold timeToLive
  exact Nat.min_eq_left ((Nat.mul_le_mul_right secondsPerDay hdays).trans hbound)

/-- What the snapshot tells about itself speaks for it, and a row of it can be read. -/
def HasReusableSnapshot (settings : Settings κ) (directory : DataDirectory κ) (now : Instant) :
    Prop :=
  ∃ metadata, SnapshotStore.readMetadata directory settings.snapshotPath = .ok metadata ∧
    metadata.version = settings.version ∧ metadata.exactCount ≠ 0 ∧
    now.since metadata.createdAt <
      (settings.cacheDays * secondsPerDay * nanosPerSecond : Nat) ∧
    metadata.fingerprint = settings.extraFingerprint ∧
    SnapshotStore.YieldsExact directory settings.snapshotPath

theorem hasReusableSnapshot_iff [Confidence κ] (hvalid : settings.fault? = none) {now : Instant} :
    settings.HasReusableSnapshot directory now ↔
      ∃ exact created, settings.reusable? directory now = some (exact, created) := by
  simp only [reusable?_eq_some_iff, Metadata.invalidity?_eq_none_iff]
  constructor
  · rintro ⟨metadata, hread, hversion, hcount, hyoung, hfingerprint, hyields⟩
    obtain ⟨exact, hload, hexact⟩ := SnapshotStore.yieldsExact_iff.mp hyields
    refine ⟨exact, metadata.createdAt, metadata, hread, ?_, hload, hexact, rfl⟩
    rw [← timeToLive_of_valid hvalid] at hyoung
    exact ⟨hversion, hcount, hyoung, hfingerprint⟩
  · rintro ⟨exact, created, metadata, hread, ⟨hversion, hcount, hyoung, hfingerprint⟩, hload,
      hexact, _⟩
    refine ⟨metadata, hread, hversion, hcount, ?_, hfingerprint,
      SnapshotStore.yieldsExact_iff.mpr ⟨exact, hload, hexact⟩⟩
    rw [← timeToLive_of_valid hvalid]
    exact hyoung

theorem fallback_of_yields (hyields : SnapshotStore.YieldsExact directory settings.snapshotPath) :
    (settings.fallback directory).origin = .staleSnapshot ∧
      (settings.fallback directory).table ≠ ∅ := by
  obtain ⟨exact, hload, hexact⟩ := SnapshotStore.yieldsExact_iff.mp hyields
  have hnonempty : exact.isEmpty = false := Std.ExtTreeMap.isEmpty_eq_false_iff.mpr hexact
  unfold fallback
  simp only [hload, hnonempty]
  exact ⟨rfl, hexact⟩

theorem fallback_of_not_yields
    (hnone : ¬ SnapshotStore.YieldsExact directory settings.snapshotPath) :
    settings.fallback directory = ⟨∅, .empty, none⟩ := by
  unfold fallback
  cases hload : SnapshotStore.loadExact directory settings.snapshotPath with
  | error cause => rfl
  | ok exact =>
      by_cases hexact : exact = ∅
      · rw [hexact]
        rfl
      · exact absurd (SnapshotStore.yieldsExact_iff.mpr ⟨exact, hload, hexact⟩) hnone

theorem fallback_table_eq_empty_iff :
    (settings.fallback directory).table = ∅ ↔ (settings.fallback directory).origin = .empty := by
  by_cases hyields : SnapshotStore.YieldsExact directory settings.snapshotPath
  · obtain ⟨horigin, htable⟩ := fallback_of_yields hyields
    exact iff_of_false htable (by simp [horigin])
  · rw [fallback_of_not_yields hyields]
    exact iff_of_true rfl rfl

/-! ## Cached archives beside the snapshot -/

omit [DatabaseFormat κ] in
/-- A version without slashes keeps the cached archives apart from the snapshot file. -/
theorem archive_place_ne_snapshot_place {address name : String}
    (hversion : '/' ∉ settings.version.toList) (hname : archiveName? address = some name) :
    Storage.destination (Storage.join settings.archiveFolder name) ≠
      Storage.destination settings.snapshotPath := by
  obtain ⟨hnonempty, hslash⟩ := archiveName?_eq_some hname
  refine Storage.destination_join_join_ne ?_ ?_ ?_ ?_ ?_ hslash hnonempty
  · simp [hversion]
  · have hlead : "archives-".length = 9 := by decide
    rw [String.length_append]
    omega
  · simp [hversion]
  · have hlead : "postal-regions-".length = 15 := by decide
    rw [String.length_append, String.length_append]
    omega
  · intro hsame
    have hlist := congrArg String.toList hsame
    simp at hlist

end Settings

/-! ## The decision -/

def Rebuilt.requests {κ : Type} (rebuilt : Rebuilt κ) : List Request :=
  rebuilt.journal.filterMap AcquisitionEvent.request?

namespace ScheduledRebuild

variable {κ : Type} [DatabaseFormat κ]

/-- What a rebuild makes of the directory that it finds. -/
structure Decides (rebuild : ScheduledRebuild κ) (directory : DataDirectory κ) : Prop where
  snapshot_iff :
    (rebuild.result directory).requests = [] ∧ (rebuild.result directory).origin = .snapshot ↔
      rebuild.settings.HasReusableSnapshot directory rebuild.begunAt
  acquired_iff : ¬ rebuild.settings.HasReusableSnapshot directory rebuild.begunAt →
    ((∃ timedOut, (rebuild.result directory).origin = .acquired timedOut) ↔
      (rebuild.acquired directory).table ≠ ∅)
  staleSnapshot_iff : ¬ rebuild.settings.HasReusableSnapshot directory rebuild.begunAt →
    (rebuild.acquired directory).table = ∅ →
      ((rebuild.result directory).origin = .staleSnapshot ↔
        SnapshotStore.YieldsExact (rebuild.acquired directory).directory
          rebuild.settings.snapshotPath)
  empty_of_nothing : ¬ rebuild.settings.HasReusableSnapshot directory rebuild.begunAt →
    (rebuild.acquired directory).table = ∅ →
      ¬ SnapshotStore.YieldsExact (rebuild.acquired directory).directory
          rebuild.settings.snapshotPath →
        (rebuild.result directory).origin = .empty
  exact_eq_empty_iff :
    (rebuild.result directory).generation.tables.exact = ∅ ↔
      (rebuild.result directory).origin = .empty
  isStale_eq_false_iff :
    (rebuild.result directory).generation.status.isStale = false ↔
      (rebuild.result directory).origin = .snapshot ∨
        (rebuild.result directory).origin = .acquired false
  mem_loadedCountries_iff : ∀ country,
    country ∈ (rebuild.result directory).generation.status.loadedCountries ↔
      ∃ key ∈ (rebuild.result directory).generation.tables.exact, key.country = country
  /-- Unless data were acquired, the snapshot file stays as it is.  Only if the version has slashes
  can a cached archive lie in its place. -/
  snapshot_unchanged :
    (∀ timedOut, (rebuild.result directory).origin ≠ .acquired timedOut) →
      (rebuild.result directory).directory.fileAt?
          (Storage.destination rebuild.settings.snapshotPath) =
        directory.fileAt? (Storage.destination rebuild.settings.snapshotPath) ∨
      ('/' ∈ rebuild.settings.version.toList ∧
        ∃ event ∈ (rebuild.result directory).journal,
          event.Changes ⟨rebuild.settings.archiveFolder, rebuild.settings.timeToLive⟩
            (Storage.destination rebuild.settings.snapshotPath))

variable {rebuild : ScheduledRebuild κ} {directory : DataDirectory κ}

/-- Without a snapshot that may be reused there are three origins. -/
theorem origin_cases (hnone : rebuild.settings.reusable? directory rebuild.begunAt = none) :
    ((rebuild.acquired directory).table ≠ ∅ ∧ (rebuild.result directory).origin =
      .acquired (rebuild.acquired directory).report.timedOut) ∨
    ((rebuild.acquired directory).table = ∅ ∧
      SnapshotStore.YieldsExact (rebuild.acquired directory).directory
        rebuild.settings.snapshotPath ∧
      (rebuild.result directory).origin = .staleSnapshot) ∨
    ((rebuild.acquired directory).table = ∅ ∧
      ¬ SnapshotStore.YieldsExact (rebuild.acquired directory).directory
        rebuild.settings.snapshotPath ∧
      (rebuild.result directory).origin = .empty) := by
  by_cases hempty : (rebuild.acquired directory).table = ∅
  · right
    have hresult : rebuild.result directory = _ :=
      Settings.rebuild_of_isEmpty hnone rfl (Std.ExtTreeMap.isEmpty_iff.mpr hempty)
    by_cases hyields : SnapshotStore.YieldsExact (rebuild.acquired directory).directory
        rebuild.settings.snapshotPath
    · refine Or.inl ⟨hempty, hyields, ?_⟩
      rw [hresult]
      exact (Settings.fallback_of_yields hyields).1
    · refine Or.inr ⟨hempty, hyields, ?_⟩
      rw [hresult]
      exact congrArg ExactData.origin (Settings.fallback_of_not_yields hyields)
  · left
    have hresult : rebuild.result directory = _ :=
      Settings.rebuild_of_acquired hnone rfl (Std.ExtTreeMap.isEmpty_eq_false_iff.mpr hempty)
    refine ⟨hempty, ?_⟩
    rw [hresult]
    rfl

/-- A rebuild publishes data of some origin, and they are empty only if there are none. -/
theorem exists_publish (rebuild : ScheduledRebuild κ) (directory : DataDirectory κ) :
    ∃ found data clock journal now, (data.table = ∅ ↔ data.origin = .empty) ∧
      rebuild.result directory = rebuild.settings.publish found data clock journal now := by
  cases hreusable : rebuild.settings.reusable? directory rebuild.begunAt with
  | some reused =>
      obtain ⟨exact, created⟩ := reused
      obtain ⟨_, _, _, _, hexact, _⟩ := Settings.reusable?_eq_some_iff.mp hreusable
      exact ⟨_, ⟨exact, .snapshot, some created⟩, _, _, _, iff_of_false hexact (by simp),
        Settings.rebuild_of_reusable? hreusable⟩
  | none =>
      cases hempty : (rebuild.acquired directory).table.isEmpty with
      | false =>
          exact ⟨_, _, _, _, _,
            iff_of_false (Std.ExtTreeMap.isEmpty_eq_false_iff.mp hempty) (by simp),
            Settings.rebuild_of_acquired hreusable rfl hempty⟩
      | true =>
          exact ⟨_, _, _, _, _, Settings.fallback_table_eq_empty_iff,
            Settings.rebuild_of_isEmpty hreusable rfl hempty⟩

theorem fileAt?_result_of_not_acquired
    (horigin : ∀ timedOut, (rebuild.result directory).origin ≠ .acquired timedOut)
    (place : Storage.Place) :
    (rebuild.result directory).directory.fileAt? place = directory.fileAt? place ∨
      ∃ event ∈ (rebuild.result directory).journal,
        event.Changes ⟨rebuild.settings.archiveFolder, rebuild.settings.timeToLive⟩ place := by
  cases hreusable : rebuild.settings.reusable? directory rebuild.begunAt with
  | some reused =>
      obtain ⟨exact, created⟩ := reused
      obtain ⟨_, _, hdirectory⟩ := result_of_reusable? hreusable
      rw [hdirectory]
      exact Or.inl rfl
  | none =>
      rcases origin_cases hreusable with ⟨_, hacquired⟩ | hfellBack
      · exact absurd hacquired (horigin _)
      · have hempty : (rebuild.acquired directory).table.isEmpty = true :=
          Std.ExtTreeMap.isEmpty_iff.mpr (hfellBack.elim And.left And.left)
        have hresult : rebuild.result directory = _ :=
          Settings.rebuild_of_isEmpty hreusable rfl hempty
        rw [hresult, Settings.publish_directory_of_fallback]
        exact AcquisitionTask.tellsChanges_run _ directory rebuild.clock place

/-- Where the data of a rebuild come from, and what it leaves alone. -/
theorem decides [Confidence κ] (rebuild : ScheduledRebuild κ) (directory : DataDirectory κ)
    (hvalid : rebuild.settings.fault? = none) : rebuild.Decides directory := by
  have hreusable_iff : rebuild.settings.HasReusableSnapshot directory rebuild.begunAt ↔ _ :=
    Settings.hasReusableSnapshot_iff hvalid
  have hnone (hsnapshot : ¬ rebuild.settings.HasReusableSnapshot directory rebuild.begunAt) :
      rebuild.settings.reusable? directory rebuild.begunAt = none := by
    cases hreusable : rebuild.settings.reusable? directory rebuild.begunAt with
    | none => rfl
    | some reused => exact absurd (hreusable_iff.mpr ⟨reused.1, reused.2, hreusable⟩) hsnapshot
  obtain ⟨found, data, clock, journal, now, hdata, hpublish⟩ := rebuild.exists_publish directory
  constructor
  · constructor
    · rintro ⟨_, horigin⟩
      by_contra hsnapshot
      rcases origin_cases (hnone hsnapshot) with ⟨_, hother⟩ | ⟨_, _, hother⟩ | ⟨_, _, hother⟩
      · simp [hother] at horigin
      · simp [hother] at horigin
      · simp [hother] at horigin
    · intro hsnapshot
      obtain ⟨exact, created, hreusable⟩ := hreusable_iff.mp hsnapshot
      have hresult : rebuild.result directory = _ := Settings.rebuild_of_reusable? hreusable
      rw [hresult]
      exact ⟨rfl, rfl⟩
  · intro hsnapshot
    rcases origin_cases (hnone hsnapshot) with
      ⟨htable, horigin⟩ | ⟨htable, _, horigin⟩ | ⟨htable, _, horigin⟩
    · exact iff_of_true ⟨_, horigin⟩ htable
    · exact iff_of_false (by simp [horigin]) (not_not_intro htable)
    · exact iff_of_false (by simp [horigin]) (not_not_intro htable)
  · intro hsnapshot hempty
    rcases origin_cases (hnone hsnapshot) with
      ⟨htable, _⟩ | ⟨_, hyields, horigin⟩ | ⟨_, hyields, horigin⟩
    · exact absurd hempty htable
    · exact iff_of_true horigin hyields
    · exact iff_of_false (by simp [horigin]) hyields
  · intro hsnapshot hempty hnothing
    rcases origin_cases (hnone hsnapshot) with
      ⟨htable, _⟩ | ⟨_, hyields, _⟩ | ⟨_, _, horigin⟩
    · exact absurd hempty htable
    · exact absurd hyields hnothing
    · exact horigin
  · rw [hpublish]
    exact hdata
  · rw [hpublish]
    exact ExactOrigin.isStale_eq_false_iff
  · intro country
    rw [hpublish]
    exact Table.mem_countries
  · intro horigin
    rcases fileAt?_result_of_not_acquired horigin
        (Storage.destination rebuild.settings.snapshotPath) with hsame | ⟨event, hevent, hchanges⟩
    · exact Or.inl hsame
    · by_cases hversion : '/' ∈ rebuild.settings.version.toList
      · exact Or.inr ⟨hversion, event, hevent, hchanges⟩
      · obtain ⟨address, name, hname, _, harchive⟩ := hchanges
        exact absurd harchive (Settings.archive_place_ne_snapshot_place hversion hname)

/-- A rebuild under a version that leads the snapshot and the cached archives to one folder. -/
def slashedRebuild : ScheduledRebuild Rat where
  settings :=
    { Settings.standard with
      baseAddress := "https://host"
      version := "x/../"
      countryNames := []
      dataFolder := "data"
      extraAddresses := ["https://ops.example/.db?.zip"] }
  fetcher :=
    { archive := fun _ _ => ⟨.ok (some (Archive.withoutEntries [])), 0⟩
      listing := fun _ _ => ⟨.error .network, 0⟩ }
  clock := 0
  wall := .steady (.sinceEpoch 1700000000 0)

/-- A snapshot of one entry, saved under other additional sources. -/
def slashedDirectory : DataDirectory Rat :=
  (SnapshotStore.save .empty slashedRebuild.settings.snapshotPath
    ⟨(∅ : ExactTable).insert ⟨⟨"AT", by decide⟩, "1010"⟩ ⟨"AT130", by decide⟩, ∅⟩
    slashedRebuild.settings.version "another" slashedRebuild.begunAt).1

theorem slashedRebuild_decides :
    slashedRebuild.settings.fault? = none ∧ slashedRebuild.Decides slashedDirectory := by
  have hvalid : slashedRebuild.settings.fault? = none := by decide +kernel
  exact ⟨hvalid, decides slashedRebuild slashedDirectory hvalid⟩

/-- A cached archive can take the place of the snapshot in a rebuild without data. -/
theorem snapshot_overwritten_without_data :
    ¬ ∀ (rebuild : ScheduledRebuild Rat) (directory : DataDirectory Rat),
      rebuild.settings.fault? = none →
      (∀ timedOut, (rebuild.result directory).origin ≠ .acquired timedOut) →
      (rebuild.result directory).directory.fileAt?
          (Storage.destination rebuild.settings.snapshotPath) =
        directory.fileAt? (Storage.destination rebuild.settings.snapshotPath) := by
  intro hall
  have hvalid : slashedRebuild.settings.fault? = none := by decide +kernel
  have hplace : Storage.destination slashedRebuild.settings.snapshotPath = ["data", ".db"] := by
    decide +kernel
  have hrun : (slashedRebuild.result slashedDirectory).origin = .empty ∧
      ((slashedRebuild.result slashedDirectory).directory.databaseAt?
        ["data", ".db"]).isSome = false ∧
      (slashedDirectory.databaseAt? ["data", ".db"]).isSome = true := by
    decide +kernel
  obtain ⟨horigin, hafter, hbefore⟩ := hrun
  have hsame := hall slashedRebuild slashedDirectory hvalid (by simp [horigin])
  rw [hplace] at hsame
  have hdatabase : (slashedRebuild.result slashedDirectory).directory.databaseAt?
      ["data", ".db"] = slashedDirectory.databaseAt? ["data", ".db"] := by
    unfold DataDirectory.databaseAt?
    rw [hsame]
  rw [hdatabase, hbefore] at hafter
  cases hafter

end ScheduledRebuild

end PostalRegions
