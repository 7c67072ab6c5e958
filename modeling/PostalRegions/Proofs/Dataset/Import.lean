import PostalRegions.Proofs.Calendar.Rfc3339
import PostalRegions.Proofs.Dataset.Decision
import PostalRegions.Proofs.Snapshot.Staging

/-!
# Importing estimates

An import replaces the estimates of a snapshot and nothing else, or no file is touched; but rows of
exact entries without a code, which are not read, are not written again either.  A snapshot into
which a file was imported serves a rebuild as well as the file itself would, with one exception: a
moment of creation whose year does not have four digits can be written, but not read.
-/

namespace PostalRegions

variable {κ : Type}

/-! ## All or nothing -/

/-- The stored text of a fact. -/
def Database.fact? (database : Database κ) (key : MetadataKey) : Option String :=
  (database.metadata.bind Database.pairsOf?).bind fun pairs => pairs.lookup key.name

theorem Database.fact?_ofSnapshot (snapshot : Snapshot κ) (metadata : Metadata)
    (key : MetadataKey) :
    (ofSnapshot snapshot metadata).fact? key = some (metadata.stored key) := by
  unfold fact? ofSnapshot
  rw [Option.bind_some, pairsOf?_toPairs, Option.bind_some, Metadata.lookup_toPairs]

/-- A row of an exact entry has a code. -/
def ExactRow.hasCode (row : ExactRow) : Bool :=
  row.code ≠ some ""

/-- The estimates of a snapshot file are replaced by those that were read and have no exact
entry, and their number is stored; all else is as before, but for exact entries without a code. -/
structure Database.ReplacesEstimates (before after : Database κ) (exact : ExactTable)
    (estimates : EstimateTable κ) (stored : Nat) : Prop where
  exactRows : after.exact = before.exact.map (·.filter ExactRow.hasCode)
  keepsExact_iff : after.exact = before.exact ↔ ∀ key ∈ exact, key.code ≠ ""
  facts : ∀ key, key ≠ .estimateCount → after.fact? key = before.fact? key
  estimateCount : after.fact? .estimateCount = some (toString stored)
  estimateRows : ∃ kept : EstimateTable κ,
    after.estimates = some (kept.toList.map EstimateRow.ofEntry) ∧ kept.size = stored ∧
      ∀ key : EntryKey, kept[key]? = if key ∈ exact then none else estimates[key]?

/-- The rows of the entries with codes are the rows that have codes. -/
theorem Database.exact_ofSnapshot_withCodes (snapshot : Snapshot κ) (metadata facts : Metadata)
    (estimates : EstimateTable κ) :
    (ofSnapshot ⟨snapshot.exact.withCodes, estimates⟩ facts).exact =
      (ofSnapshot snapshot metadata).exact.map (·.filter ExactRow.hasCode) := by
  have hcode : ExactRow.hasCode ∘ ExactRow.ofEntry = fun entry => decide (entry.1.code ≠ "") := by
    funext entry
    simp [ExactRow.hasCode, ExactRow.ofEntry]
  unfold ofSnapshot
  rw [Option.map_some, List.filter_map, hcode, ExactTable.toList_withCodes]

theorem Database.filter_hasCode_eq_iff (snapshot : Snapshot κ) (metadata : Metadata) :
    (ofSnapshot snapshot metadata).exact.map (·.filter ExactRow.hasCode) =
        (ofSnapshot snapshot metadata).exact ↔ ∀ key ∈ snapshot.exact, key.code ≠ "" := by
  have hexact : (ofSnapshot snapshot metadata).exact =
      some (snapshot.exact.toList.map ExactRow.ofEntry) := rfl
  rw [hexact, Option.map_some, Option.some.injEq, List.filter_eq_self]
  constructor
  · intro hrows key hkey
    obtain ⟨entry, rfl, hrow⟩ := exists_row_of_mem ExactRow.ofEntry hkey
    simpa [ExactRow.hasCode, ExactRow.ofEntry] using hrows _ hrow
  · intro hcodes row hrow
    obtain ⟨entry, hentry, rfl⟩ := List.mem_map.mp hrow
    simpa [ExactRow.hasCode, ExactRow.ofEntry] using
      hcodes entry.1 (Table.mem_of_mem_toList hentry)

/-- Estimates under canonical keys do not meet exact entries without a code. -/
theorem EstimateTable.getElem?_without_withCodes {estimates : EstimateTable κ}
    (hkeys : Table.HasKeyTexts estimates) (exact : ExactTable) (key : EntryKey) :
    (estimates.without exact.withCodes)[key]? =
      if key ∈ exact then none else estimates[key]? := by
  rw [getElem?_without]
  by_cases hcode : key.code = ""
  · have habsent : estimates[key]? = none := by
      apply Std.ExtTreeMap.getElem?_eq_none
      intro hkey
      exact hkeys.ne_empty key hkey hcode
    rw [habsent, ite_self, ite_self]
  · simp only [ExactTable.mem_withCodes, hcode, ne_eq, not_false_eq_true, and_true]

/-- A snapshot file in which only the estimates and their number are replaced. -/
theorem Database.replacesEstimates_ofSnapshot {snapshot : Snapshot κ} {before after : Metadata}
    {estimates kept : EstimateTable κ}
    (hfacts : ∀ key, key ≠ .estimateCount → after.stored key = before.stored key)
    (hcount : after.estimateCount = kept.size)
    (hkept : ∀ key : EntryKey,
      kept[key]? = if key ∈ snapshot.exact then none else estimates[key]?) :
    (ofSnapshot snapshot before).ReplacesEstimates
      (ofSnapshot ⟨snapshot.exact.withCodes, kept⟩ after) snapshot.exact estimates kept.size := by
  have hrows := exact_ofSnapshot_withCodes snapshot before after kept
  constructor
  · exact hrows
  · rw [hrows]
    exact filter_hasCode_eq_iff snapshot before
  · intro key hkey
    rw [fact?_ofSnapshot, fact?_ofSnapshot, hfacts key hkey]
  · rw [fact?_ofSnapshot, ← hcount]
    rfl
  · exact ⟨kept, rfl, rfl, hkept⟩

section

variable [DatabaseFormat κ]

/-- An import whose snapshot file is put into place step by step. -/
def Staging.importEstimates (staging : Staging κ) (directory : DataDirectory κ) (path : String)
    (confidences : ConfidenceTable κ) (content : Option ByteArray) (now : Instant) :
    DataDirectory κ × Except ImportError Nat :=
  importWith (fun file => staging.put directory path file now) directory path confidences content

/-- What there is to say about an import and the directory that it leaves behind. -/
structure Staging.AllOrNothing (staging : Staging κ) (directory : DataDirectory κ) (path : String)
    (confidences : ConfidenceTable κ) (content : Option ByteArray) (now : Instant) : Prop where
  /-- Without a fault, the import is the one that writes its file at once. -/
  atOnce : staging.fault? = none →
    staging.importEstimates directory path confidences content now =
      PostalRegions.importEstimates directory path confidences content now
  unchanged : ∀ next cause,
    staging.importEstimates directory path confidences content now = (next, .error cause) →
      directory.SameFiles next
  replaced : ∀ next stored snapshot metadata modified,
    staging.importEstimates directory path confidences content now = (next, .ok stored) →
    directory.file? path = some (.database (.ofSnapshot snapshot metadata), modified) →
    metadata.createdAt.IsProper →
      ∃ sheet after, EstimateSheet.ofFile confidences content = .ok sheet ∧
        next.file? path = some (.database after, now) ∧
        (Database.ofSnapshot snapshot metadata).ReplacesEstimates after snapshot.exact
          sheet.estimates stored ∧
        SnapshotStore.loadExact next path = SnapshotStore.loadExact directory path ∧
        directory.FileWritten next (Storage.destination path) (.database after) now

end

/-- What a snapshot tells about itself is written again as it was read. -/
theorem Metadata.stored_of_read {metadata facts : Metadata} {created : Instant} {stored : Nat}
    (hproper : metadata.createdAt.IsProper)
    (hcreated : Instant.parse? metadata.createdAt.written = some created)
    (hfacts : facts = metadata.readBack created) {key : MetadataKey}
    (hkey : key ≠ .estimateCount) :
    ({ facts with estimateCount := stored } : Metadata).stored key = metadata.stored key := by
  obtain ⟨_, hsame⟩ := (Instant.parse?_written_iff hproper).mp hcreated
  subst hfacts hsame
  cases key with
  | estimateCount => exact absurd rfl hkey
  | version => rfl
  | createdAt => rfl
  | exactCount => rfl
  | fingerprint => rfl

theorem Staging.allOrNothing_importEstimates [DatabaseFormat κ] (staging : Staging κ)
    (directory : DataDirectory κ) (path : String) (hfresh : staging.IsFresh directory path)
    (confidences : ConfidenceTable κ) (content : Option ByteArray) (now : Instant) :
    staging.AllOrNothing directory path confidences content now := by
  constructor
  · intro hfault
    rw [importEstimates_eq_importWith]
    unfold Staging.importEstimates
    congr 1
    funext file
    exact put_eq_place hfresh hfault
  · intro next cause himport
    rcases error_of_importWith himport with rfl | ⟨file, fault, hput⟩
    · exact fun place => rfl
    · exact sameFiles_of_put hfresh hput
  · intro next stored snapshot metadata modified himport hfile hproper
    obtain ⟨sheet, ⟨exact, kept⟩, facts, hreads, rfl, hput⟩ := ok_of_importWith himport
    have hload := SnapshotStore.loadExact_eq_withCodes hfile
    obtain rfl : exact = snapshot.exact.withCodes :=
      Except.ok.inj (hreads.exact.symm.trans hload)
    obtain ⟨created, hcreated, _, hfacts⟩ :=
      (SnapshotStore.readMetadata_eq_ok_iff hfile).mp hreads.metadata
    have hkept (key : EntryKey) :
        kept[key]? = if key ∈ snapshot.exact then none else sheet.estimates[key]? := by
      rw [show kept = _ from hreads.kept]
      exact EstimateTable.getElem?_without_withCodes
        (EstimateSheet.hasKeyTexts_ofFile hreads.file) snapshot.exact key
    have hplace := put_eq_place_of_ok hfresh hput
    have hafter := SnapshotStore.file?_of_place hplace
    refine ⟨sheet, _, hreads.file, hafter, ?_, ?_, SnapshotStore.fileWritten_of_place hplace⟩
    · exact Database.replacesEstimates_ofSnapshot
        (fun _ hkey => Metadata.stored_of_read hproper hcreated hfacts hkey) rfl hkept
    · rw [hload, SnapshotStore.loadExact_of_file? hafter]
      exact fun key hkey => (ExactTable.mem_withCodes.mp hkey).2

/-- A snapshot in which one postal code is known. -/
def knownSnapshot : Snapshot Rat :=
  ⟨(∅ : ExactTable).insert ⟨⟨"DE", by decide⟩, "10115"⟩ ⟨"DE300", by decide⟩, ∅⟩

def knownMetadata : Metadata :=
  SnapshotStore.metadataOf knownSnapshot "2024" "" (.sinceEpoch 1700000000 0)

def knownDirectory : DataDirectory Rat :=
  (SnapshotStore.place .empty "data/regions.db"
    (.database (.ofSnapshot knownSnapshot knownMetadata)) knownMetadata.createdAt).1

/-- Estimates for the known postal code and for another one. -/
def estimateFile : ByteArray :=
  ("COUNTRY_CODE,POSTAL_CODE,ESTIMATED_LEVEL3,ESTIMATED_LEVEL2,ESTIMATED_LEVEL1,CONFIDENCE\n" ++
    "DE,10115,DE300,DE30,DE3,high\nDE,10117,DE300,DE30,DE3,high\n").toUTF8

/-- A write whose temporary file is empty at first. -/
def plainStaging : Staging Rat :=
  ⟨["data", ".snapshot-1.db.tmp"], [.plain .empty], none⟩

theorem plainStaging_replaces_estimates :
    ∃ next sheet after,
      plainStaging.importEstimates knownDirectory "data/regions.db" .standard (some estimateFile)
        (.sinceEpoch 1700086400 0) = (next, .ok 1) ∧
      EstimateSheet.ofFile .standard (some estimateFile) = .ok sheet ∧
      next.file? "data/regions.db" = some (.database after, .sinceEpoch 1700086400 0) ∧
      (Database.ofSnapshot knownSnapshot knownMetadata).ReplacesEstimates after
        knownSnapshot.exact sheet.estimates 1 := by
  have hfresh : plainStaging.IsFresh knownDirectory "data/regions.db" := by
    exact Option.isNone_iff_eq_none.mp (by decide +kernel)
  have hplaced : (SnapshotStore.place .empty "data/regions.db"
      (.database (.ofSnapshot knownSnapshot knownMetadata)) knownMetadata.createdAt).2 =
        .ok () := by
    decide +kernel
  have hfile : knownDirectory.file? "data/regions.db" =
      some (.database (.ofSnapshot knownSnapshot knownMetadata), knownMetadata.createdAt) :=
    SnapshotStore.file?_of_place (Prod.ext rfl hplaced)
  have hproper : knownMetadata.createdAt.IsProper := by decide +kernel
  have hstored : (plainStaging.importEstimates knownDirectory "data/regions.db" .standard
      (some estimateFile) (.sinceEpoch 1700086400 0)).2 = .ok 1 := by
    decide +kernel
  cases himport : plainStaging.importEstimates knownDirectory "data/regions.db" .standard
      (some estimateFile) (.sinceEpoch 1700086400 0) with
  | mk next result =>
      rw [himport] at hstored
      cases hstored
      obtain ⟨sheet, after, hsheet, hafter, hreplaces, _⟩ :=
        (plainStaging.allOrNothing_importEstimates knownDirectory "data/regions.db" hfresh
          .standard (some estimateFile) (.sinceEpoch 1700086400 0)).replaced next 1 knownSnapshot
          knownMetadata _ himport hfile hproper
      exact ⟨next, sheet, after, rfl, hsheet, hafter, hreplaces⟩

/-! ## Importing in place of supplying -/

namespace ScheduledRebuild

section

variable [DatabaseFormat κ]

/-- Two rebuilds under the same settings and over the same snapshot, which may be reused.  One of
them finds a file of estimates as the operator's file, the other one finds it imported. -/
structure ImportsInstead (imported supplied : ScheduledRebuild κ)
    (directory withFile later : DataDirectory κ) (bytes : ByteArray) (created : Instant) :
    Prop where
  settings : imported.settings = supplied.settings
  snapshot : (withFile.file? supplied.settings.snapshotPath).map Prod.fst =
    (directory.file? supplied.settings.snapshotPath).map Prod.fst
  operatorFile : supplied.settings.operatorFile? withFile = some bytes
  reusable : ∃ exact,
    supplied.settings.reusable? withFile supplied.begunAt = some (exact, created)
  reusableLater : ∃ reused, supplied.settings.reusable? directory imported.begunAt = some reused
  imports : ∃ now next stored,
    importEstimates directory supplied.settings.snapshotPath supplied.settings.confidenceTable
      (some bytes) now = (next, .ok stored) ∧
    (later.file? supplied.settings.snapshotPath).map Prod.fst =
      (next.file? supplied.settings.snapshotPath).map Prod.fst
  noOperatorFile : supplied.settings.operatorFile? later = none

variable {imported supplied : ScheduledRebuild κ} {withFile later : DataDirectory κ}
  {bytes : ByteArray} {created : Instant}

/-- What the import leaves behind: the snapshot as it was read, with the estimates of the file. -/
theorem ImportsInstead.exists_file?
    (hinstead : imported.ImportsInstead supplied directory withFile later bytes created) :
    ∃ sheet snapshot facts modified,
      supplied.settings.operatorEstimates? withFile = some sheet ∧
      snapshot.estimates = sheet.without snapshot.exact ∧
      SnapshotStore.readMetadata directory supplied.settings.snapshotPath = .ok facts ∧
      SnapshotStore.loadExact directory supplied.settings.snapshotPath = .ok snapshot.exact ∧
      later.file? supplied.settings.snapshotPath =
        some (.database (.ofSnapshot snapshot
          { facts with estimateCount := snapshot.estimates.size }), modified) := by
  obtain ⟨now, next, stored, himport, hlater⟩ := hinstead.imports
  obtain ⟨sheet, snapshot, facts, hreads, rfl, hplace⟩ := ok_of_importEstimates himport
  have hplaced := congrArg (Option.map Prod.fst) (SnapshotStore.file?_of_place hplace)
  obtain ⟨modified, hfile⟩ := DataDirectory.exists_file?_of_content (hlater.trans hplaced)
  have hestimates : supplied.settings.operatorEstimates? withFile = some sheet.estimates :=
    Settings.operatorEstimates?_eq_some_iff.mpr
      ⟨bytes, sheet, hinstead.operatorFile, hreads.file, hreads.nonempty, rfl⟩
  exact ⟨sheet.estimates, snapshot, facts, modified, hestimates, hreads.kept, hreads.metadata,
    hreads.exact, hfile⟩

/-- The facts about the snapshot speak for it both times, so that it is only a matter of reading
them again. -/
theorem ImportsInstead.reusable?_iff
    (hinstead : imported.ImportsInstead supplied directory withFile later bytes created)
    {snapshot : Snapshot κ} {facts : Metadata} {modified : Instant}
    (hread : SnapshotStore.readMetadata directory supplied.settings.snapshotPath = .ok facts)
    (hload : SnapshotStore.loadExact directory supplied.settings.snapshotPath =
      .ok snapshot.exact)
    (hfile : later.file? supplied.settings.snapshotPath =
      some (.database (.ofSnapshot snapshot
        { facts with estimateCount := snapshot.estimates.size }), modified)) :
    supplied.settings.reusable? withFile supplied.begunAt = some (snapshot.exact, created) ∧
      ∀ found moment, supplied.settings.reusable? later imported.begunAt = some (found, moment) ↔
        created.HasFourDigitYear ∧ moment = created ∧ found = snapshot.exact := by
  obtain ⟨exact, hreusable⟩ := hinstead.reusable
  obtain ⟨reused, hreusableLater⟩ := hinstead.reusableLater
  have hsame : supplied.settings.reusable? withFile supplied.begunAt =
      supplied.settings.reusable? directory supplied.begunAt :=
    Settings.reusable?_congr hinstead.snapshot
  obtain ⟨_, hreadFirst, _, hloadFirst, hnonempty, rfl⟩ :=
    Settings.reusable?_eq_some_iff.mp (hsame ▸ hreusable)
  obtain ⟨_, hreadLater, hvalid, _⟩ := Settings.reusable?_eq_some_iff.mp hreusableLater
  rw [hread] at hreadFirst hreadLater
  cases hreadFirst
  cases hreadLater
  rw [hload] at hloadFirst
  cases hloadFirst
  refine ⟨hreusable, ?_⟩
  intro found moment
  obtain ⟨⟨text, hparse⟩, hcount⟩ := SnapshotStore.read_of_readMetadata hread
  have hwritten : Instant.parse? facts.createdAt.written = some moment ↔
      facts.createdAt.HasFourDigitYear ∧ moment = facts.createdAt :=
    Instant.parse?_written_iff (Instant.isProper_of_parse? hparse)
  obtain ⟨hversion, hsome, hyoung, hfingerprint⟩ := Metadata.invalidity?_eq_none_iff.mp hvalid
  rw [Settings.reusable?_iff_of_file? hfile (SnapshotStore.code_ne_empty_of_loadExact hload)]
  constructor
  · rintro ⟨_, _, _, _, hcreated, _, rfl, _⟩
    obtain ⟨hyear, hmoment⟩ := hwritten.mp hcreated
    exact ⟨hyear, hmoment, rfl⟩
  · rintro ⟨hyear, rfl, rfl⟩
    exact ⟨hversion, hfingerprint, hsome, hcount, hwritten.mpr ⟨hyear, rfl⟩, hyoung, rfl,
      hnonempty⟩

/-- The snapshot with imported estimates is reused exactly if the moment at which it was made has
a year of four digits, and then a rebuild publishes what it would publish over the file itself. -/
theorem tables_of_importsInstead
    (hinstead : imported.ImportsInstead supplied directory withFile later bytes created) :
    ((imported.settings.reusable? later imported.begunAt).isSome = true ↔
        created.HasFourDigitYear) ∧
      (created.HasFourDigitYear →
        (imported.result later).generation.tables =
          (supplied.result withFile).generation.tables) := by
  obtain ⟨sheet, snapshot, facts, modified, hoperator, hkept, hread, hload, hfile⟩ :=
    hinstead.exists_file?
  obtain ⟨hreusable, hreusableLater⟩ := hinstead.reusable?_iff hread hload hfile
  rw [hinstead.settings]
  constructor
  · rw [Option.isSome_iff_exists]
    constructor
    · rintro ⟨⟨found, moment⟩, hreused⟩
      exact ((hreusableLater found moment).mp hreused).1
    · intro hyear
      exact ⟨_, (hreusableLater _ _).mpr ⟨hyear, rfl, rfl⟩⟩
  · intro hyear
    have hreused : imported.settings.reusable? later imported.begunAt =
        some (snapshot.exact, created) := by
      rw [hinstead.settings]
      exact (hreusableLater _ _).mpr ⟨hyear, rfl, rfl⟩
    have hresult : imported.result later = _ := Settings.rebuild_of_reusable? hreused
    have hresultFile : supplied.result withFile = _ := Settings.rebuild_of_reusable? hreusable
    have hnone : supplied.settings.operatorEstimates? later = none := by
      unfold Settings.operatorEstimates?
      rw [Option.map_eq_none_iff.mp hinstead.noOperatorFile]
      rfl
    have hestimates : supplied.settings.estimates later = snapshot.estimates := by
      simp only [Settings.estimates, hnone, SnapshotStore.loadEstimates_of_file? hfile]
      rfl
    have hestimatesFile : supplied.settings.estimates withFile = sheet := by
      simp only [Settings.estimates, hoperator]
    rw [hresult, hresultFile, Settings.publish_tables, Settings.publish_tables,
      hinstead.settings, hestimates, hestimatesFile, hkept, EstimateTable.without_without]

end

/-- A rebuild with an archive for one country. -/
def freshRebuild : ScheduledRebuild Rat where
  settings :=
    { Settings.standard with
      baseAddress := "https://host"
      countryNames := ["AT"]
      dataFolder := "data"
      estimateFile := "data/estimates.csv" }
  fetcher :=
    { archive := fun _ _ =>
        ⟨.ok (some (Archive.ofTable ⟨"at.csv", "CODE,NUTS3\n1020,AT127\n"⟩)), 0⟩
      listing := fun _ _ => ⟨.error .network, 0⟩ }
  clock := 0
  wall := .steady (.sinceEpoch 1700000000 0)

/-- A snapshot made in the last hours of the year 9999 somewhere west of Greenwich. -/
def lateDatabase : Database Rat where
  metadata := some [⟨some "dataset_version", some "2024"⟩,
    ⟨some "created_at", some "9999-12-31T23:59:59-23:59"⟩, ⟨some "exact_count", some "1"⟩]
  exact := some [⟨some "DE", some "10115", some "DE300"⟩]
  estimates := some []

def lateDirectory : DataDirectory Rat :=
  (SnapshotStore.place .empty freshRebuild.settings.snapshotPath (.database lateDatabase)
    freshRebuild.begunAt).1

def lateDirectoryWithFile : DataDirectory Rat :=
  (SnapshotStore.place lateDirectory freshRebuild.settings.estimateFile (.plain estimateFile)
    freshRebuild.begunAt).1

def lateImport : DataDirectory Rat × Except ImportError Nat :=
  importEstimates lateDirectory freshRebuild.settings.snapshotPath
    freshRebuild.settings.confidenceTable (some estimateFile) freshRebuild.begunAt

theorem lateImport_not_reused :
    freshRebuild.ImportsInstead freshRebuild lateDirectory lateDirectoryWithFile lateImport.1
        estimateFile (.sinceEpoch 253402387139 0) ∧
      (freshRebuild.settings.reusable? lateImport.1 freshRebuild.begunAt).isSome = false ∧
      (freshRebuild.result lateImport.1).generation.tables.exact.toList ≠
        (freshRebuild.result lateDirectoryWithFile).generation.tables.exact.toList := by
  have hrun : lateImport.2 = .ok 1 ∧
      (lateDirectoryWithFile.file? freshRebuild.settings.snapshotPath).map Prod.fst =
        (lateDirectory.file? freshRebuild.settings.snapshotPath).map Prod.fst ∧
      (freshRebuild.settings.reusable? lateDirectoryWithFile freshRebuild.begunAt).map Prod.snd =
        some (.sinceEpoch 253402387139 0) ∧
      (freshRebuild.settings.reusable? lateDirectory freshRebuild.begunAt).isSome = true ∧
      freshRebuild.settings.operatorFile? lateDirectoryWithFile = some estimateFile ∧
      freshRebuild.settings.operatorFile? lateImport.1 = none ∧
      (freshRebuild.result lateImport.1).generation.tables.exact.toList ≠
        (freshRebuild.result lateDirectoryWithFile).generation.tables.exact.toList := by
    decide +kernel
  obtain ⟨hstored, hsnapshot, hcreated, hreusable, hoperator, hnone, hdiffer⟩ := hrun
  obtain ⟨⟨exact, created⟩, hreused, rfl⟩ := Option.map_eq_some_iff.mp hcreated
  have himport : lateImport = (lateImport.1, .ok 1) :=
    Prod.mk.eta.symm.trans (congrArg (Prod.mk lateImport.1) hstored)
  have hinstead : freshRebuild.ImportsInstead freshRebuild lateDirectory lateDirectoryWithFile
      lateImport.1 estimateFile (.sinceEpoch 253402387139 0) :=
    { settings := rfl
      snapshot := hsnapshot
      operatorFile := hoperator
      reusable := ⟨exact, hreused⟩
      reusableLater := Option.isSome_iff_exists.mp hreusable
      imports := ⟨freshRebuild.begunAt, lateImport.1, 1, himport, rfl⟩
      noOperatorFile := hnone }
  have hyear : ¬ (Instant.sinceEpoch 253402387139 0).HasFourDigitYear := by decide +kernel
  refine ⟨hinstead, ?_, hdiffer⟩
  rw [Bool.eq_false_iff, ne_eq, (tables_of_importsInstead hinstead).1]
  exact hyear

end ScheduledRebuild

end PostalRegions
