import Mathlib
import PostalRegions.Confidence.Rational
import PostalRegions.Proofs.Acquisition.Files
import PostalRegions.Proofs.Acquisition.Filing
import PostalRegions.Snapshot.Pages

/-!
# Where archives come from

Acquisitions follow one another over one cache.  A cached copy is kept under the name of its
file, whatever the rest of the address was, so an archive that is merged for an address was
fetched from an address with the same name of a file: in the same run, or in an earlier one.  Only
an archive without such a name is never cached, and was fetched from its own address.
-/

namespace PostalRegions

/-! ## What was fetched -/

structure FetchRecord where
  fetcher : Fetcher
  journal : List AcquisitionEvent

/-- The content was the answer to a request for the address. -/
def FetchRecord.Fetched (record : FetchRecord) (address : String) (content : ByteArray) : Prop :=
  ∃ before, before ++ [.requested (.archive address)] <+: record.journal ∧
    (record.fetcher.archive (before.filterMap AcquisitionEvent.request?) address).answer =
      .ok (some content)

def FetchedUnder (records : List FetchRecord) (name : String) (content : ByteArray) : Prop :=
  ∃ address, archiveName? address = some name ∧
    ∃ record ∈ records, record.Fetched address content

theorem FetchRecord.Fetched.mono {fetcher : Fetcher} {journal next : List AcquisitionEvent}
    {address : String} {content : ByteArray}
    (hfetched : (FetchRecord.mk fetcher journal).Fetched address content)
    (hcontinues : journal <+: next) : (FetchRecord.mk fetcher next).Fetched address content := by
  obtain ⟨before, hbefore, hanswer⟩ := hfetched
  exact ⟨before, hbefore.trans hcontinues, hanswer⟩

variable {past : List FetchRecord} {fetcher : Fetcher} {journal next : List AcquisitionEvent}
  {name : String} {content : ByteArray}

theorem FetchedUnder.mono (hfetched : FetchedUnder (past ++ [⟨fetcher, journal⟩]) name content)
    (hcontinues : journal <+: next) :
    FetchedUnder (past ++ [⟨fetcher, next⟩]) name content := by
  obtain ⟨address, hname, record, hrecord, hanswer⟩ := hfetched
  refine ⟨address, hname, ?_⟩
  rcases List.mem_append.mp hrecord with hearlier | hlast
  · exact ⟨record, List.mem_append_left _ hearlier, hanswer⟩
  · rw [List.mem_singleton.mp hlast] at hanswer
    exact ⟨⟨fetcher, next⟩, by simp, hanswer.mono hcontinues⟩

theorem FetchedUnder.append {records : List FetchRecord}
    (hfetched : FetchedUnder records name content) (record : FetchRecord) :
    FetchedUnder (records ++ [record]) name content := by
  obtain ⟨address, hname, found, hfound, hanswer⟩ := hfetched
  exact ⟨address, hname, found, List.mem_append_left _ hfound, hanswer⟩

/-- What is merged for an address was fetched before: under the name that the address has, or
from the address itself if it has none. -/
structure Traceable (past : List FetchRecord) (fetcher : Fetcher)
    (journal : List AcquisitionEvent) (address : String) (content : ByteArray) : Prop where
  named : ∀ name, archiveName? address = some name →
    FetchedUnder (past ++ [⟨fetcher, journal⟩]) name content
  nameless : archiveName? address = none →
    (FetchRecord.mk fetcher journal).Fetched address content

theorem traceable_of_fetched {address : String}
    (hfetched : (FetchRecord.mk fetcher journal).Fetched address content) :
    Traceable past fetcher journal address content where
  named := fun _ hname => ⟨address, hname, ⟨fetcher, journal⟩, by simp, hfetched⟩
  nameless := fun _ => hfetched

/-! ## One acquisition -/

variable {κ : Type} [DatabaseFormat κ]

/-- Every copy in a cache was fetched under the name it is kept under. -/
def CacheIsFetched (folder : String) (records : List FetchRecord) (directory : DataDirectory κ) :
    Prop :=
  directory.EveryFile fun place content => ∀ address name, archiveName? address = some name →
    Storage.destination (Storage.join folder name) = place →
    FetchedUnder records name content.toBytes

namespace AcquisitionTask

variable {task : AcquisitionTask} {state : AcquisitionState κ}

theorem cacheIsFetched_mono {folder : String} {directory : DataDirectory κ}
    (hcache : CacheIsFetched folder (past ++ [⟨fetcher, journal⟩]) directory)
    (hcontinues : journal <+: next) :
    CacheIsFetched folder (past ++ [⟨fetcher, next⟩]) directory := by
  intro place content modified hfile address name hname hplace
  exact (hcache place content modified hfile address name hname hplace).mono hcontinues

theorem cacheIsFetched_fromCache
    (hcache : CacheIsFetched task.cache.folder (past ++ [⟨task.fetcher, state.journal⟩])
      state.directory) (address : String) :
    CacheIsFetched task.cache.folder
      (past ++ [⟨task.fetcher, (task.fromCache state address).1.journal⟩])
      (task.fromCache state address).1.directory :=
  cacheIsFetched_mono (everyFile_fromCache hcache address)
    (task.fromCache_journal state address).isPrefix

theorem traceable_of_fromCache
    (hcache : CacheIsFetched task.cache.folder (past ++ [⟨task.fetcher, state.journal⟩])
      state.directory) {address : String} {content : ByteArray}
    (hfound : (task.fromCache state address).2 = some content) :
    Traceable past task.fetcher (task.fromCache state address).1.journal address content := by
  have hcontinues := (task.fromCache_journal state address).isPrefix
  unfold fromCache at hfound
  split at hfound
  · cases hfound
  · rename_i name hname
    split at hfound
    · rename_i hload
      cases hfound
      obtain ⟨stored, modified, hfile, hstored, -, -⟩ := ArchiveCache.load_usable hload
      have hunder := hcache.of_file? hfile address name hname rfl
      rw [hstored] at hunder
      constructor
      · intro other hother
        rw [hname] at hother
        cases hother
        exact hunder.mono hcontinues
      · intro hnone
        rw [hname] at hnone
        cases hnone
    · cases hfound
    · cases hfound

omit [DatabaseFormat κ] in
theorem fetched_of_download {address : String} {content : ByteArray}
    (hfound : (task.download state address).2 = some content) :
    (FetchRecord.mk task.fetcher (task.download state address).1.journal).Fetched address
      content :=
  ⟨state.journal, (task.download_journal state address).isPrefix, (answer_of_download hfound).1⟩

theorem cacheIsFetched_download
    (hcache : CacheIsFetched task.cache.folder (past ++ [⟨task.fetcher, state.journal⟩])
      state.directory) (address : String) :
    CacheIsFetched task.cache.folder
      (past ++ [⟨task.fetcher, (task.download state address).1.journal⟩])
      (task.download state address).1.directory := by
  have hcontinues : state.journal <+: (task.download state address).1.journal :=
    (List.prefix_append _ _).trans (task.download_journal state address).isPrefix
  have hbefore := cacheIsFetched_mono hcache hcontinues
  rcases task.download_files state address with
    hsame | ⟨content, name, _, hfound, hname, hwritten⟩
  · exact hbefore.of_sameFiles hsame
  · apply hbefore.of_fileWritten hwritten
    -- The new copy is found under no other name than its own.
    intro other otherName hother hplaceOther
    have hnames := archiveName_eq_of_destination hname hother hwritten.ne_nil rfl hplaceOther
    rw [← hnames]
    exact ⟨address, hname, ⟨task.fetcher, _⟩, by simp, fetched_of_download hfound⟩

theorem traceable_obtain
    (hcache : CacheIsFetched task.cache.folder (past ++ [⟨task.fetcher, state.journal⟩])
      state.directory) (address : String) :
    CacheIsFetched task.cache.folder
        (past ++ [⟨task.fetcher, (task.obtain state address).1.journal⟩])
        (task.obtain state address).1.directory ∧
      ∀ content, (task.obtain state address).2 = some content →
        Traceable past task.fetcher (task.obtain state address).1.journal address content := by
  have hfromCache := cacheIsFetched_fromCache hcache address
  rcases task.obtain_cases state address with ⟨found, hfound, hobtain⟩ | ⟨_, hobtain⟩
  · rw [hobtain]
    refine ⟨hfromCache, ?_⟩
    intro content hcontent
    cases hcontent
    exact traceable_of_fromCache hcache hfound
  · rw [hobtain]
    refine ⟨cacheIsFetched_download hfromCache address, ?_⟩
    intro content hcontent
    exact traceable_of_fetched (fetched_of_download hcontent)

/-- What every step of an acquisition preserves: the cache holds what was fetched, and what was
merged was fetched before. -/
structure Provenance (task : AcquisitionTask) (past : List FetchRecord)
    (state : AcquisitionState κ) : Prop where
  cache : CacheIsFetched task.cache.folder (past ++ [⟨task.fetcher, state.journal⟩])
    state.directory
  merged : ∀ before address country mode content,
    before ++ [.merged address country mode content] <+: state.journal →
      Traceable past task.fetcher before address content

theorem merged_of_goesOn {before : List AcquisitionEvent} {address : String}
    {country : Option Country} {mode : WriteMode} {content : ByteArray}
    (hnext : GoesOn journal next)
    (hmerged : before ++ [.merged address country mode content] <+: next) :
    before ++ [.merged address country mode content] <+: journal := by
  obtain ⟨events, rfl, hevents⟩ := hnext
  obtain ⟨rest, hrest⟩ := hmerged
  rw [List.append_assoc] at hrest
  have habsent : .merged address country mode content ∉ events := by
    intro hmem
    cases hevents _ hmem
  rcases List.append_eq_append_iff.mp hrest with ⟨more, hjournal, hmore⟩ | ⟨more, _, hmore⟩
  · cases more with
    | nil =>
        rw [List.nil_append] at hmore
        exact absurd (by simp [← hmore]) habsent
    | cons event more =>
        rw [List.singleton_append, List.cons_append, List.cons.injEq] at hmore
        rw [hjournal, ← hmore.1]
        exact ⟨more, by simp⟩
  · exact absurd (by simp [hmore]) habsent

theorem provenance_step {next : AcquisitionState κ} (hstep : task.Step state next)
    (hstate : task.Provenance past state) : task.Provenance past next := by
  obtain ⟨hcache, hmerged⟩ := hstate
  cases hstep with
  | checked => exact ⟨hcache, hmerged⟩
  | listed =>
      have hrequested := GoesOn.requested state.journal (.listing task.plan.baseAddress)
      refine ⟨cacheIsFetched_mono hcache hrequested.isPrefix, ?_⟩
      intro before address country mode content hbefore
      exact hmerged before address country mode content (merged_of_goesOn hrequested hbefore)
  | obtained address =>
      refine ⟨(traceable_obtain hcache address).1, ?_⟩
      intro before other country mode content hbefore
      exact hmerged before other country mode content
        (merged_of_goesOn (task.obtain_journal state address) hbefore)
  | merged address country mode content tables hobtained htables =>
      obtain ⟨hobtainedCache, htraceable⟩ := traceable_obtain hcache address
      constructor
      · rw [AcquisitionState.mergeTables_journal, AcquisitionState.mergeTables_directory]
        exact cacheIsFetched_mono hobtainedCache (List.prefix_append _ _)
      · intro before other otherCountry otherMode found hbefore
        rw [AcquisitionState.mergeTables_journal, AcquisitionState.record_journal,
          List.prefix_concat_iff] at hbefore
        rcases hbefore with hlast | hearlier
        · obtain ⟨rfl, hevent⟩ := List.append_inj' hlast rfl
          cases hevent
          exact htraceable content hobtained
        · exact hmerged before other otherCountry otherMode found
            (merged_of_goesOn (task.obtain_journal state address) hearlier)
  | skipped => exact ⟨hcache, hmerged⟩
  | loaded => exact ⟨hcache, hmerged⟩

theorem provenance_run (task : AcquisitionTask) {directory : DataDirectory κ}
    (hcache : CacheIsFetched task.cache.folder past directory) (clock : Nat) :
    task.Provenance past (task.run directory clock) := by
  have hstart : task.Provenance past (.start directory clock : AcquisitionState κ) := by
    constructor
    · intro place content modified hfile address name hname hplace
      exact (hcache place content modified hfile address name hname hplace).append _
    · intro before address country mode content hbefore
      simp [AcquisitionState.start] at hbefore
  exact run_induction hstart fun _ _ => provenance_step

end AcquisitionTask

/-! ## One cache, many acquisitions -/

structure ScheduledAcquisition where
  plan : AcquisitionPlan
  fetcher : Fetcher
  /-- From which age on, in seconds, cached copies are too old. -/
  timeToLive : Nat
  clock : Nat
  wall : WallClock

def ScheduledAcquisition.task (acquisition : ScheduledAcquisition) (folder : String) :
    AcquisitionTask :=
  ⟨acquisition.plan, acquisition.fetcher, ⟨folder, acquisition.timeToLive⟩, acquisition.wall⟩

def ScheduledAcquisition.result (acquisition : ScheduledAcquisition) (folder : String)
    (directory : DataDirectory κ) : AcquisitionState κ :=
  (acquisition.task folder).run directory acquisition.clock

structure CacheHistory (κ : Type) where
  directory : DataDirectory κ
  records : List FetchRecord

namespace CacheHistory

def extend (folder : String) (history : CacheHistory κ) (acquisition : ScheduledAcquisition) :
    CacheHistory κ :=
  let state := acquisition.result folder history.directory
  ⟨state.directory, history.records ++ [⟨acquisition.fetcher, state.journal⟩]⟩

def ofAcquisitions (folder : String) (directory : DataDirectory κ)
    (acquisitions : List ScheduledAcquisition) : CacheHistory κ :=
  acquisitions.foldl (extend folder) ⟨directory, []⟩

theorem provenance_result {folder : String} {directory : DataDirectory κ}
    (hcache : CacheIsFetched folder past directory) (acquisition : ScheduledAcquisition) :
    (acquisition.task folder).Provenance past (acquisition.result folder directory) :=
  AcquisitionTask.provenance_run (acquisition.task folder) hcache acquisition.clock

theorem cacheIsFetched_extend {folder : String} {history : CacheHistory κ}
    (hcache : CacheIsFetched folder history.records history.directory)
    (acquisition : ScheduledAcquisition) :
    CacheIsFetched folder (history.extend folder acquisition).records
      (history.extend folder acquisition).directory := by
  have hprovenance := provenance_result hcache acquisition
  unfold extend
  exact hprovenance.cache

theorem cacheIsFetched_ofAcquisitions {folder : String} {directory : DataDirectory κ}
    (hcache : CacheIsFetched folder [] directory) (acquisitions : List ScheduledAcquisition) :
    CacheIsFetched folder (ofAcquisitions folder directory acquisitions).records
      (ofAcquisitions folder directory acquisitions).directory := by
  apply List.foldlRecOn (motive := fun history : CacheHistory κ =>
    CacheIsFetched folder history.records history.directory) acquisitions (extend folder) hcache
  intro history hhistory acquisition _
  exact cacheIsFetched_extend hhistory acquisition

end CacheHistory

/-- No file lies where an archive would be kept in the cache. -/
def IsVacantCache (folder : String) (directory : DataDirectory κ) : Prop :=
  ∀ address name, archiveName? address = some name →
    directory.fileAt? (Storage.destination (Storage.join folder name)) = none

omit [DatabaseFormat κ] in
theorem isVacantCache_empty (folder : String) :
    IsVacantCache folder (.empty : DataDirectory κ) := by
  intro address name _
  exact Storage.Directory.fileAt?_empty _

/-- What is merged for an address was fetched before, in the same acquisition or in an earlier
one over the cache, from an address with the same name of a file; if the address has none, then
in the same acquisition from the address itself. -/
theorem traceable_of_merged {folder : String} {directory : DataDirectory κ}
    (hvacant : IsVacantCache folder directory) (earlier : List ScheduledAcquisition)
    (last : ScheduledAcquisition) {before : List AcquisitionEvent} {address : String}
    {country : Option Country} {mode : WriteMode} {content : ByteArray}
    (hmerged : before ++ [.merged address country mode content] <+:
      (last.result folder
        (CacheHistory.ofAcquisitions folder directory earlier).directory).journal) :
    Traceable (CacheHistory.ofAcquisitions folder directory earlier).records last.fetcher before
      address content := by
  have hstart : CacheIsFetched folder [] directory := by
    intro place found modified hfile other name hname hplace
    rw [← hplace, hvacant other name hname] at hfile
    cases hfile
  have hcache := CacheHistory.cacheIsFetched_ofAcquisitions hstart earlier
  have hprovenance := CacheHistory.provenance_result hcache last
  exact hprovenance.merged before address country mode content hmerged

/-! ## Two archives of one name -/

def Archive.withoutEntries (comment : List UInt8) : ByteArray :=
  ⟨(littleEndian 4 endSignature ++ littleEndian 16 0 ++ littleEndian 2 comment.length ++
    comment).toArray⟩

/-- An acquisition of two archives at different addresses that have one name. -/
def namesakes : ScheduledAcquisition where
  plan := ⟨"https://host/", "2024", [], ["https://one/x.zip", "https://other/x.zip"], none⟩
  fetcher :=
    { archive := fun _ address =>
        ⟨.ok (some (Archive.withoutEntries (if address = "https://one/x.zip" then [] else [0]))),
          0⟩
      listing := fun _ _ => ⟨.error .network, 0⟩ }
  timeToLive := 1
  clock := 0
  wall := fun _ => ⟨0, 0⟩

def namesakesBefore : List AcquisitionEvent :=
  [.requested (.listing "https://host/"), .requested (.archive "https://one/x.zip"),
    .kept "x.zip" (Archive.withoutEntries []),
    .merged "https://one/x.zip" none .lastWins (Archive.withoutEntries []), .reused "x.zip"]

theorem namesakes_merged :
    namesakesBefore ++
        [.merged "https://other/x.zip" none .lastWins (Archive.withoutEntries [])] <+:
      (namesakes.result "archives" (CacheHistory.ofAcquisitions "archives"
        (.empty : DataDirectory Rat) []).directory).journal := by
  have hjournal : (namesakes.result "archives" (.empty : DataDirectory Rat)).journal =
      namesakesBefore ++
        [.merged "https://other/x.zip" none .lastWins (Archive.withoutEntries [])] := by
    decide +kernel
  have hstart : (CacheHistory.ofAcquisitions "archives" (.empty : DataDirectory Rat) []).directory =
      .empty := rfl
  rw [hstart]
  exact ⟨[], (List.append_nil _).trans hjournal.symm⟩

theorem namesakes_traceable :
    Traceable (CacheHistory.ofAcquisitions "archives" (.empty : DataDirectory Rat) []).records
      namesakes.fetcher namesakesBefore "https://other/x.zip" (Archive.withoutEntries []) :=
  traceable_of_merged (isVacantCache_empty "archives") [] namesakes namesakes_merged

/-- The archive that is merged for an address need not have been fetched from this address. -/
theorem merged_not_fetched_from_address :
    ¬ ∀ (earlier : List ScheduledAcquisition) (last : ScheduledAcquisition)
      (before : List AcquisitionEvent) (address : String) (country : Option Country)
      (mode : WriteMode) (content : ByteArray),
      before ++ [.merged address country mode content] <+:
        (last.result "archives" (CacheHistory.ofAcquisitions "archives"
          (.empty : DataDirectory Rat) earlier).directory).journal →
      ∃ record ∈ (CacheHistory.ofAcquisitions "archives"
          (.empty : DataDirectory Rat) earlier).records ++ [⟨last.fetcher, before⟩],
        record.Fetched address content := by
  intro hall
  obtain ⟨record, hrecord, before, _, hanswer⟩ := hall [] namesakes _ _ _ _ _ namesakes_merged
  have hrecords : (CacheHistory.ofAcquisitions "archives"
      (.empty : DataDirectory Rat) []).records = [] := rfl
  rw [hrecords, List.nil_append, List.mem_singleton] at hrecord
  rw [hrecord] at hanswer
  have hdiffer : Archive.withoutEntries [0] ≠ Archive.withoutEntries [] := by
    decide +kernel
  have hother : (namesakes.fetcher.archive (before.filterMap AcquisitionEvent.request?)
      "https://other/x.zip").answer = .ok (some (Archive.withoutEntries [0])) := rfl
  rw [hother] at hanswer
  simp only [Except.ok.injEq, Option.some.injEq] at hanswer
  exact hdiffer hanswer

end PostalRegions
