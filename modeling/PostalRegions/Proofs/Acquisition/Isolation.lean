import PostalRegions.Confidence.Rational
import PostalRegions.Proofs.Acquisition.Deadline
import PostalRegions.Proofs.Acquisition.Files
import PostalRegions.Proofs.Storage.Contents
import PostalRegions.Snapshot.Pages

/-!
# Sources without an archive

An address at which no archive can be had does harm only by the time that it takes.  Two
acquisitions are followed side by side of which one leaves out some occurrences of the address.
Where the other one looks for the archive in vain, its table, its files and the countries it has
loaded stay as they were, so that both go on in the same way until a cached copy is too old for one
of them alone.
-/

namespace PostalRegions

/-- A list with some occurrences of an entry left out. -/
inductive LeavesOut {α : Type} (entry : α) : List α → List α → Prop
  | nil : LeavesOut entry [] []
  | kept (other : α) {full reduced : List α} (hrest : LeavesOut entry full reduced) :
      LeavesOut entry (other :: full) (other :: reduced)
  | omitted {full reduced : List α} (hrest : LeavesOut entry full reduced) :
      LeavesOut entry (entry :: full) reduced

namespace LeavesOut

variable {α : Type}

theorem refl (entry : α) (list : List α) : LeavesOut entry list list := by
  induction list with
  | nil => exact .nil
  | cons other rest ih => exact .kept other ih

/-- All occurrences are left out. -/
theorem filter [DecidableEq α] (entry : α) (list : List α) :
    LeavesOut entry list (list.filter (· ≠ entry)) := by
  induction list with
  | nil => exact .nil
  | cons other rest ih =>
      by_cases hother : other = entry
      · subst other
        simpa using ih.omitted
      · simpa [hother] using ih.kept other

end LeavesOut

/-! ## States that go on in the same way -/

/-- An event tells whether a cached copy could be used. -/
def AcquisitionEvent.isVerdict : AcquisitionEvent → Bool
  | .reused _ => true
  | .removed _ => true
  | _ => false

/-- What was found of the cached copies, look-up by look-up. -/
def AcquisitionState.verdicts {κ : Type} (state : AcquisitionState κ) : List AcquisitionEvent :=
  state.journal.filter AcquisitionEvent.isVerdict

/-- Two states of acquisitions without a deadline that differ at most in times, in what was asked
and in what was counted. -/
structure AcquisitionState.Alike {κ : Type} (state other : AcquisitionState κ) : Prop where
  table : other.table = state.table
  directory : state.directory.HoldsSame other.directory
  loaded : other.report.loadedCountries = state.report.loadedCountries
  verdicts : other.verdicts = state.verdicts
  isOpen : state.report.timedOut = false
  isOpenOther : other.report.timedOut = false

namespace AcquisitionTask

/-- The addresses that the listing links. -/
def listedAddresses (task : AcquisitionTask) : List String :=
  match (task.fetcher.listing [] task.plan.baseAddress).answer with
  | .ok page => archiveLinks page task.plan.baseAddress
  | .error _ => []

/-- Two acquisitions of which the second leaves out some occurrences of an address, among the
listed ones and among the operator's.  At an address, all requests get the same answer. -/
structure Omits (full reduced : AcquisitionTask) (address : String) : Prop where
  baseAddress : reduced.plan.baseAddress = full.plan.baseAddress
  version : reduced.plan.version = full.plan.version
  countries : reduced.plan.countries = full.plan.countries
  cache : reduced.cache = full.cache
  answers : ∀ earlier others asked,
    (reduced.fetcher.archive others asked).answer = (full.fetcher.archive earlier asked).answer
  listed : LeavesOut address full.listedAddresses reduced.listedAddresses
  extra : LeavesOut address full.plan.extraAddresses reduced.plan.extraAddresses

/-- No archive can be had at an address: every request fails, or finds nothing or no archive. -/
def FailsAt (task : AcquisitionTask) (address : String) : Prop :=
  ∀ earlier content, (task.fetcher.archive earlier address).answer = .ok (some content) →
    Archive.isReadable content = false

end AcquisitionTask

namespace AcquisitionState

variable {κ : Type} {state other next : AcquisitionState κ}

theorem Alike.trans (hfirst : state.Alike other) (hsecond : other.Alike next) :
    state.Alike next :=
  ⟨hsecond.table.trans hfirst.table, hfirst.directory.trans hsecond.directory,
    hsecond.loaded.trans hfirst.loaded, hsecond.verdicts.trans hfirst.verdicts, hfirst.isOpen,
    hsecond.isOpenOther⟩

theorem Alike.record (halike : state.Alike other) (event : AcquisitionEvent) :
    (state.record event).Alike (other.record event) := by
  refine ⟨halike.table, halike.directory, halike.loaded, ?_, halike.isOpen, halike.isOpenOther⟩
  unfold AcquisitionState.verdicts
  rw [record_journal, record_journal, List.filter_append, List.filter_append]
  exact congrArg (· ++ _) halike.verdicts

theorem Alike.wait (halike : state.Alike other) (elapsed otherElapsed : Nat) :
    (state.wait elapsed).Alike (other.wait otherElapsed) :=
  ⟨halike.table, halike.directory, halike.loaded, halike.verdicts, halike.isOpen,
    halike.isOpenOther⟩

theorem Alike.skipSource (halike : state.Alike other) : state.skipSource.Alike other.skipSource :=
  ⟨halike.table, halike.directory, halike.loaded, halike.verdicts, halike.isOpen,
    halike.isOpenOther⟩

theorem Alike.inDirectories (halike : state.Alike other)
    {directory otherDirectory : DataDirectory κ} (hsame : directory.HoldsSame otherDirectory) :
    ({ state with directory := directory } : AcquisitionState κ).Alike
      { other with directory := otherDirectory } :=
  ⟨halike.table, hsame, halike.loaded, halike.verdicts, halike.isOpen, halike.isOpenOther⟩

theorem Alike.mergeTables (halike : state.Alike other) (version : String)
    (country : Option Country) (mode : WriteMode) (tables : List Archive.ArchiveTable) :
    (state.mergeTables version country mode tables).Alike
      (other.mergeTables version country mode tables) := by
  unfold AcquisitionState.mergeTables
  induction tables generalizing state other with
  | nil => exact halike
  | cons table rest ih =>
      refine ih ?_
      unfold mergeTable
      cases RegionSheet.read table.text version country with
      | error cause =>
          exact ⟨halike.table, halike.directory, halike.loaded, halike.verdicts, halike.isOpen,
            halike.isOpenOther⟩
      | ok sheet =>
          refine ⟨?_, halike.directory, halike.loaded, halike.verdicts, halike.isOpen,
            halike.isOpenOther⟩
          exact congrArg (ExactTable.putRows mode · sheet.rows) halike.table

theorem Alike.noteLoaded (halike : state.Alike other) (country : Country) (added : Nat) :
    (AcquisitionTask.noteLoaded state country added).Alike
      (AcquisitionTask.noteLoaded other country added) := by
  unfold AcquisitionTask.noteLoaded
  split
  · exact halike
  · refine ⟨halike.table, halike.directory, ?_, halike.verdicts, halike.isOpen,
      halike.isOpenOther⟩
    exact congrArg (·.insert country) halike.loaded

/-! ## What sets acquisitions apart -/

/-- No other archive that was asked for has the file name of the address. -/
def NamesApart (state : AcquisitionState κ) (address : String) : Prop :=
  ∀ asked name, .archive asked ∈ state.requests → asked ≠ address →
    archiveName? address = some name → archiveName? asked ≠ some name

theorem NamesApart.of_prefix {address : String} (hapart : next.NamesApart address)
    (hjournal : state.journal <+: next.journal) : state.NamesApart address :=
  fun asked name hasked => hapart asked name ((hjournal.filterMap _).subset hasked)

/-- Up to these states, nothing but the address itself has set two acquisitions apart: no other
archive has its file name, and as far as both have looked for cached copies, they found the
same. -/
structure Undisturbed (state other : AcquisitionState κ) (address : String) : Prop where
  names : state.NamesApart address
  verdicts : ∃ verdicts, state.verdicts <+: verdicts ∧ other.verdicts <+: verdicts

theorem Undisturbed.of_prefix {address : String} {nextOther : AcquisitionState κ}
    (hnext : next.Undisturbed nextOther address) (hjournal : state.journal <+: next.journal)
    (hjournalOther : other.journal <+: nextOther.journal) : state.Undisturbed other address := by
  obtain ⟨verdicts, hverdicts, hverdictsOther⟩ := hnext.verdicts
  exact ⟨hnext.names.of_prefix hjournal, verdicts, (hjournal.filter _).trans hverdicts,
    (hjournalOther.filter _).trans hverdictsOther⟩

/-- The next look-up has the same verdict for both. -/
theorem Undisturbed.verdict_eq {address : String} {event eventOther : AcquisitionEvent}
    (hnext : (state.record event).Undisturbed (other.record eventOther) address)
    (hverdicts : other.verdicts = state.verdicts) (hevent : event.isVerdict = true)
    (heventOther : eventOther.isVerdict = true) : eventOther = event := by
  obtain ⟨verdicts, hprefix, hprefixOther⟩ := hnext.verdicts
  have hlast : (state.record event).verdicts = state.verdicts ++ [event] := by
    simp [AcquisitionState.verdicts, hevent]
  have hlastOther : (other.record eventOther).verdicts = state.verdicts ++ [eventOther] := by
    rw [← hverdicts]
    simp [AcquisitionState.verdicts, heventOther]
  rw [hlast] at hprefix
  rw [hlastOther] at hprefixOther
  have hsame := List.prefix_of_prefix_length_le hprefixOther hprefix (by simp)
  simpa using hsame.eq_of_length (by simp)

end AcquisitionState

/-! ## Whatever is asked of both -/

namespace ArchiveCache

variable {κ : Type} [DatabaseFormat κ]

/-- Of the same copies, at most one is found to be too old. -/
theorem find_of_holdsSame (cache : ArchiveCache) {directory other : DataDirectory κ}
    (hsame : directory.HoldsSame other) (name : String) (now nowOther : Instant) :
    cache.find other name nowOther = cache.find directory name now ∨
      (∃ content, cache.find directory name now = .usable content ∧
        cache.find other name nowOther = .unusable) ∨
      ∃ content, cache.find directory name now = .unusable ∧
        cache.find other name nowOther = .usable content := by
  have hcontents := hsame.file?_map_fst (cache.pathOf name)
  unfold find
  cases hfile : directory.file? (cache.pathOf name) with
  | none =>
      rw [hfile, Option.map_none, Option.map_eq_none_iff] at hcontents
      rw [hcontents]
      exact Or.inl rfl
  | some found =>
      obtain ⟨content, modified⟩ := found
      rw [hfile, Option.map_some, Option.map_eq_some_iff] at hcontents
      obtain ⟨⟨contentOther, modifiedOther⟩, hfileOther, hcontent⟩ := hcontents
      dsimp only at hcontent
      subst contentOther
      rw [hfileOther]
      dsimp only
      cases Archive.isReadable content.toBytes with
      | false => exact Or.inl (by simp)
      | true =>
          cases cache.isOutdated modified now with
          | false =>
              cases cache.isOutdated modifiedOther nowOther with
              | false => exact Or.inl rfl
              | true => exact Or.inr (Or.inl ⟨content.toBytes, rfl, rfl⟩)
          | true =>
              cases cache.isOutdated modifiedOther nowOther with
              | false => exact Or.inr (Or.inr ⟨content.toBytes, rfl, rfl⟩)
              | true => exact Or.inl rfl

end ArchiveCache

namespace AcquisitionTask

variable {κ : Type} {full reduced : AcquisitionTask} {address : String}
  {state other : AcquisitionState κ}

theorem alike_keep (homits : full.Omits reduced address) (halike : state.Alike other)
    (asked : String) (content : ByteArray) :
    (full.keep state asked content).Alike (reduced.keep other asked content) := by
  unfold keep ArchiveCache.save
  cases archiveName? asked with
  | none => exact halike
  | some name =>
      rw [homits.cache]
      obtain ⟨hmade, hfolders⟩ := halike.directory.makeFolders full.cache.folder
      cases hmake : state.directory.makeFolders full.cache.folder with
      | mk made done =>
          cases hmakeOther : other.directory.makeFolders full.cache.folder with
          | mk madeOther doneOther =>
              rw [hmake, hmakeOther] at hmade hfolders
              dsimp only at hmade hfolders
              subst doneOther
              cases done with
              | false => exact halike.inDirectories hfolders
              | true =>
                  dsimp only
                  rcases hfolders.write? (full.cache.pathOf name) (.plain content)
                      (full.wall state.clock) (reduced.wall other.clock) with
                    ⟨hwrite, hwriteOther⟩ | ⟨next, nextOther, hwrite, hwriteOther, hwritten⟩
                  · rw [hwrite, hwriteOther]
                    exact halike.inDirectories hfolders
                  · rw [hwrite, hwriteOther]
                    exact (halike.inDirectories hwritten).record (.kept name content)

theorem alike_download (homits : full.Omits reduced address) (halike : state.Alike other)
    (asked : String) :
    (reduced.download other asked).2 = (full.download state asked).2 ∧
      (full.download state asked).1.Alike (reduced.download other asked).1 := by
  have hasked := (halike.record (.requested (.archive asked))).wait
    (full.fetcher.archive state.requests asked).elapsed
    (reduced.fetcher.archive other.requests asked).elapsed
  unfold download
  simp only [homits.answers state.requests other.requests asked]
  cases (full.fetcher.archive state.requests asked).answer with
  | error cause => exact ⟨rfl, hasked.skipSource⟩
  | ok found =>
      cases found with
      | none => exact ⟨rfl, hasked⟩
      | some content =>
          dsimp only
          split
          · exact ⟨rfl, alike_keep homits hasked asked content⟩
          · exact ⟨rfl, hasked.skipSource⟩

variable [DatabaseFormat κ]

theorem alike_fromCache (homits : full.Omits reduced address) (halike : state.Alike other)
    (asked : String)
    (hundisturbed : (full.fromCache state asked).1.Undisturbed (reduced.fromCache other asked).1
      address) :
    (reduced.fromCache other asked).2 = (full.fromCache state asked).2 ∧
      (full.fromCache state asked).1.Alike (reduced.fromCache other asked).1 := by
  revert hundisturbed
  unfold fromCache
  cases archiveName? asked with
  | none => exact fun _ => ⟨rfl, halike⟩
  | some name =>
      have hremoved := halike.directory.remove (full.cache.pathOf name)
      simp only [ArchiveCache.load, homits.cache]
      rcases full.cache.find_of_holdsSame halike.directory name (full.wall state.clock)
          (reduced.wall other.clock) with hfind | ⟨content, hfind, hfindOther⟩ |
          ⟨content, hfind, hfindOther⟩
      · rw [hfind]
        intro _
        cases full.cache.find state.directory name (full.wall state.clock) with
        | absent => exact ⟨rfl, halike.inDirectories halike.directory⟩
        | unusable => exact ⟨rfl, (halike.inDirectories hremoved).record (.removed name)⟩
        | usable content =>
            exact ⟨rfl, (halike.inDirectories halike.directory).record (.reused name)⟩
      · rw [hfind, hfindOther]
        intro hundisturbed
        cases hundisturbed.verdict_eq halike.verdicts rfl rfl
      · rw [hfind, hfindOther]
        intro hundisturbed
        cases hundisturbed.verdict_eq halike.verdicts rfl rfl

theorem fromCache_prefix_obtain (task : AcquisitionTask) (state : AcquisitionState κ)
    (asked : String) :
    (task.fromCache state asked).1.journal <+: (task.obtain state asked).1.journal := by
  rcases task.obtain_cases state asked with ⟨content, _, hobtain⟩ | ⟨_, hobtain⟩
  · simp [hobtain]
  · rw [hobtain]
    exact (List.prefix_append _ _).trans (task.download_journal _ asked).isPrefix

theorem alike_obtain (homits : full.Omits reduced address) (halike : state.Alike other)
    (asked : String)
    (hundisturbed : (full.obtain state asked).1.Undisturbed (reduced.obtain other asked).1
      address) :
    (reduced.obtain other asked).2 = (full.obtain state asked).2 ∧
      (full.obtain state asked).1.Alike (reduced.obtain other asked).1 := by
  obtain ⟨hfound, hcache⟩ := alike_fromCache homits halike asked
    (hundisturbed.of_prefix (full.fromCache_prefix_obtain state asked)
      (reduced.fromCache_prefix_obtain other asked))
  rcases full.obtain_cases state asked with ⟨content, hcontent, hobtain⟩ | ⟨hnone, hobtain⟩
  · rcases reduced.obtain_cases other asked with ⟨copy, hcopy, hobtainOther⟩ | ⟨hnone, _⟩
    · rw [hobtain, hobtainOther]
      rw [hcopy, hcontent] at hfound
      exact ⟨hfound, hcache⟩
    · rw [hnone, hcontent] at hfound
      cases hfound
  · rcases reduced.obtain_cases other asked with ⟨copy, hcopy, _⟩ | ⟨_, hobtainOther⟩
    · rw [hcopy, hnone] at hfound
      cases hfound
    · rw [hobtain, hobtainOther]
      exact alike_download homits hcache asked

/-- Without a deadline, an ingest depends only on what is obtained. -/
theorem ingest_of_none (hnone : full.plan.deadline = none)
    (hopen : state.report.timedOut = false) (asked : String) (country : Option Country)
    (mode : WriteMode) :
    full.ingest state asked country mode =
      match full.obtain state asked with
      | (state, none) => (state, .unavailable)
      | (state, some content) =>
        match Archive.tables? content with
        | none => (state.skipSource, .unavailable)
        | some tables =>
          let next := (state.record (.merged asked country mode content)).mergeTables
            full.plan.version country mode tables
          (next, .merged (next.table.size - state.table.size)) := by
  have hcheck := AcquisitionState.checkDeadline_of_none hnone hopen
  exact ingest_of_open (by rw [hcheck]) asked country mode

theorem obtain_prefix_ingest (hnone : full.plan.deadline = none)
    (hopen : state.report.timedOut = false) (asked : String) (country : Option Country)
    (mode : WriteMode) :
    (full.obtain state asked).1.journal <+: (full.ingest state asked country mode).1.journal := by
  rw [ingest_of_none hnone hopen]
  split
  · rename_i hobtain
    simp [hobtain]
  · rename_i hobtain
    rw [hobtain]
    split
    · exact List.prefix_rfl
    · rw [AcquisitionState.mergeTables_journal]
      exact List.prefix_append _ _

/-- Two acquisitions without a deadline, of which the second leaves out some occurrences of an
address at which no archive can be had. -/
structure OmitsFailing (full reduced : AcquisitionTask) (address : String) : Prop where
  omits : full.Omits reduced address
  failsAt : full.FailsAt address
  unhurried : full.plan.deadline = none
  unhurriedReduced : reduced.plan.deadline = none

theorem alike_ingest (homits : full.OmitsFailing reduced address) (halike : state.Alike other)
    (asked : String) (country : Option Country) (mode : WriteMode)
    (hundisturbed : (full.ingest state asked country mode).1.Undisturbed
      (reduced.ingest other asked country mode).1 address) :
    (reduced.ingest other asked country mode).2 = (full.ingest state asked country mode).2 ∧
      (full.ingest state asked country mode).1.Alike
        (reduced.ingest other asked country mode).1 := by
  obtain ⟨hfound, hobtained⟩ := alike_obtain homits.omits halike asked
    (hundisturbed.of_prefix (obtain_prefix_ingest homits.unhurried halike.isOpen ..)
      (obtain_prefix_ingest homits.unhurriedReduced halike.isOpenOther ..))
  rw [ingest_of_none homits.unhurried halike.isOpen,
    ingest_of_none homits.unhurriedReduced halike.isOpenOther]
  cases hobtain : full.obtain state asked with
  | mk next found =>
      cases hobtainOther : reduced.obtain other asked with
      | mk nextOther foundOther =>
          rw [hobtain, hobtainOther] at hfound hobtained
          dsimp only at hfound hobtained ⊢
          subst foundOther
          cases found with
          | none => exact ⟨rfl, hobtained⟩
          | some content =>
              dsimp only
              cases Archive.tables? content with
              | none => exact ⟨rfl, hobtained.skipSource⟩
              | some tables =>
                  have hrecorded := hobtained.record (.merged asked country mode content)
                  have hmerged :=
                    hrecorded.mergeTables full.plan.version country mode tables
                  dsimp only
                  rw [homits.omits.version, hmerged.table, hobtained.table]
                  exact ⟨rfl, hmerged⟩

end AcquisitionTask

/-! ## The address without an archive -/

/-- No file lies where a cached copy from the address would. -/
def ArchiveCache.LacksCopy {κ : Type} (cache : ArchiveCache) (directory : DataDirectory κ)
    (address : String) : Prop :=
  directory.EveryFile fun place _ => ∀ name, archiveName? address = some name →
    Storage.destination (cache.pathOf name) ≠ place

namespace AcquisitionTask

variable {κ : Type} {full reduced : AcquisitionTask} {address : String}
  {state next other nextOther : AcquisitionState κ}

theorem download_of_failsAt (hfails : full.FailsAt address)
    (hopen : state.report.timedOut = false) :
    ∃ next, full.download state address = (next, none) ∧ next.Alike state := by
  have hverdicts : (state.record (.requested (.archive address))).verdicts = state.verdicts := by
    simp [AcquisitionState.verdicts, AcquisitionEvent.isVerdict]
  have halike : ((state.record (.requested (.archive address))).wait
      (full.fetcher.archive state.requests address).elapsed).Alike state :=
    ⟨rfl, .refl _, rfl, hverdicts.symm, hopen, hopen⟩
  have hskipped : ((state.record (.requested (.archive address))).wait
      (full.fetcher.archive state.requests address).elapsed).skipSource.Alike state :=
    ⟨rfl, .refl _, rfl, hverdicts.symm, hopen, hopen⟩
  cases hanswer : (full.fetcher.archive state.requests address).answer with
  | error cause =>
      simp only [download, hanswer]
      exact ⟨_, rfl, hskipped⟩
  | ok found =>
      cases found with
      | none =>
          simp only [download, hanswer]
          exact ⟨_, rfl, halike⟩
      | some content =>
          simp only [download, hanswer, hfails state.requests content hanswer]
          exact ⟨_, rfl, hskipped⟩

variable [DatabaseFormat κ]

theorem fromCache_of_lacksCopy (hlacks : full.cache.LacksCopy state.directory address) :
    full.fromCache state address = (state, none) := by
  unfold fromCache
  cases hname : archiveName? address with
  | none => rfl
  | some name =>
      have hfile : state.directory.file? (full.cache.pathOf name) = none := by
        cases hfound : state.directory.file? (full.cache.pathOf name) with
        | none => rfl
        | some found => exact absurd rfl (hlacks.of_file? hfound name hname)
      simp [ArchiveCache.load, ArchiveCache.find, hfile]

/-- An archive is looked for in vain, which changes nothing that matters. -/
theorem ingest_of_failsAt (homits : full.OmitsFailing reduced address)
    (hopen : state.report.timedOut = false)
    (hlacks : full.cache.LacksCopy state.directory address) (country : Option Country)
    (mode : WriteMode) :
    ∃ next, full.ingest state address country mode = (next, .unavailable) ∧ next.Alike state := by
  obtain ⟨next, hdownload, halike⟩ := download_of_failsAt homits.failsAt hopen
  refine ⟨next, ?_, halike⟩
  rw [ingest_of_none homits.unhurried hopen, obtain, fromCache_of_lacksCopy hlacks]
  dsimp only
  rw [hdownload]

/-- Another archive is kept elsewhere. -/
theorem lacksCopy_obtain (hfails : full.FailsAt address)
    (hlacks : full.cache.LacksCopy state.directory address) (asked : String)
    (hapart : (full.obtain state asked).1.NamesApart address) :
    full.cache.LacksCopy (full.obtain state asked).1.directory address := by
  have hcached : full.cache.LacksCopy (full.fromCache state asked).1.directory address :=
    everyFile_fromCache hlacks asked
  rcases full.obtain_cases state asked with ⟨content, _, hobtain⟩ | ⟨_, hobtain⟩
  · rw [hobtain]
    exact hcached
  · rw [hobtain] at hapart ⊢
    rcases full.download_files (full.fromCache state asked).1 asked with
      hsame | ⟨content, other, now, hfound, hother, hwritten⟩
    · exact hcached.of_sameFiles hsame
    · refine hcached.of_fileWritten hwritten ?_
      intro name hname hplace
      have hnames := archiveName_eq_of_destination hother hname hwritten.ne_nil rfl hplace
      subst other
      obtain ⟨hanswer, hreadable⟩ := answer_of_download hfound
      by_cases hasked : asked = address
      · subst asked
        rw [hfails _ content hanswer] at hreadable
        cases hreadable
      · refine hapart asked name ?_ hasked hname hother
        have hjournal := (full.download_journal (full.fromCache state asked).1 asked).isPrefix
        exact (hjournal.filterMap AcquisitionEvent.request?).subset
          (by simp [AcquisitionEvent.request?])

theorem lacksCopy_of_step (hfails : full.FailsAt address) (hstep : full.Step state next)
    (hapart : next.NamesApart address) (hlacks : full.cache.LacksCopy state.directory address) :
    full.cache.LacksCopy next.directory address := by
  cases hstep with
  | checked => exact hlacks
  | listed => exact hlacks
  | obtained asked => exact lacksCopy_obtain hfails hlacks asked hapart
  | merged asked country mode content tables hobtained htables =>
      rw [AcquisitionState.mergeTables_directory]
      refine lacksCopy_obtain hfails hlacks asked (hapart.of_prefix ?_)
      rw [AcquisitionState.mergeTables_journal]
      exact List.prefix_append _ _
  | skipped => exact hlacks
  | loaded => exact hlacks

theorem namesApart_of_reaches (hreaches : full.Reaches state next)
    (hapart : next.NamesApart address) : state.NamesApart address :=
  hapart.of_prefix (journal_prefix_of_reaches hreaches)

theorem lacksCopy_of_reaches (hfails : full.FailsAt address) (hreaches : full.Reaches state next)
    (hapart : next.NamesApart address) (hlacks : full.cache.LacksCopy state.directory address) :
    full.cache.LacksCopy next.directory address := by
  induction hreaches with
  | refl => exact hlacks
  | tail _ hlast ih =>
      have hbefore := namesApart_of_reaches (.single hlast) hapart
      exact lacksCopy_of_step hfails hlast hapart (ih hbefore)

/-! ## The passes -/

/-- The acquisition and the one that leaves out an address stand at the same point, and no copy
from the address can turn up in the first one. -/
structure Abreast (full : AcquisitionTask) (address : String) (state other : AcquisitionState κ) :
    Prop where
  alike : state.Alike other
  lacksCopy : full.cache.LacksCopy state.directory address

omit [DatabaseFormat κ] in
theorem Abreast.noteLoaded (habreast : full.Abreast address state other) (country : Country)
    (added : Nat) :
    full.Abreast address (noteLoaded state country added) (noteLoaded other country added) := by
  refine ⟨habreast.alike.noteLoaded country added, ?_⟩
  unfold AcquisitionTask.noteLoaded
  split
  · exact habreast.lacksCopy
  · exact habreast.lacksCopy

theorem undisturbed_of_reaches (hreaches : full.Reaches state next)
    (hreachesOther : reduced.Reaches other nextOther)
    (hnext : next.Undisturbed nextOther address) : state.Undisturbed other address :=
  hnext.of_prefix (journal_prefix_of_reaches hreaches) (journal_prefix_of_reaches hreachesOther)

/-- What is asked of both has the same outcome for both. -/
theorem Abreast.ingest (homits : full.OmitsFailing reduced address)
    (habreast : full.Abreast address state other) (asked : String) (country : Option Country)
    (mode : WriteMode)
    (hundisturbed : (full.ingest state asked country mode).1.Undisturbed
      (reduced.ingest other asked country mode).1 address) :
    ∃ next nextOther outcome, full.ingest state asked country mode = (next, outcome) ∧
      reduced.ingest other asked country mode = (nextOther, outcome) ∧
      full.Abreast address next nextOther := by
  obtain ⟨houtcome, halike⟩ := alike_ingest homits habreast.alike asked country mode hundisturbed
  have hreaches := full.reaches_ingest state asked country mode
  have hlacks :=
    lacksCopy_of_reaches homits.failsAt hreaches hundisturbed.names habreast.lacksCopy
  exact ⟨_, _, _, rfl, Prod.ext rfl houtcome, halike, hlacks⟩

/-- What is asked of the first one alone changes nothing that matters. -/
theorem Abreast.ingestOmitted (homits : full.OmitsFailing reduced address)
    (habreast : full.Abreast address state other) (country : Option Country) (mode : WriteMode) :
    ∃ next, full.ingest state address country mode = (next, .unavailable) ∧
      full.Abreast address next other := by
  obtain ⟨next, hingest, halike⟩ := ingest_of_failsAt homits habreast.alike.isOpen
    habreast.lacksCopy country mode
  exact ⟨next, hingest, halike.trans habreast.alike,
    habreast.lacksCopy.of_holdsSame halike.directory.symm⟩

theorem reaches_ingestListed_cons (task : AcquisitionTask) {asked : String} {country : Country}
    (hcountry : countryOfArchive? asked = some country) (rest : List String)
    (state : AcquisitionState κ) :
    task.Reaches (task.ingest state asked (some country) .firstWins).1
      (task.ingestListed (asked :: rest) state) := by
  simp only [ingestListed, hcountry]
  split
  · rename_i next added hresult
    rw [hresult]
    have hnoted := (task.moves_noteLoaded .firstWins next country added).reaches
    exact hnoted.trans (task.moves_ingestListed rest _).reaches
  · rename_i next hresult
    rw [hresult]
    exact (task.moves_ingestListed rest next).reaches
  · rename_i next hresult
    rw [hresult]

theorem abreast_ingestListed (homits : full.OmitsFailing reduced address)
    {addresses fewer : List String} (hleaves : LeavesOut address addresses fewer)
    (habreast : full.Abreast address state other)
    (hundisturbed : (full.ingestListed addresses state).Undisturbed
      (reduced.ingestListed fewer other) address) :
    full.Abreast address (full.ingestListed addresses state)
      (reduced.ingestListed fewer other) := by
  induction hleaves generalizing state other with
  | nil => exact habreast
  | @kept asked rest restFewer _ ih =>
      cases hcountry : countryOfArchive? asked with
      | none =>
          simp only [ingestListed, hcountry] at hundisturbed ⊢
          exact ih habreast hundisturbed
      | some country =>
          obtain ⟨next, nextOther, outcome, hingest, hingestOther, hnext⟩ :=
            habreast.ingest homits asked (some country) .firstWins
              (undisturbed_of_reaches (full.reaches_ingestListed_cons hcountry rest state)
                (reduced.reaches_ingestListed_cons hcountry restFewer other) hundisturbed)
          simp only [ingestListed, hcountry, hingest, hingestOther] at hundisturbed ⊢
          cases outcome with
          | merged added => exact ih (hnext.noteLoaded country added) hundisturbed
          | unavailable => exact ih hnext hundisturbed
          | deadline => exact hnext
  | omitted _ ih =>
      cases hcountry : countryOfArchive? address with
      | none =>
          simp only [ingestListed, hcountry] at hundisturbed ⊢
          exact ih habreast hundisturbed
      | some country =>
          obtain ⟨next, hingest, hnext⟩ :=
            habreast.ingestOmitted homits (some country) .firstWins
          simp only [ingestListed, hcountry, hingest] at hundisturbed ⊢
          exact ih hnext hundisturbed

theorem listedPass_start (task : AcquisitionTask) (hnone : task.plan.deadline = none)
    (directory : DataDirectory κ) (clock : Nat) :
    task.listedPass (.start directory clock) =
      task.ingestListed task.listedAddresses
        (((AcquisitionState.start directory clock).record
            (.requested (.listing task.plan.baseAddress))).wait
          (task.fetcher.listing [] task.plan.baseAddress).elapsed) := by
  have hcheck : (AcquisitionState.start directory clock).checkDeadline task.plan =
      (.start directory clock, false) := AcquisitionState.checkDeadline_of_none hnone rfl
  have hrequests : (AcquisitionState.start directory clock).requests = [] := rfl
  cases hanswer : (task.fetcher.listing [] task.plan.baseAddress).answer with
  | error cause =>
      simp only [listedPass, hcheck, hrequests, hanswer, listedAddresses, ingestListed]
  | ok page => simp only [listedPass, hcheck, hrequests, hanswer, listedAddresses]

theorem abreast_listedPass (homits : full.OmitsFailing reduced address)
    {directory : DataDirectory κ} {clock otherClock : Nat}
    (hlacks : full.cache.LacksCopy directory address)
    (hundisturbed : (full.listedPass (.start directory clock)).Undisturbed
      (reduced.listedPass (.start directory otherClock)) address) :
    full.Abreast address (full.listedPass (.start directory clock))
      (reduced.listedPass (.start directory otherClock)) := by
  rw [listedPass_start full homits.unhurried,
    listedPass_start reduced homits.unhurriedReduced] at hundisturbed ⊢
  exact abreast_ingestListed homits homits.omits.listed
    ⟨⟨rfl, .refl directory, rfl, rfl, rfl, rfl⟩, hlacks⟩ hundisturbed

theorem reaches_ingestGuessed_cons (task : AcquisitionTask) (country : Country) (asked : String)
    (rest : List String) (state : AcquisitionState κ) :
    task.Reaches (task.ingest state asked (some country) .firstWins).1
      (task.ingestGuessed country (asked :: rest) state) := by
  rw [ingestGuessed]
  split
  · rename_i next added hresult
    rw [hresult]
    exact (task.moves_noteLoaded .firstWins next country added).reaches
  · rename_i next hresult
    rw [hresult]
    exact (task.moves_ingestGuessed country rest next).reaches
  · rename_i next hresult
    rw [hresult]

theorem abreast_ingestGuessed (homits : full.OmitsFailing reduced address) (country : Country)
    (addresses : List String) (habreast : full.Abreast address state other)
    (hundisturbed : (full.ingestGuessed country addresses state).Undisturbed
      (reduced.ingestGuessed country addresses other) address) :
    full.Abreast address (full.ingestGuessed country addresses state)
      (reduced.ingestGuessed country addresses other) := by
  induction addresses generalizing state other with
  | nil => exact habreast
  | cons asked rest ih =>
      obtain ⟨next, nextOther, outcome, hingest, hingestOther, hnext⟩ :=
        habreast.ingest homits asked (some country) .firstWins
          (undisturbed_of_reaches (full.reaches_ingestGuessed_cons country asked rest state)
            (reduced.reaches_ingestGuessed_cons country asked rest other) hundisturbed)
      simp only [ingestGuessed, hingest, hingestOther] at hundisturbed ⊢
      cases outcome with
      | merged added => exact hnext.noteLoaded country added
      | unavailable => exact ih hnext hundisturbed
      | deadline => exact hnext

theorem reaches_ingestCountries_cons (task : AcquisitionTask) (country : Country)
    (rest : List Country) (state : AcquisitionState κ) :
    task.Reaches
      (task.ingestGuessed country
        (guessedAddresses task.plan.baseAddress task.plan.version country) state)
      (task.ingestCountries (country :: rest) state) := by
  rw [ingestCountries]
  split
  · exact .refl
  · exact (task.moves_ingestCountries rest _).reaches

theorem abreast_ingestCountries (homits : full.OmitsFailing reduced address)
    (countries : List Country) (habreast : full.Abreast address state other)
    (hundisturbed : (full.ingestCountries countries state).Undisturbed
      (reduced.ingestCountries countries other) address) :
    full.Abreast address (full.ingestCountries countries state)
      (reduced.ingestCountries countries other) := by
  induction countries generalizing state other with
  | nil => exact habreast
  | cons country rest ih =>
      have hreachesOther := reduced.reaches_ingestCountries_cons country rest other
      rw [homits.omits.baseAddress, homits.omits.version] at hreachesOther
      have hnext := abreast_ingestGuessed homits country _ habreast
        (undisturbed_of_reaches (full.reaches_ingestCountries_cons country rest state)
          hreachesOther hundisturbed)
      rw [ingestCountries, ingestCountries, homits.omits.baseAddress, homits.omits.version]
        at hundisturbed ⊢
      rw [if_neg (by simp [hnext.alike.isOpen]), if_neg (by simp [hnext.alike.isOpenOther])]
        at hundisturbed ⊢
      exact ih hnext hundisturbed

theorem abreast_guessedPass (homits : full.OmitsFailing reduced address)
    (habreast : full.Abreast address state other)
    (hundisturbed : (full.guessedPass state).Undisturbed (reduced.guessedPass other) address) :
    full.Abreast address (full.guessedPass state) (reduced.guessedPass other) := by
  unfold guessedPass at hundisturbed ⊢
  rw [homits.omits.countries, habreast.alike.loaded] at hundisturbed ⊢
  exact abreast_ingestCountries homits _ habreast hundisturbed

theorem reaches_ingestExtra_cons (task : AcquisitionTask) {asked : String}
    (hrejection : rejection? asked = none) (rest : List String) (state : AcquisitionState κ) :
    task.Reaches (task.ingest state asked (countryOfArchive? asked) .lastWins).1
      (task.ingestExtra (asked :: rest) state) := by
  simp only [ingestExtra, hrejection]
  split
  · rename_i next hresult
    rw [hresult]
  · rename_i next _ _ hresult
    rw [hresult]
    exact (task.moves_ingestExtra rest next).reaches

theorem abreast_ingestExtra (homits : full.OmitsFailing reduced address)
    {addresses fewer : List String} (hleaves : LeavesOut address addresses fewer)
    (habreast : full.Abreast address state other)
    (hundisturbed : (full.ingestExtra addresses state).Undisturbed
      (reduced.ingestExtra fewer other) address) :
    full.Abreast address (full.ingestExtra addresses state)
      (reduced.ingestExtra fewer other) := by
  induction hleaves generalizing state other with
  | nil => exact habreast
  | @kept asked rest restFewer _ ih =>
      cases hrejection : rejection? asked with
      | some cause =>
          simp only [ingestExtra, hrejection] at hundisturbed ⊢
          exact ih ⟨habreast.alike.skipSource, habreast.lacksCopy⟩ hundisturbed
      | none =>
          obtain ⟨next, nextOther, outcome, hingest, hingestOther, hnext⟩ :=
            habreast.ingest homits asked (countryOfArchive? asked) .lastWins
              (undisturbed_of_reaches (full.reaches_ingestExtra_cons hrejection rest state)
                (reduced.reaches_ingestExtra_cons hrejection restFewer other) hundisturbed)
          simp only [ingestExtra, hrejection, hingest, hingestOther] at hundisturbed ⊢
          cases outcome with
          | merged added => exact ih hnext hundisturbed
          | unavailable => exact ih hnext hundisturbed
          | deadline => exact hnext
  | omitted _ ih =>
      cases hrejection : rejection? address with
      | some cause =>
          simp only [ingestExtra, hrejection] at hundisturbed ⊢
          have hskipped : state.skipSource.Alike other :=
            ⟨habreast.alike.table, habreast.alike.directory, habreast.alike.loaded,
              habreast.alike.verdicts, habreast.alike.isOpen, habreast.alike.isOpenOther⟩
          exact ih ⟨hskipped, habreast.lacksCopy⟩ hundisturbed
      | none =>
          obtain ⟨next, hingest, hnext⟩ :=
            habreast.ingestOmitted homits (countryOfArchive? address) .lastWins
          simp only [ingestExtra, hrejection, hingest] at hundisturbed ⊢
          exact ih hnext hundisturbed

/-! ## The run -/

theorem abreast_run (homits : full.OmitsFailing reduced address)
    {directory : DataDirectory κ} {clock otherClock : Nat}
    (hlacks : full.cache.LacksCopy directory address)
    (hundisturbed : (full.run directory clock).Undisturbed (reduced.run directory otherClock)
      address) :
    full.Abreast address (full.run directory clock) (reduced.run directory otherClock) := by
  have hbeforeExtra : (full.beforeExtra directory clock).Undisturbed
      (reduced.beforeExtra directory otherClock) address :=
    undisturbed_of_reaches (full.moves_run directory clock).reaches
      (reduced.moves_run directory otherClock).reaches hundisturbed
  have hlisted := abreast_listedPass homits hlacks
    (undisturbed_of_reaches (moves_unlessTimedOut full.moves_guessedPass _).reaches
      (moves_unlessTimedOut reduced.moves_guessedPass _).reaches hbeforeExtra)
  unfold beforeExtra at hbeforeExtra
  rw [unlessTimedOut_of_isOpen hlisted.alike.isOpen,
    unlessTimedOut_of_isOpen hlisted.alike.isOpenOther] at hbeforeExtra
  have hguessed := abreast_guessedPass homits hlisted hbeforeExtra
  unfold run at hundisturbed ⊢
  dsimp only at hundisturbed ⊢
  rw [unlessTimedOut_of_isOpen hlisted.alike.isOpen,
    unlessTimedOut_of_isOpen hguessed.alike.isOpen,
    unlessTimedOut_of_isOpen hlisted.alike.isOpenOther,
    unlessTimedOut_of_isOpen hguessed.alike.isOpenOther] at hundisturbed ⊢
  exact abreast_ingestExtra homits homits.omits.extra hguessed hundisturbed

/-- Where no archive can be had at an address, and no other archive of the run or of the cache has
its file name, the run files what it files without the address, if both find the same of the
cached copies. -/
theorem table_run_of_failsAt {directory : DataDirectory κ} {clock otherClock : Nat}
    (homits : full.Omits reduced address) (hfails : full.FailsAt address)
    (hlacks : full.cache.LacksCopy directory address)
    (hapart : (full.run directory clock).NamesApart address)
    (hopen : (full.run directory clock).report.timedOut = false)
    (hopenReduced : (reduced.run directory otherClock).report.timedOut = false)
    (hverdicts : (full.run directory clock).verdicts =
      (reduced.run directory otherClock).verdicts) :
    (full.run directory clock).table = (reduced.run directory otherClock).table := by
  have homitsFailing : full.unhurried.OmitsFailing reduced.unhurried address :=
    ⟨⟨homits.baseAddress, homits.version, homits.countries, homits.cache, homits.answers,
      homits.listed, homits.extra⟩, hfails, rfl, rfl⟩
  have hundisturbed : (full.run directory clock).Undisturbed (reduced.run directory otherClock)
      address :=
    ⟨hapart, _, List.prefix_rfl, hverdicts ▸ List.prefix_rfl⟩
  rw [full.run_eq_unhurried hopen, reduced.run_eq_unhurried hopenReduced] at hundisturbed ⊢
  exact (abreast_run homitsFailing hlacks hundisturbed).alike.table.symm

/-- An acquisition of two archives of the operator's.  The first one takes an hour and is damaged;
of the other one there is at most a cached copy. -/
def damaged (timeToLive : Nat) : AcquisitionTask where
  plan := ⟨"https://host/", "2024", [], ["https://one/x.zip", "https://other/at.zip"], none⟩
  fetcher :=
    { archive := fun _ address =>
        if address = "https://one/x.zip" then ⟨.ok (some ⟨#[]⟩), 3600000⟩ else ⟨.ok none, 0⟩
      listing := fun _ _ => ⟨.error .network, 0⟩ }
  cache := ⟨"archives", timeToLive⟩
  wall := .steady ⟨0, 0⟩

def undamaged (timeToLive : Nat) : AcquisitionTask :=
  { damaged timeToLive with
    plan := { (damaged timeToLive).plan with
      extraAddresses :=
        (damaged timeToLive).plan.extraAddresses.filter (· ≠ "https://one/x.zip") } }

theorem damaged_omits (timeToLive : Nat) :
    (damaged timeToLive).Omits (undamaged timeToLive) "https://one/x.zip" :=
  ⟨rfl, rfl, rfl, rfl, fun _ _ _ => rfl, .refl _ _,
    .filter "https://one/x.zip" (damaged timeToLive).plan.extraAddresses⟩

theorem damaged_failsAt (timeToLive : Nat) : (damaged timeToLive).FailsAt "https://one/x.zip" := by
  intro earlier content hanswer
  have hcontent : (⟨#[]⟩ : ByteArray) = content := by
    simpa [damaged] using hanswer
  subst content
  decide

/-- A directory with a cached copy of the archive that is not damaged. -/
def copied : DataDirectory Rat :=
  ((damaged 0).cache.save .empty "at.zip"
    (Archive.ofTable ⟨"at.csv", "CODE,NUTS3,CC\n1010,AT130,AT\n"⟩) ⟨0, 0⟩).1

theorem copied_lacksCopy (timeToLive : Nat) :
    (damaged timeToLive).cache.LacksCopy copied "https://one/x.zip" := by
  unfold ArchiveCache.LacksCopy copied
  cases hsave : (damaged 0).cache.save .empty "at.zip"
      (Archive.ofTable ⟨"at.csv", "CODE,NUTS3,CC\n1010,AT130,AT\n"⟩) ⟨0, 0⟩ with
  | mk directory saved =>
      cases saved with
      | false =>
          exact Storage.Directory.everyFile_empty.of_sameFiles
            (ArchiveCache.sameFiles_of_save hsave)
      | true =>
          refine Storage.Directory.everyFile_empty.of_fileWritten
            (ArchiveCache.fileWritten_of_save hsave) ?_
          intro name hname
          have hfound : archiveName? "https://one/x.zip" = some "x.zip" := by decide
          rw [hfound] at hname
          cases hname
          change Storage.destination (Storage.join "archives" "x.zip") ≠
            Storage.destination (Storage.join "archives" "at.zip")
          decide +kernel

theorem damaged_namesApart {timeToLive : Nat}
    (hrequests : ((damaged timeToLive).run copied 0).requests ⊆
      [.listing "https://host/", .archive "https://one/x.zip", .archive "https://other/at.zip"]) :
    ((damaged timeToLive).run copied 0).NamesApart "https://one/x.zip" := by
  intro asked name hasked hother hname hnameAsked
  have hlisted := hrequests hasked
  simp only [List.mem_cons, Request.archive.injEq, reduceCtorEq, List.not_mem_nil, false_or,
    or_false, hother] at hlisted
  subst asked
  have hdiffer : archiveName? "https://one/x.zip" ≠ archiveName? "https://other/at.zip" := by
    decide
  exact hdiffer (hname.trans hnameAsked.symm)

theorem damaged_table_run :
    ((damaged 7200).run copied 0).table = ((undamaged 7200).run copied 0).table ∧
      EntryKey.ofPostalCode ⟨"AT", by decide⟩ "1010" ∈ ((damaged 7200).run copied 0).table := by
  have hrun : ((damaged 7200).run copied 0).report.timedOut = false ∧
      ((undamaged 7200).run copied 0).report.timedOut = false ∧
      ((damaged 7200).run copied 0).verdicts = ((undamaged 7200).run copied 0).verdicts ∧
      ((damaged 7200).run copied 0).requests ⊆
        [.listing "https://host/", .archive "https://one/x.zip",
          .archive "https://other/at.zip"] ∧
      EntryKey.ofPostalCode ⟨"AT", by decide⟩ "1010" ∈ ((damaged 7200).run copied 0).table := by
    decide +kernel
  obtain ⟨hopen, hopenUndamaged, hverdicts, hrequests, hfiled⟩ := hrun
  exact ⟨table_run_of_failsAt (damaged_omits 7200) (damaged_failsAt 7200) (copied_lacksCopy 7200)
    (damaged_namesApart hrequests) hopen hopenUndamaged hverdicts, hfiled⟩

/-- A copy that expires within the hour is lost to the damaged archive. -/
theorem damaged_table_run_expired :
    (damaged 1800).Omits (undamaged 1800) "https://one/x.zip" ∧
      (damaged 1800).FailsAt "https://one/x.zip" ∧
      (damaged 1800).cache.LacksCopy copied "https://one/x.zip" ∧
      ((damaged 1800).run copied 0).NamesApart "https://one/x.zip" ∧
      ((damaged 1800).run copied 0).report.timedOut = false ∧
      ((undamaged 1800).run copied 0).report.timedOut = false ∧
      ((damaged 1800).run copied 0).table ≠ ((undamaged 1800).run copied 0).table := by
  have hrun : ((damaged 1800).run copied 0).report.timedOut = false ∧
      ((undamaged 1800).run copied 0).report.timedOut = false ∧
      ((damaged 1800).run copied 0).requests ⊆
        [.listing "https://host/", .archive "https://one/x.zip",
          .archive "https://other/at.zip"] ∧
      ((damaged 1800).run copied 0).table.size ≠ ((undamaged 1800).run copied 0).table.size := by
    decide +kernel
  obtain ⟨hopen, hopenUndamaged, hrequests, hsizes⟩ := hrun
  exact ⟨damaged_omits 1800, damaged_failsAt 1800, copied_lacksCopy 1800,
    damaged_namesApart hrequests, hopen, hopenUndamaged, fun htables => hsizes (by rw [htables])⟩

end AcquisitionTask

end PostalRegions
