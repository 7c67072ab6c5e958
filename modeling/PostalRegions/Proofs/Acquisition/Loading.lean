import Mathlib.Data.List.Basic
import Mathlib.Data.List.Induction
import Mathlib.Tactic.Push
import PostalRegions.Confidence.Rational
import PostalRegions.Proofs.Acquisition.Precedence
import PostalRegions.Proofs.Acquisition.Visits
import PostalRegions.Snapshot.Pages

/-!
# Loaded countries

A country counts as loaded once an archive that was merged in its name brought a key that was not
filed before.  The row with this key may be of another country, since a row's own country goes
before that of its archive.  So a country can be loaded without an entry, and no address is guessed
for it then: this is so exactly if archives brought keys in its name and no row is of the country.
-/

namespace PostalRegions

/-! ## New keys -/

namespace ExactTable

variable {mode : WriteMode} {table : ExactTable} {row : SourceRow} {rows : List SourceRow}

theorem size_putRow (hnew : ∃ key, row.FiledUnder key ∧ key ∉ table) :
    (table.putRow mode row).size = table.size + 1 := by
  obtain ⟨key, ⟨rfl, hcode⟩, habsent⟩ := hnew
  change (if row.key.code.isEmpty then table else table.put row.key row.region mode).size = _
  rw [if_neg (by simpa using hcode), size_put, if_neg habsent]

theorem size_putRow_of_filed (hfiled : ∀ key, row.FiledUnder key → key ∈ table) :
    (table.putRow mode row).size = table.size := by
  change (if row.key.code.isEmpty then table else table.put row.key row.region mode).size = _
  split
  · rfl
  · rename_i hcode
    rw [size_put, if_pos (hfiled row.key ⟨rfl, by simpa using hcode⟩)]

/-- A table grows by as many entries as there are rows whose filing is answered as new. -/
theorem size_putRows (mode : WriteMode) (table : ExactTable) (rows : List SourceRow) :
    (table.putRows mode rows).size =
      table.size + (table.fileAll (rows.filterMap (SourceRow.filing? mode))).2.count true := by
  rw [putRows_eq_fileAll, size_fileAll]

/-- A table grows by rows exactly if one of them is filed under a key that it lacks. -/
theorem size_lt_size_putRows_iff :
    table.size < (table.putRows mode rows).size ↔
      ∃ row ∈ rows, ∃ key, row.FiledUnder key ∧ key ∉ table := by
  induction rows generalizing table with
  | nil => simp [putRows]
  | cons row rest ih =>
      have hcons : table.putRows mode (row :: rest) =
          (table.putRow mode row).putRows mode rest := rfl
      rw [hcons]
      by_cases hnew : ∃ key, row.FiledUnder key ∧ key ∉ table
      · rw [size_putRows, size_putRow hnew]
        constructor
        · intro _
          exact ⟨row, List.mem_cons_self, hnew⟩
        · intro _
          omega
      · push Not at hnew
        have hsize : (table.putRow mode row).size = table.size := size_putRow_of_filed hnew
        have hkeys (key : EntryKey) : key ∈ table.putRow mode row ↔ key ∈ table := by
          rw [mem_putRow, or_iff_left_of_imp (hnew key)]
        rw [← hsize, ih]
        simp only [hkeys]
        rw [List.exists_mem_cons_iff, or_iff_right]
        rintro ⟨key, hfiled, habsent⟩
        exact habsent (hnew key hfiled)

end ExactTable

/-! ## What was brought in the name of a country -/

/-- A row of the archive is filed under a key under which none of the rows merged before it is. -/
def BringsKey (version : String) (before : List AcquisitionEvent) (country : Country)
    (content : ByteArray) : Prop :=
  ∃ row ∈ archiveRows version (some country) content, ∃ key, row.FiledUnder key ∧
    ∀ earlier ∈ mergedRows version before, ¬ earlier.FiledUnder key

/-- An archive that was merged in the name of the country, and not in place of others, brought a
key. -/
def BroughtFor (version : String) (journal : List AcquisitionEvent) (country : Country) : Prop :=
  ∃ before address content,
    before ++ [.merged address (some country) .firstWins content] <+: journal ∧
      BringsKey version before country content

/-- Keys were brought in the name of the country, and no row that was merged is of the country. -/
def BroughtOthersOnly (version : String) (journal : List AcquisitionEvent) (country : Country) :
    Prop :=
  BroughtFor version journal country ∧
    ∀ row ∈ mergedRows version journal, row.key.code ≠ "" → row.country ≠ country

theorem broughtFor_concat {version : String} {journal : List AcquisitionEvent}
    {event : AcquisitionEvent} {country : Country} :
    BroughtFor version (journal ++ [event]) country ↔ BroughtFor version journal country ∨
      ∃ address content, event = .merged address (some country) .firstWins content ∧
        BringsKey version journal country content := by
  constructor
  · rintro ⟨before, address, content, hbefore, hbrings⟩
    rcases List.prefix_concat_iff.mp hbefore with hlast | hearlier
    · obtain ⟨rfl, hevent⟩ := List.append_inj' hlast rfl
      cases hevent
      exact Or.inr ⟨address, content, rfl, hbrings⟩
    · exact Or.inl ⟨before, address, content, hearlier, hbrings⟩
  · rintro (⟨before, address, content, hbefore, hbrings⟩ | ⟨address, content, rfl, hbrings⟩)
    · exact ⟨before, address, content, hbefore.trans (List.prefix_append _ _), hbrings⟩
    · exact ⟨journal, address, content, List.prefix_rfl, hbrings⟩

/-- Archives that go before others bring nothing in the name of a country. -/
theorem broughtFor_of_mergesIn {version : String} {journal next : List AcquisitionEvent}
    {country : Country} (hnext : MergesIn .lastWins journal next) :
    BroughtFor version next country ↔ BroughtFor version journal country := by
  obtain ⟨events, rfl, hevents⟩ := hnext
  induction events using List.reverseRecOn with
  | nil => rw [List.append_nil]
  | append_singleton events event ih =>
      rw [← List.append_assoc, broughtFor_concat,
        ih fun earlier hearlier => hevents earlier (List.mem_append_left _ hearlier)]
      apply or_iff_left
      rintro ⟨address, content, rfl, -⟩
      have hlast := hevents (.merged address (some country) .firstWins content) (by simp)
      cases hlast .firstWins rfl

namespace AcquisitionTask

variable {κ : Type} [DatabaseFormat κ] {task : AcquisitionTask} {state next : AcquisitionState κ}
  {country : Country}

omit [DatabaseFormat κ] in
theorem bringsKey_iff (hfiled : task.FilesJournal state) (country : Country)
    (content : ByteArray) :
    BringsKey task.plan.version state.journal country content ↔
      state.table.size < (state.table.putRows .firstWins
        (archiveRows task.plan.version (some country) content)).size := by
  have hkeys (key : EntryKey) : key ∉ state.table ↔
      ∀ earlier ∈ mergedRows task.plan.version state.journal, ¬ earlier.FiledUnder key := by
    rw [hfiled, ExactTable.mem_replay]
    simp
  rw [ExactTable.size_lt_size_putRows_iff]
  simp only [BringsKey, hkeys]

/-- What a merged archive is said to add is the number of its rows whose filing is answered as
new. -/
theorem added_of_ingest {address : String} {country : Option Country} {mode : WriteMode}
    {added : Nat} (hingest : task.ingest state address country mode = (next, .merged added)) :
    ∃ content, (task.obtain (state.checkDeadline task.plan).1 address).2 = some content ∧
      added = (state.table.fileAll ((archiveRows task.plan.version country content).filterMap
        (SourceRow.filing? mode))).2.count true := by
  cases task.ingestCourse state address country mode with
  | late _ hresult =>
      rw [hresult] at hingest
      cases hingest
  | unavailable _ hresult =>
      rw [hresult] at hingest
      cases hingest
  | unreadable _ hresult =>
      rw [hresult] at hingest
      cases hingest
  | merged _ content tables merged hobtained htables hmerged hresult =>
      have htable : merged.table = state.table.putRows mode
          (archiveRows task.plan.version country content) := by
        rw [hmerged, AcquisitionState.mergeTables_table, AcquisitionState.record_table,
          obtain_table, archiveRows, htables]
        rfl
      rw [hresult, htable, obtain_table, ExactTable.size_putRows] at hingest
      cases hingest
      refine ⟨content, hobtained, ?_⟩
      change state.table.size + _ - state.table.size = _
      omega

/-! ## What small steps do to the loaded countries -/

theorem report_fromCache (task : AcquisitionTask) (state : AcquisitionState κ) (address : String) :
    (task.fromCache state address).1.report = state.report := by
  unfold fromCache
  split
  · rfl
  · split <;> rfl

omit [DatabaseFormat κ] in
theorem report_keep (task : AcquisitionTask) (state : AcquisitionState κ) (address : String)
    (content : ByteArray) : (task.keep state address content).report = state.report := by
  unfold keep
  split
  · rfl
  · split <;> rfl

omit [DatabaseFormat κ] in
theorem loaded_download (task : AcquisitionTask) (state : AcquisitionState κ) (address : String) :
    (task.download state address).1.report.loadedCountries = state.report.loadedCountries := by
  unfold download
  dsimp only
  split
  · rfl
  · rfl
  · split
    · rw [report_keep]
      rfl
    · rfl

theorem loaded_obtain (task : AcquisitionTask) (state : AcquisitionState κ) (address : String) :
    (task.obtain state address).1.report.loadedCountries = state.report.loadedCountries := by
  rcases task.obtain_cases state address with ⟨content, _, hobtain⟩ | ⟨_, hobtain⟩
  · rw [hobtain, report_fromCache]
  · rw [hobtain, loaded_download, report_fromCache]

omit [DatabaseFormat κ] in
theorem loaded_mergeTables (version : String) (country : Option Country) (mode : WriteMode)
    (state : AcquisitionState κ) (tables : List Archive.ArchiveTable) :
    (state.mergeTables version country mode tables).report.loadedCountries =
      state.report.loadedCountries := by
  unfold AcquisitionState.mergeTables
  induction tables generalizing state with
  | nil => rfl
  | cons table rest ih =>
      rw [List.foldl_cons, ih]
      unfold AcquisitionState.mergeTable
      split
      · rfl
      · rfl

theorem loaded_ingest (task : AcquisitionTask) (state : AcquisitionState κ) (address : String)
    (country : Option Country) (mode : WriteMode) :
    (task.ingest state address country mode).1.report.loadedCountries =
      state.report.loadedCountries := by
  have hobtained := task.loaded_obtain (state.checkDeadline task.plan).1 address
  cases task.ingestCourse state address country mode with
  | late _ hresult =>
      rw [hresult]
      rfl
  | unavailable _ hresult =>
      rw [hresult]
      exact hobtained
  | unreadable _ hresult =>
      rw [hresult]
      exact hobtained
  | merged _ content tables next _ _ hnext hresult =>
      rw [hresult, hnext, loaded_mergeTables]
      exact hobtained

omit [DatabaseFormat κ] in
theorem mem_loadedCountries_noteLoaded {other : Country} {added : Nat} :
    other ∈ (noteLoaded state country added).report.loadedCountries ↔
      other ∈ state.report.loadedCountries ∨ country = other ∧ 0 < added := by
  unfold noteLoaded
  split
  · rename_i hnone
    simp [hnone]
  · rename_i hsome
    change other ∈ state.report.loadedCountries.insert country ↔ _
    rw [Std.ExtTreeSet.mem_insert, Std.compare_eq_iff_eq, or_comm]
    simp [Nat.pos_of_ne_zero hsome]

/-! ## The loaded countries are those for which keys were brought -/

structure NotesLoaded (task : AcquisitionTask) (state : AcquisitionState κ) : Prop where
  filed : task.FilesJournal state
  loaded_iff : ∀ country, country ∈ state.report.loadedCountries ↔
    BroughtFor task.plan.version state.journal country

/-- Nothing is noted where nothing is merged but archives that go before others. -/
theorem NotesLoaded.of_mergesIn (hstate : task.NotesLoaded state)
    (hreaches : task.Reaches state next) (hmerges : MergesIn .lastWins state.journal next.journal)
    (hloaded : next.report.loadedCountries = state.report.loadedCountries) :
    task.NotesLoaded next := by
  constructor
  · exact Reaches.preserves (fun _ _ => filesJournal_step) hreaches hstate.filed
  · intro country
    rw [hloaded, broughtFor_of_mergesIn hmerges]
    exact hstate.loaded_iff country

theorem notesLoaded_visit (hstate : task.NotesLoaded state) (country : Country)
    (address : String) : task.NotesLoaded (task.visit country state address) := by
  have hreaches := task.reaches_visit country state address
  have hobtained := task.loaded_obtain state address
  have hgoesOn := task.obtain_journal state address
  cases task.visitCourse country state address with
  | late _ _ hvisit =>
      rw [hvisit] at hreaches ⊢
      exact hstate.of_mergesIn hreaches (.refl _) rfl
  | missed _ _ hvisit =>
      rw [hvisit] at hreaches ⊢
      exact hstate.of_mergesIn hreaches (.of_goesOn hgoesOn) hobtained
  | found content tables merged added hfound htables hmerged hadded _ hvisit =>
      constructor
      · exact Reaches.preserves (fun _ _ => filesJournal_step) hreaches hstate.filed
      have hfiled : task.FilesJournal (task.obtain state address).1 :=
        filesJournal_step (.obtained state address) hstate.filed
      have hloaded : merged.report.loadedCountries = state.report.loadedCountries := by
        rw [hmerged, loaded_mergeTables]
        exact hobtained
      have hjournal : merged.journal = (task.obtain state address).1.journal ++
          [.merged address (some country) .firstWins content] := by
        rw [hmerged, AcquisitionState.mergeTables_journal, AcquisitionState.record_journal]
      have htable : merged.table = state.table.putRows .firstWins
          (archiveRows task.plan.version (some country) content) := by
        rw [hmerged, AcquisitionState.mergeTables_table, AcquisitionState.record_table,
          obtain_table, archiveRows, htables]
      -- The table grows in the visit exactly if the archive brings a key.
      have hbrings := bringsKey_iff hfiled country content
      rw [obtain_table, ← htable] at hbrings
      intro other
      rw [hvisit, mem_loadedCountries_noteLoaded, noteLoaded_journal, hloaded, hjournal,
        broughtFor_concat, broughtFor_of_mergesIn (.of_goesOn hgoesOn), hstate.loaded_iff other]
      apply or_congr_right
      constructor
      · rintro ⟨rfl, hgrown⟩
        exact ⟨address, content, rfl, hbrings.mpr (by omega)⟩
      · rintro ⟨_, _, hevent, hbrought⟩
        cases hevent
        have hgrown := hbrings.mp hbrought
        exact ⟨rfl, by omega⟩

theorem notesLoaded_step (hstep : task.VisitStep state next) (hstate : task.NotesLoaded state) :
    task.NotesLoaded next := by
  cases hstep with
  | checked => exact hstate.of_mergesIn (.single (.checked state)) (.refl _) rfl
  | listed => exact hstate.of_mergesIn (.single (.listed state)) (.of_goesOn (.requested _ _)) rfl
  | visited country address => exact notesLoaded_visit hstate country address

theorem loaded_ingestExtra (task : AcquisitionTask) (addresses : List String)
    (state : AcquisitionState κ) :
    (task.ingestExtra addresses state).report.loadedCountries = state.report.loadedCountries := by
  induction addresses generalizing state with
  | nil => rfl
  | cons address rest ih =>
      rw [ingestExtra]
      split
      · exact ih state.skipSource
      · have hingest := task.loaded_ingest state address (countryOfArchive? address) .lastWins
        split
        · rename_i next hresult
          rw [hresult] at hingest
          exact hingest
        · rename_i next _ _ hresult
          rw [hresult] at hingest
          exact (ih next).trans hingest

omit [DatabaseFormat κ] in
theorem notesLoaded_start (task : AcquisitionTask) (directory : DataDirectory κ) (clock : Nat) :
    task.NotesLoaded (.start directory clock) := by
  constructor
  · rfl
  · intro country
    constructor
    · intro hloaded
      exact absurd hloaded Std.ExtTreeSet.not_mem_empty
    · rintro ⟨before, address, content, hbefore, -⟩
      simp [AcquisitionState.start] at hbefore

theorem notesLoaded_listed (task : AcquisitionTask) (directory : DataDirectory κ) (clock : Nat) :
    task.NotesLoaded (task.listedPass (.start directory clock)) :=
  VisitsTo.preserves (fun _ _ => notesLoaded_step) (task.visitsTo_listedPass _)
    (task.notesLoaded_start directory clock)

theorem notesLoaded_run (task : AcquisitionTask) (directory : DataDirectory κ) (clock : Nat) :
    task.NotesLoaded (task.run directory clock) := by
  have hbefore : task.NotesLoaded (task.beforeExtra directory clock) :=
    VisitsTo.preserves (fun _ _ => notesLoaded_step) (task.visitsTo_beforeExtra directory clock)
      (task.notesLoaded_start directory clock)
  change task.NotesLoaded (unlessTimedOut task.extraPass (task.beforeExtra directory clock))
  unfold unlessTimedOut
  split
  · exact hbefore
  · have hmoves := task.moves_extraPass (task.beforeExtra directory clock)
    exact hbefore.of_mergesIn hmoves.reaches (mergesIn_of_moves hmoves)
      (task.loaded_ingestExtra _ _)

/-! ## Loaded without an entry -/

omit [DatabaseFormat κ] in
theorem NotesLoaded.loaded_without_entry_iff (hstate : task.NotesLoaded state) :
    (country ∈ state.report.loadedCountries ∧ ∀ key ∈ state.table, key.country ≠ country) ↔
      BroughtOthersOnly task.plan.version state.journal country := by
  rw [hstate.loaded_iff]
  apply and_congr_right
  intro _
  have hkeys (key : EntryKey) : key ∈ state.table ↔
      ∃ row ∈ mergedRows task.plan.version state.journal, row.FiledUnder key := by
    rw [hstate.filed, ExactTable.mem_replay]
    simp
  constructor
  · intro hnone row hrow hcode
    exact hnone row.key ((hkeys row.key).mpr ⟨row, hrow, rfl, hcode⟩)
  · intro hnone key hkey
    obtain ⟨row, hrow, rfl, hcode⟩ := (hkeys key).mp hkey
    exact hnone row hrow hcode

/-- A country is loaded without an entry exactly if archives brought keys in its name, and no row is
of the country.  A configured country is passed over by the guessed archives though it has no entry
exactly if the listed archives did so. -/
theorem loaded_without_entry_run_iff (task : AcquisitionTask) (directory : DataDirectory κ)
    (clock : Nat) (country : Country) :
    ((country ∈ (task.run directory clock).report.loadedCountries ∧
        ∀ key ∈ (task.run directory clock).table, key.country ≠ country) ↔
      BroughtOthersOnly task.plan.version (task.run directory clock).journal country) ∧
    (country ∈ task.plan.countries →
      ((country ∉ task.missingCountries (task.listedPass (.start directory clock)) ∧
          ∀ key ∈ (task.listedPass (.start directory clock)).table, key.country ≠ country) ↔
        BroughtOthersOnly task.plan.version
          (task.listedPass (.start directory clock)).journal country)) := by
  refine ⟨(task.notesLoaded_run directory clock).loaded_without_entry_iff, ?_⟩
  intro hconfigured
  rw [← (task.notesLoaded_listed directory clock).loaded_without_entry_iff, mem_missingCountries]
  simp [hconfigured]

/-- The listed Greek archive has a German row only.  The guessed one has a Greek row. -/
def foreignRows : AcquisitionTask where
  plan := ⟨"https://host", "2024", [.greece], [], none⟩
  fetcher :=
    { archive := fun _ address =>
        ⟨.ok (some (Archive.ofTable ⟨"table.csv",
          if address = "https://host/pc2024_EL_NUTS-2024_v1.0.zip"
          then "CODE,NUTS3,CC\n10115,DE300,DE\n"
          else "CODE,NUTS3\n10557,EL303\n"⟩)), 0⟩
      listing := fun _ _ => ⟨.ok "href=\"pc2024_EL_NUTS-2024_v1.0.zip\"", 0⟩ }
  cache := ⟨"archives", 1⟩
  wall := fun _ => ⟨0, 0⟩

/-- Greece has no entry, and no address is guessed for it. -/
theorem foreignRows_loaded_without_entry :
    (foreignRows.run (.empty : DataDirectory Rat) 0).requests =
        [.listing "https://host", .archive "https://host/pc2024_EL_NUTS-2024_v1.0.zip"] ∧
      (foreignRows.run (.empty : DataDirectory Rat) 0).table.keys =
        [.ofPostalCode ⟨"DE", by decide⟩ "10115"] ∧
      .greece ∈ (foreignRows.run (.empty : DataDirectory Rat) 0).report.loadedCountries ∧
      BroughtOthersOnly "2024" (foreignRows.run (.empty : DataDirectory Rat) 0).journal .greece ∧
      BroughtOthersOnly "2024"
        (foreignRows.listedPass (.start (.empty : DataDirectory Rat) 0)).journal .greece := by
  have hrun :
      (foreignRows.run (.empty : DataDirectory Rat) 0).requests =
          [.listing "https://host", .archive "https://host/pc2024_EL_NUTS-2024_v1.0.zip"] ∧
        (foreignRows.run (.empty : DataDirectory Rat) 0).table.keys =
          [.ofPostalCode ⟨"DE", by decide⟩ "10115"] ∧
        .greece ∈ (foreignRows.run (.empty : DataDirectory Rat) 0).report.loadedCountries ∧
        (foreignRows.listedPass (.start (.empty : DataDirectory Rat) 0)).table.keys =
          [.ofPostalCode ⟨"DE", by decide⟩ "10115"] ∧
        .greece ∉ foreignRows.missingCountries
          (foreignRows.listedPass (.start (.empty : DataDirectory Rat) 0)) := by
    decide +kernel
  obtain ⟨hrequests, hkeys, hloaded, hlistedKeys, hpassedOver⟩ := hrun
  have hnone {table : ExactTable}
      (htable : table.keys = [.ofPostalCode ⟨"DE", by decide⟩ "10115"]) (key : EntryKey)
      (hkey : key ∈ table) : key.country ≠ .greece := by
    rw [← Std.ExtTreeMap.mem_keys, htable, List.mem_singleton] at hkey
    subst hkey
    decide
  obtain ⟨hafter, hlisted⟩ := foreignRows.loaded_without_entry_run_iff
    (.empty : DataDirectory Rat) 0 .greece
  exact ⟨hrequests, hkeys, hloaded, hafter.mp ⟨hloaded, hnone hkeys⟩,
    (hlisted List.mem_cons_self).mp ⟨hpassedOver, hnone hlistedKeys⟩⟩

end AcquisitionTask

end PostalRegions
