import PostalRegions.Proofs.Acquisition.Steps
import PostalRegions.Proofs.Entry.Filing
import PostalRegions.Proofs.Postal.Canonical

/-!
# What an acquisition files

The journal of an acquisition tells which archives were merged, hence which rows were read and in
which order.  The acquired table is what comes of filing these rows again, and its keys are the
keys of these rows, in whatever order and mode they were filed.
-/

namespace PostalRegions

/-! ## One table of an archive -/

def SourceRow.key (row : SourceRow) : EntryKey :=
  EntryKey.ofPostalCode row.country row.postalCode

def SourceRow.FiledUnder (row : SourceRow) (key : EntryKey) : Prop :=
  row.key = key ∧ key.code ≠ ""

/-- What filing a row in a mode amounts to; a row without a key is passed over. -/
def SourceRow.filing? (mode : WriteMode) (row : SourceRow) : Option Filing :=
  if row.key.code.isEmpty then none else some ⟨row.key, row.region, mode⟩

theorem SourceRow.FiledUnder.isKeyText {row : SourceRow} {key : EntryKey}
    (hfiled : row.FiledUnder key) : IsKeyText key.code := by
  obtain ⟨rfl, hcode⟩ := hfiled
  exact isKeyText_postalKey hcode

namespace ExactTable

theorem mem_putRow {mode : WriteMode} {table : ExactTable} {row : SourceRow} {key : EntryKey} :
    key ∈ table.putRow mode row ↔ key ∈ table ∨ row.FiledUnder key := by
  change key ∈ (if row.key.code.isEmpty then table else table.put row.key row.region mode) ↔ _
  unfold SourceRow.FiledUnder
  by_cases hcode : row.key.code = ""
  · rw [if_pos (by simp [hcode])]
    constructor
    · exact Or.inl
    · rintro (hkey | ⟨rfl, hne⟩)
      · exact hkey
      · exact absurd hcode hne
  · rw [if_neg (by simpa using hcode), mem_put]
    constructor
    · rintro (rfl | hkey)
      · exact Or.inr ⟨rfl, hcode⟩
      · exact Or.inl hkey
    · rintro (hkey | ⟨hsame, _⟩)
      · exact Or.inr hkey
      · exact Or.inl hsame

theorem putRows_append (mode : WriteMode) (table : ExactTable) (rows more : List SourceRow) :
    table.putRows mode (rows ++ more) = (table.putRows mode rows).putRows mode more :=
  List.foldl_append

theorem mem_putRows {mode : WriteMode} {table : ExactTable} {rows : List SourceRow}
    {key : EntryKey} :
    key ∈ table.putRows mode rows ↔ key ∈ table ∨ ∃ row ∈ rows, row.FiledUnder key := by
  unfold putRows
  induction rows generalizing table with
  | nil => simp
  | cons row rest ih =>
      rw [List.foldl_cons, ih, mem_putRow]
      simp [or_assoc]

theorem putRows_eq_fileAll (mode : WriteMode) (table : ExactTable) (rows : List SourceRow) :
    table.putRows mode rows = (table.fileAll (rows.filterMap (SourceRow.filing? mode))).1 := by
  unfold putRows
  induction rows generalizing table with
  | nil => rfl
  | cons row rest ih =>
      have hrow : table.putRow mode row =
          if row.key.code.isEmpty then table else table.put row.key row.region mode := rfl
      rw [List.foldl_cons, ih, hrow, List.filterMap_cons, SourceRow.filing?]
      by_cases hcode : row.key.code.isEmpty = true
      · rw [if_pos hcode, if_pos hcode]
      · rw [if_neg hcode, if_neg hcode]
        simp only [fileAll_cons]

end ExactTable

/-! ## The archives of a run -/

/-- The rows of a table of an archive; a table that is no sheet of regions has none. -/
def tableRows (version : String) (country : Option Country) (table : Archive.ArchiveTable) :
    List SourceRow :=
  match RegionSheet.read table.text version country with
  | .ok sheet => sheet.rows
  | .error _ => []

def archiveRows (version : String) (country : Option Country) (content : ByteArray) :
    List SourceRow :=
  match Archive.tables? content with
  | some tables => tables.flatMap (tableRows version country)
  | none => []

def AcquisitionEvent.rows (version : String) : AcquisitionEvent → List SourceRow
  | .merged _ country _ content => archiveRows version country content
  | _ => []

/-- The rows of all archives that a journal tells of, in their order. -/
def mergedRows (version : String) (journal : List AcquisitionEvent) : List SourceRow :=
  journal.flatMap (AcquisitionEvent.rows version)

theorem AcquisitionState.mergeTables_table {κ : Type} (version : String)
    (country : Option Country) (mode : WriteMode) (state : AcquisitionState κ)
    (tables : List Archive.ArchiveTable) :
    (state.mergeTables version country mode tables).table =
      state.table.putRows mode (tables.flatMap (tableRows version country)) := by
  unfold mergeTables
  induction tables generalizing state with
  | nil => rfl
  | cons table rest ih =>
      have hmerge : (state.mergeTable version country mode table).table =
          state.table.putRows mode (tableRows version country table) := by
        unfold mergeTable tableRows
        cases RegionSheet.read table.text version country with
        | error cause => rfl
        | ok sheet => rfl
      rw [List.foldl_cons, ih, hmerge, List.flatMap_cons, ExactTable.putRows_append]

/-! ## Filing again what a journal tells of -/

namespace ExactTable

/-- Files the rows of an archive, if the event is its merge. -/
def fileEvent (version : String) (table : ExactTable) : AcquisitionEvent → ExactTable
  | .merged _ country mode content => table.putRows mode (archiveRows version country content)
  | _ => table

def replay (version : String) (table : ExactTable) (journal : List AcquisitionEvent) :
    ExactTable :=
  journal.foldl (fileEvent version) table

variable {version : String} {table : ExactTable}

theorem replay_append (version : String) (table : ExactTable)
    (journal more : List AcquisitionEvent) :
    table.replay version (journal ++ more) =
      (table.replay version journal).replay version more :=
  List.foldl_append

theorem replay_of_goesOn {journal next : List AcquisitionEvent} (hnext : GoesOn journal next) :
    table.replay version next = table.replay version journal := by
  obtain ⟨events, rfl, hevents⟩ := hnext
  rw [replay_append]
  generalize table.replay version journal = filed
  induction events with
  | nil => rfl
  | cons event rest ih =>
      have hquiet := hevents event List.mem_cons_self
      have hfiled : filed.fileEvent version event = filed := by
        cases event with
        | merged address country mode content => cases hquiet
        | requested request => rfl
        | reused name => rfl
        | removed name => rfl
        | kept name content => rfl
      unfold replay at ih ⊢
      rw [List.foldl_cons, hfiled]
      exact ih fun later hlater => hevents later (List.mem_cons_of_mem _ hlater)

theorem replay_merged {address : String} {country : Option Country} {mode : WriteMode}
    {content : ByteArray} {tables : List Archive.ArchiveTable}
    (htables : Archive.tables? content = some tables) :
    table.replay version [.merged address country mode content] =
      table.putRows mode (tables.flatMap (tableRows version country)) := by
  simp [replay, fileEvent, archiveRows, htables]

theorem mem_replay {journal : List AcquisitionEvent} {key : EntryKey} :
    key ∈ table.replay version journal ↔
      key ∈ table ∨ ∃ row ∈ mergedRows version journal, row.FiledUnder key := by
  induction journal generalizing table with
  | nil => simp [replay, mergedRows]
  | cons event rest ih =>
      have hevent : key ∈ table.fileEvent version event ↔
          key ∈ table ∨ ∃ row ∈ event.rows version, row.FiledUnder key := by
        cases event with
        | merged address country mode content => exact mem_putRows
        | requested request => simp [fileEvent, AcquisitionEvent.rows]
        | reused name => simp [fileEvent, AcquisitionEvent.rows]
        | removed name => simp [fileEvent, AcquisitionEvent.rows]
        | kept name content => simp [fileEvent, AcquisitionEvent.rows]
      change key ∈ (table.fileEvent version event).replay version rest ↔ _
      rw [ih, hevent, or_assoc]
      simp only [mergedRows, List.flatMap_cons, List.mem_append, or_and_right, exists_or]

end ExactTable

namespace AcquisitionTask

variable {κ : Type} [DatabaseFormat κ] {task : AcquisitionTask}

/-- The table is what comes of filing the merged archives. -/
def FilesJournal (task : AcquisitionTask) (state : AcquisitionState κ) : Prop :=
  state.table = ExactTable.replay task.plan.version ∅ state.journal

theorem filesJournal_step {state next : AcquisitionState κ} (hstep : task.Step state next)
    (hstate : task.FilesJournal state) : task.FilesJournal next := by
  unfold FilesJournal at hstate ⊢
  cases hstep with
  | checked => exact hstate
  | listed =>
      have hrequested := GoesOn.requested state.journal (.listing task.plan.baseAddress)
      simpa [ExactTable.replay_of_goesOn hrequested] using hstate
  | obtained address =>
      rw [obtain_table, ExactTable.replay_of_goesOn (task.obtain_journal state address)]
      exact hstate
  | merged address country mode content tables hobtained htables =>
      rw [AcquisitionState.mergeTables_table, AcquisitionState.mergeTables_journal,
        AcquisitionState.record_table, obtain_table, AcquisitionState.record_journal,
        ExactTable.replay_append, ExactTable.replay_of_goesOn (task.obtain_journal state address),
        ExactTable.replay_merged htables, hstate]
  | skipped => exact hstate
  | loaded => exact hstate

theorem filesJournal_of_reaches {directory : DataDirectory κ} {clock : Nat}
    {state : AcquisitionState κ} (hreaches : task.Reaches (.start directory clock) state) :
    task.FilesJournal state :=
  Reaches.preserves (fun _ _ => filesJournal_step) hreaches rfl

def FilesMerged (task : AcquisitionTask) (state : AcquisitionState κ) : Prop :=
  ∀ key, key ∈ state.table ↔
    ∃ row ∈ mergedRows task.plan.version state.journal, row.FiledUnder key

/-- The acquired table has a key exactly if a row with this key was merged. -/
theorem filesMerged_run (task : AcquisitionTask) (directory : DataDirectory κ) (clock : Nat) :
    task.FilesMerged (task.run directory clock) := by
  intro key
  have hfiled : task.FilesJournal (task.run directory clock) :=
    filesJournal_of_reaches (task.reaches_run directory clock)
  rw [hfiled, ExactTable.mem_replay]
  simp

end AcquisitionTask

/-! ## An archive of one table -/

namespace Archive

/-- So many bytes of a number, the lowest first. -/
def littleEndian (width value : Nat) : List UInt8 :=
  (List.range width).map fun place => (value / Nat.pow 256 place).toUInt8

def storedFields (name text : ByteArray) : List UInt8 :=
  littleEndian 2 20 ++ littleEndian 8 0 ++ littleEndian 4 (checksum text).toNat ++
    littleEndian 4 text.size ++ littleEndian 4 text.size ++ littleEndian 2 name.size

def ofTable (table : ArchiveTable) : ByteArray :=
  let name := table.name.toUTF8
  let text := table.text.toUTF8
  let entry := littleEndian 4 localSignature ++ storedFields name text ++ littleEndian 2 0 ++
    name.data.toList ++ text.data.toList
  let directory := littleEndian 4 directorySignature ++ littleEndian 2 20 ++
    storedFields name text ++ littleEndian 16 0 ++ name.data.toList
  let ending := littleEndian 4 endSignature ++ littleEndian 4 0 ++ littleEndian 2 1 ++
    littleEndian 2 1 ++ littleEndian 4 directory.length ++ littleEndian 4 entry.length ++
    littleEndian 2 0
  ⟨(entry ++ directory ++ ending).toArray⟩

end Archive

end PostalRegions
