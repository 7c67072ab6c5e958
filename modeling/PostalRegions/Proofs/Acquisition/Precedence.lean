import PostalRegions.Proofs.Acquisition.Filing

/-!
# Which region is kept

Several rows may be filed under one key.  Of the rows of the listed and the guessed archives the
first one counts, of the rows of the operator's archives the last one, and the latter go before
the former.
-/

namespace PostalRegions

instance SourceRow.decidableFiledUnder (row : SourceRow) (key : EntryKey) :
    Decidable (row.FiledUnder key) :=
  inferInstanceAs (Decidable (_ ∧ _))

/-- The regions of the rows that are filed under a key, in the order of the rows. -/
def regionsUnder (key : EntryKey) (rows : List SourceRow) : List RegionCode :=
  (rows.filter fun row => row.FiledUnder key).map SourceRow.region

theorem regionsUnder_append (key : EntryKey) (rows more : List SourceRow) :
    regionsUnder key (rows ++ more) = regionsUnder key rows ++ regionsUnder key more := by
  simp [regionsUnder]

/-! ## One mode -/

namespace ExactTable

variable {mode : WriteMode} {table : ExactTable}

theorem getElem?_putRow {row : SourceRow} {key : EntryKey} :
    (table.putRow mode row)[key]? = mode.settle table[key]? (regionsUnder key [row]) := by
  change (if row.key.code.isEmpty then table else table.put row.key row.region mode)[key]? = _
  by_cases hfiled : row.FiledUnder key
  · have hregions : regionsUnder key [row] = [row.region] := by
      simp [regionsUnder, hfiled]
    obtain ⟨hkey, hcode⟩ := hfiled
    rw [hregions, if_neg (by simpa [hkey] using hcode), getElem?_put, if_pos hkey]
  · have hregions : regionsUnder key [row] = [] := by
      simp [regionsUnder, hfiled]
    rw [hregions, WriteMode.settle_nil]
    split
    · rfl
    · rename_i hcode
      have hother : row.key ≠ key := by
        rintro rfl
        exact hfiled ⟨rfl, by simpa using hcode⟩
      rw [getElem?_put, if_neg hother]

theorem getElem?_putRows {rows : List SourceRow} {key : EntryKey} :
    (table.putRows mode rows)[key]? = mode.settle table[key]? (regionsUnder key rows) := by
  unfold putRows
  induction rows generalizing table with
  | nil => exact (WriteMode.settle_nil mode _).symm
  | cons row rest ih =>
      rw [List.foldl_cons, ih, getElem?_putRow, ← WriteMode.settle_append, ← regionsUnder_append,
        List.singleton_append]

end ExactTable

/-! ## The modes of a journal -/

def AcquisitionEvent.mode? : AcquisitionEvent → Option WriteMode
  | .merged _ _ mode _ => some mode
  | _ => none

/-- A journal goes on with merges in one mode only. -/
def MergesIn (mode : WriteMode) (journal next : List AcquisitionEvent) : Prop :=
  ∃ events, next = journal ++ events ∧ ∀ event ∈ events, ∀ other, event.mode? = some other →
    other = mode

namespace MergesIn

variable {mode : WriteMode} {journal middle next : List AcquisitionEvent}

theorem of_goesOn (hnext : GoesOn journal next) : MergesIn mode journal next := by
  obtain ⟨events, rfl, hevents⟩ := hnext
  refine ⟨events, rfl, ?_⟩
  intro event hevent other hother
  have hquiet := hevents event hevent
  cases event with
  | merged address country filed content => cases hquiet
  | requested request => cases hother
  | reused name => cases hother
  | removed name => cases hother
  | kept name content => cases hother

theorem refl (journal : List AcquisitionEvent) : MergesIn mode journal journal :=
  of_goesOn (GoesOn.refl journal)

theorem trans (hfirst : MergesIn mode journal middle) (hsecond : MergesIn mode middle next) :
    MergesIn mode journal next := by
  obtain ⟨events, rfl, hevents⟩ := hfirst
  obtain ⟨more, rfl, hmore⟩ := hsecond
  refine ⟨events ++ more, by simp, ?_⟩
  intro event hevent
  rcases List.mem_append.mp hevent with hearly | hlate
  · exact hevents event hearly
  · exact hmore event hlate

theorem merged (journal : List AcquisitionEvent) (address : String) (country : Option Country)
    (mode : WriteMode) (content : ByteArray) :
    MergesIn mode journal (journal ++ [.merged address country mode content]) := by
  refine ⟨[.merged address country mode content], rfl, ?_⟩
  intro event hevent other hother
  rw [List.mem_singleton.mp hevent] at hother
  cases hother
  rfl

end MergesIn

namespace AcquisitionTask

variable {κ : Type} [DatabaseFormat κ] {task : AcquisitionTask} {mode : WriteMode}
  {state next : AcquisitionState κ}

theorem mergesIn_of_move (hmove : task.Move mode state next) :
    MergesIn mode state.journal next.journal := by
  cases hmove with
  | checked => exact MergesIn.refl state.journal
  | listed => exact MergesIn.of_goesOn (GoesOn.requested state.journal _)
  | ingested address country =>
      have hobtained : MergesIn mode state.journal _ :=
        MergesIn.of_goesOn (task.obtain_journal (state.checkDeadline task.plan).1 address)
      cases task.ingestCourse state address country mode with
      | late _ hresult =>
          rw [hresult]
          exact MergesIn.refl state.journal
      | unavailable _ hresult =>
          rw [hresult]
          exact hobtained
      | unreadable _ hresult =>
          rw [hresult]
          exact hobtained
      | merged _ content tables merged _ _ hnext hresult =>
          rw [hresult, hnext, AcquisitionState.mergeTables_journal]
          exact hobtained.trans (MergesIn.merged _ address country mode content)
  | skipped => exact MergesIn.refl state.journal
  | loaded => exact MergesIn.refl state.journal

theorem mergesIn_of_moves (hmoves : task.Moves mode state next) :
    MergesIn mode state.journal next.journal := by
  induction hmoves with
  | refl => exact MergesIn.refl state.journal
  | tail _ hlast ih => exact ih.trans (mergesIn_of_move hlast)

end AcquisitionTask

/-! ## A run -/

theorem ExactTable.getElem?_replay {version : String} {mode : WriteMode} {table : ExactTable}
    {events : List AcquisitionEvent} {key : EntryKey}
    (hmode : ∀ event ∈ events, ∀ other, event.mode? = some other → other = mode) :
    (table.replay version events)[key]? =
      mode.settle table[key]? (regionsUnder key (mergedRows version events)) := by
  induction events generalizing table with
  | nil => exact (WriteMode.settle_nil mode _).symm
  | cons event rest ih =>
      have hevent : (table.fileEvent version event)[key]? =
          mode.settle table[key]? (regionsUnder key (event.rows version)) := by
        cases event with
        | merged address country filed content =>
            cases hmode _ List.mem_cons_self filed rfl
            exact getElem?_putRows
        | requested request => exact (WriteMode.settle_nil mode _).symm
        | reused name => exact (WriteMode.settle_nil mode _).symm
        | removed name => exact (WriteMode.settle_nil mode _).symm
        | kept name content => exact (WriteMode.settle_nil mode _).symm
      have hrest : ((table.fileEvent version event).replay version rest)[key]? = _ :=
        ih fun later hlater => hmode later (List.mem_cons_of_mem _ hlater)
      change ((table.fileEvent version event).replay version rest)[key]? = _
      rw [hrest, hevent, ← WriteMode.settle_append, ← regionsUnder_append]
      rfl

namespace AcquisitionTask

variable {κ : Type} [DatabaseFormat κ]

/-- The acquired table has for each key the region of the last row that the operator's archives
have for it; if they have none, the region of the first row of the archives before them. -/
theorem getElem?_table_run (task : AcquisitionTask) (directory : DataDirectory κ) (clock : Nat) :
    ∃ extra, (task.run directory clock).journal =
        (task.beforeExtra directory clock).journal ++ extra ∧
      ∀ key, (task.run directory clock).table[key]? =
        (regionsUnder key (mergedRows task.plan.version extra)).getLast?.or
          (regionsUnder key (mergedRows task.plan.version
            (task.beforeExtra directory clock).journal)).head? := by
  obtain ⟨primary, hprimary, hfirstWins⟩ :=
    mergesIn_of_moves (task.moves_beforeExtra directory clock)
  obtain ⟨extra, hextra, hlastWins⟩ := mergesIn_of_moves (task.moves_run directory clock)
  refine ⟨extra, hextra, ?_⟩
  intro key
  have hrun : task.FilesJournal (task.run directory clock) :=
    filesJournal_of_reaches (task.reaches_run directory clock)
  have hstart : (AcquisitionState.start directory clock : AcquisitionState κ).journal = [] := rfl
  rw [hstart, List.nil_append] at hprimary
  rw [hrun, hextra, ExactTable.replay_append, ExactTable.getElem?_replay hlastWins, hprimary,
    ExactTable.getElem?_replay hfirstWins]
  simp [WriteMode.settle]

end AcquisitionTask

end PostalRegions
