import PostalRegions.Proofs.Dataset.Phases
import PostalRegions.Proofs.Dataset.Restart

/-!
# A rebuild and an import at the same time

A rebuild and an import of estimates over one snapshot file may take their steps in any order; no
lock keeps them apart.  If both succeed, the exact entries in the file are those that the rebuild
acquired, unless it saved them after the import had read the exact entries and before the import
put its own file into place.  Then they are those that the import had read.
-/

namespace PostalRegions

variable {κ : Type} [DatabaseFormat κ]

/-! ## Exact entries of a file -/

namespace DataDirectory

/-- The exact entries in the snapshot file at a place. -/
def exactAt? (directory : DataDirectory κ) (here : Storage.Place) : Option ExactTable :=
  (directory.fileAt? here).bind fun found =>
    found.1.database?.bind fun database => database.exact.map Database.exactOf

variable {directory next : DataDirectory κ} {path : String} {here : Storage.Place}

theorem exactAt?_of_loadExact {exact : ExactTable}
    (hload : SnapshotStore.loadExact directory path = .ok exact)
    (hplace : Storage.destination path = here) : directory.exactAt? here = some exact := by
  obtain ⟨database, rows, hopen, hrows, rfl⟩ := SnapshotStore.loadExact_eq_ok_iff.mp hload
  obtain ⟨content, modified, hfile, hdatabase⟩ := SnapshotStore.open?_eq_ok_iff.mp hopen
  have hfound := Storage.Directory.fileAt?_destination_of_file? hfile
  rw [hplace] at hfound
  unfold exactAt?
  rw [hfound, Option.bind_some, hdatabase, Option.bind_some, hrows, Option.map_some]

theorem exactAt?_of_fileWritten {snapshot : Snapshot κ} {metadata : Metadata} {now : Instant}
    (hwritten : directory.FileWritten next here (.database (.ofSnapshot snapshot metadata)) now)
    (hcodes : ∀ key ∈ snapshot.exact, key.code ≠ "") :
    next.exactAt? here = some snapshot.exact := by
  have hrows : Database.exactOf (snapshot.exact.toList.map ExactRow.ofEntry) = snapshot.exact := by
    rw [Database.exactOf_toList, ExactTable.withCodes_eq_self hcodes]
  unfold exactAt?
  rw [hwritten here, if_pos rfl]
  exact congrArg some hrows

end DataDirectory

/-! ## Steps in any order -/

inductive Party where
  | rebuilder
  | importer
deriving DecidableEq, Repr

structure Overlap (κ : Type) where
  directory : DataDirectory κ
  rebuilding : RebuildPhase κ
  importing : ImportPhase κ

namespace Overlap

def step (rebuild : ScheduledRebuild κ) (task : ImportTask κ) (overlap : Overlap κ) :
    Party → Overlap κ
  | .rebuilder =>
    let moved := rebuild.advance (overlap.directory, overlap.rebuilding)
    ⟨moved.1, moved.2, overlap.importing⟩
  | .importer =>
    let moved := task.advance (overlap.directory, overlap.importing)
    ⟨moved.1, overlap.rebuilding, moved.2⟩

def run (rebuild : ScheduledRebuild κ) (task : ImportTask κ) (directory : DataDirectory κ)
    (schedule : List Party) : Overlap κ :=
  schedule.foldl (step rebuild task) ⟨directory, .judging, .starting⟩

variable {rebuild : ScheduledRebuild κ} {task : ImportTask κ} {directory : DataDirectory κ}

theorem run_concat (schedule : List Party) (party : Party) :
    run rebuild task directory (schedule ++ [party]) =
      step rebuild task (run rebuild task directory schedule) party := by
  simp [run]

end Overlap

/-! ## Codes -/

def ExactTable.HasCodes (exact : ExactTable) : Prop :=
  ∀ key ∈ exact, key.code ≠ ""

/-- All exact entries that a rebuild works with have codes, and what it is about to save it has
acquired. -/
def RebuildPhase.HasCodes : RebuildPhase κ → Prop
  | .dating exact _ _ => exact.HasCodes
  | .estimating data _ _ => data.table.HasCodes
  | .saving data snapshot _ _ =>
      snapshot.exact.HasCodes ∧ ∃ timedOut, data.origin = .acquired timedOut
  | _ => True

def ImportPhase.HasCodes : ImportPhase κ → Prop
  | .replacing snapshot _ => snapshot.exact.HasCodes
  | _ => True

theorem ScheduledRebuild.hasCodes_advance (rebuild : ScheduledRebuild κ)
    (directory : DataDirectory κ) {phase : RebuildPhase κ} (hphase : phase.HasCodes) :
    (rebuild.advance (directory, phase)).2.HasCodes := by
  have hempty : ExactTable.HasCodes ∅ := by
    intro key hkey
    simp at hkey
  cases phase with
  | judging =>
      simp only [advance]
      split
      · trivial
      · split <;> trivial
  | reusing createdAt =>
      simp only [advance]
      split
      · trivial
      · rename_i exact hload
        split
        · trivial
        · exact SnapshotStore.code_ne_empty_of_loadExact hload
  | acquiring =>
      simp only [advance]
      split
      · trivial
      · exact (AcquisitionTask.hasKeyTexts_run _ directory rebuild.clock).ne_empty
  | fallingBack clock journal =>
      simp only [advance]
      split
      · exact hempty
      · rename_i exact hload
        split
        · exact hempty
        · exact SnapshotStore.code_ne_empty_of_loadExact hload
  | dating exact clock journal => exact hphase
  | estimating data clock journal =>
      simp only [advance]
      split
      · rename_i timedOut horigin
        exact ⟨hphase, timedOut, horigin⟩
      · trivial
  | saving data snapshot clock journal => trivial
  | finished rebuilt isSaved => trivial

theorem ImportTask.hasCodes_advance (task : ImportTask κ) (directory : DataDirectory κ)
    {phase : ImportPhase κ} (hphase : phase.HasCodes) :
    (task.advance (directory, phase)).2.HasCodes := by
  cases phase with
  | starting =>
      simp only [advance]
      split
      · trivial
      · split
        · trivial
        · split <;> trivial
  | loading estimates facts =>
      simp only [advance]
      split
      · trivial
      · rename_i exact hload
        exact SnapshotStore.code_ne_empty_of_loadExact hload
  | replacing snapshot facts => trivial
  | finished result => trivial

namespace Overlap

variable {rebuild : ScheduledRebuild κ} {task : ImportTask κ} {directory : DataDirectory κ}

theorem hasCodes_run (rebuild : ScheduledRebuild κ) (task : ImportTask κ)
    (directory : DataDirectory κ) (schedule : List Party) :
    (run rebuild task directory schedule).rebuilding.HasCodes ∧
      (run rebuild task directory schedule).importing.HasCodes := by
  induction schedule using List.reverseRecOn with
  | nil => exact ⟨trivial, trivial⟩
  | append_singleton earlier party ih =>
      rw [run_concat]
      cases party with
      | rebuilder => exact ⟨rebuild.hasCodes_advance _ ih.1, ih.2⟩
      | importer => exact ⟨ih.1, task.hasCodes_advance _ ih.2⟩

end Overlap

/-! ## After the rebuild has saved -/

def ImportPhase.overwriting? : ImportPhase κ → Option ExactTable
  | .replacing snapshot _ => some snapshot.exact
  | _ => none

/-- An import that does not fail will leave these exact entries behind. -/
def ImportPhase.WillLeave (directory : DataDirectory κ) (here : Storage.Place)
    (last : ExactTable) : ImportPhase κ → Prop
  | .replacing snapshot _ => snapshot.exact.HasCodes ∧ snapshot.exact = last
  | .finished (.error _) => True
  | _ => directory.exactAt? here = some last

theorem ImportPhase.willLeave_of_exactAt? {directory : DataDirectory κ} {here : Storage.Place}
    {exact : ExactTable} {phase : ImportPhase κ} (hcodes : phase.HasCodes)
    (hexact : directory.exactAt? here = some exact) :
    phase.WillLeave directory here (phase.overwriting?.getD exact) := by
  cases phase with
  | starting => exact hexact
  | loading estimates facts => exact hexact
  | replacing snapshot facts => exact ⟨hcodes, rfl⟩
  | finished result =>
      cases result with
      | error cause => trivial
      | ok stored => exact hexact

theorem ImportPhase.exactAt?_of_stored? {directory : DataDirectory κ} {here : Storage.Place}
    {last : ExactTable} {phase : ImportPhase κ} {stored : Nat}
    (hstored : phase.stored? = some stored) (hleave : phase.WillLeave directory here last) :
    directory.exactAt? here = some last := by
  cases phase with
  | finished result =>
      cases result with
      | error cause => cases hstored
      | ok found => exact hleave
  | _ => cases hstored

theorem ImportTask.willLeave_advance (task : ImportTask κ) {directory : DataDirectory κ}
    {here : Storage.Place} {last : ExactTable} {phase : ImportPhase κ}
    (hplace : Storage.destination task.path = here)
    (hphase : phase.WillLeave directory here last) :
    (task.advance (directory, phase)).2.WillLeave (task.advance (directory, phase)).1 here
      last := by
  cases phase with
  | starting =>
      simp only [advance]
      split
      · trivial
      · split
        · trivial
        · split
          · trivial
          · exact hphase
  | loading estimates facts =>
      -- The import reads what the rebuild has saved: nothing was put into the file in between.
      have hfile : directory.exactAt? here = some last := hphase
      simp only [advance]
      split
      · trivial
      · rename_i exact hload
        have hexact := DataDirectory.exactAt?_of_loadExact hload hplace
        have hlast : exact = last := Option.some.inj (hexact.symm.trans hfile)
        exact ⟨SnapshotStore.code_ne_empty_of_loadExact hload, hlast⟩
  | replacing snapshot facts =>
      obtain ⟨hcodes, rfl⟩ := hphase
      simp only [advance]
      cases hwrite : SnapshotStore.write directory task.path snapshot facts task.now with
      | mk next result =>
          cases result with
          | error cause => trivial
          | ok done =>
              rw [SnapshotStore.write_eq_place] at hwrite
              have hwritten := SnapshotStore.fileWritten_of_place hwrite
              rw [hplace] at hwritten
              exact DataDirectory.exactAt?_of_fileWritten hwritten hcodes
  | finished result => exact hphase

theorem ScheduledRebuild.advance_of_saved? (rebuild : ScheduledRebuild κ)
    (directory : DataDirectory κ) {phase : RebuildPhase κ} {rebuilt : Rebuilt κ}
    (hsaved : phase.saved? = some rebuilt) :
    rebuild.advance (directory, phase) = (directory, phase) := by
  cases phase with
  | finished found isSaved => rfl
  | _ => cases hsaved

/-- A rebuild comes to have saved its acquisition by its last step. -/
theorem ScheduledRebuild.saving_of_saved? {rebuild : ScheduledRebuild κ}
    {directory : DataDirectory κ} {phase : RebuildPhase κ} {rebuilt : Rebuilt κ}
    (hunsaved : phase.saved? = none)
    (hsaved : (rebuild.advance (directory, phase)).2.saved? = some rebuilt) :
    ∃ data snapshot clock journal, phase = .saving data snapshot clock journal ∧
      (rebuild.save directory snapshot clock).2.isOk = true ∧
      rebuilt = rebuild.rebuiltOf data snapshot (rebuild.save directory snapshot clock).1 clock
        journal := by
  cases phase with
  | judging =>
      simp only [advance] at hsaved
      split at hsaved
      · cases hsaved
      · split at hsaved <;> cases hsaved
  | reusing createdAt =>
      simp only [advance] at hsaved
      split at hsaved
      · cases hsaved
      · split at hsaved <;> cases hsaved
  | acquiring =>
      simp only [advance] at hsaved
      split at hsaved <;> cases hsaved
  | fallingBack clock journal =>
      simp only [advance] at hsaved
      split at hsaved
      · cases hsaved
      · split at hsaved <;> cases hsaved
  | dating exact clock journal => cases hsaved
  | estimating data clock journal =>
      simp only [advance] at hsaved
      split at hsaved <;> cases hsaved
  | saving data snapshot clock journal =>
      refine ⟨data, snapshot, clock, journal, rfl, ?_⟩
      simp only [advance] at hsaved
      cases hdone : (rebuild.save directory snapshot clock).2.isOk with
      | false =>
          rw [hdone] at hsaved
          cases hsaved
      | true =>
          rw [hdone] at hsaved
          exact ⟨rfl, (Option.some.inj hsaved).symm⟩
  | finished found isSaved =>
      simp only [advance] at hsaved
      rw [hunsaved] at hsaved
      cases hsaved

theorem ScheduledRebuild.exactAt?_of_saved? {rebuild : ScheduledRebuild κ}
    {directory : DataDirectory κ} {phase : RebuildPhase κ} {rebuilt : Rebuilt κ}
    (hcodes : phase.HasCodes) (hunsaved : phase.saved? = none)
    (hsaved : (rebuild.advance (directory, phase)).2.saved? = some rebuilt) :
    (∃ timedOut, rebuilt.origin = .acquired timedOut) ∧
      (rebuild.advance (directory, phase)).1.exactAt?
          (Storage.destination rebuild.settings.snapshotPath) =
        some rebuilt.generation.tables.exact := by
  obtain ⟨data, snapshot, clock, journal, rfl, hdone, rfl⟩ :=
    ScheduledRebuild.saving_of_saved? hunsaved hsaved
  obtain ⟨hcodes, timedOut, horigin⟩ := hcodes
  rcases SnapshotStore.save_cases directory rebuild.settings.snapshotPath snapshot
      rebuild.settings.version rebuild.settings.extraFingerprint (rebuild.wall clock) with
    ⟨cause, hresult, _⟩ | ⟨hresult, hwritten⟩
  · unfold save at hdone
    rw [hresult] at hdone
    cases hdone
  · refine ⟨⟨timedOut, horigin⟩, ?_⟩
    rw [rebuiltOf_exact]
    simp only [advance, save]
    exact DataDirectory.exactAt?_of_fileWritten hwritten hcodes

/-- What an import is about to put into the file it has just read from there. -/
theorem ImportTask.loadExact_of_overwriting? {task : ImportTask κ} {directory : DataDirectory κ}
    {phase : ImportPhase κ} {loaded : ExactTable}
    (hloaded : (task.advance (directory, phase)).2.overwriting? = some loaded) :
    SnapshotStore.loadExact directory task.path = .ok loaded := by
  cases phase with
  | starting =>
      simp only [advance] at hloaded
      split at hloaded
      · cases hloaded
      · split at hloaded
        · cases hloaded
        · split at hloaded <;> cases hloaded
  | loading estimates facts =>
      simp only [advance] at hloaded
      split at hloaded
      · cases hloaded
      · rename_i exact hload
        cases hloaded
        exact hload
  | replacing snapshot facts => cases hloaded
  | finished result => cases hloaded

namespace Overlap

variable {rebuild : ScheduledRebuild κ} {task : ImportTask κ} {directory : DataDirectory κ}

theorem exists_save {schedule : List Party} {rebuilt : Rebuilt κ}
    (hsaved : (run rebuild task directory schedule).rebuilding.saved? = some rebuilt) :
    ∃ earlier later, schedule = earlier ++ .rebuilder :: later ∧
      (run rebuild task directory earlier).rebuilding.saved? = none ∧
      (run rebuild task directory (earlier ++ [.rebuilder])).rebuilding.saved? = some rebuilt := by
  induction schedule using List.reverseRecOn with
  | nil => cases hsaved
  | append_singleton before party ih =>
      have hextend (hbefore : (run rebuild task directory before).rebuilding.saved? =
          some rebuilt) :
          ∃ earlier later, before ++ [party] = earlier ++ .rebuilder :: later ∧
            (run rebuild task directory earlier).rebuilding.saved? = none ∧
            (run rebuild task directory (earlier ++ [.rebuilder])).rebuilding.saved? =
              some rebuilt := by
        obtain ⟨earlier, later, rfl, hunsaved, hsaves⟩ := ih hbefore
        exact ⟨earlier, later ++ [party], by simp, hunsaved, hsaves⟩
      cases party with
      | importer =>
          rw [run_concat] at hsaved
          exact hextend hsaved
      | rebuilder =>
          cases hbefore : (run rebuild task directory before).rebuilding.saved? with
          | none => exact ⟨before, [], rfl, hbefore, hsaved⟩
          | some found =>
              -- A rebuild that is finished stays as it is, so it had saved this before.
              rw [run_concat] at hsaved
              simp only [step, rebuild.advance_of_saved? _ hbefore] at hsaved
              exact hextend hsaved

theorem exists_load {schedule : List Party} {loaded : ExactTable}
    (hloaded : (run rebuild task directory schedule).importing.overwriting? = some loaded) :
    ∃ earlier later, schedule = earlier ++ .importer :: later ∧
      SnapshotStore.loadExact (run rebuild task directory earlier).directory task.path =
        .ok loaded := by
  induction schedule using List.reverseRecOn with
  | nil => cases hloaded
  | append_singleton before party ih =>
      rw [run_concat] at hloaded
      cases party with
      | rebuilder =>
          obtain ⟨earlier, later, rfl, hload⟩ := ih hloaded
          exact ⟨earlier, later ++ [.rebuilder], by simp, hload⟩
      | importer =>
          exact ⟨before, [], rfl, ImportTask.loadExact_of_overwriting? hloaded⟩

/-- Once the rebuild has saved its acquisition, only the import goes on. -/
theorem willLeave_run {earlier : List Party} {rebuilt : Rebuilt κ} {here : Storage.Place}
    {last : ExactTable} (hplace : Storage.destination task.path = here)
    (hsaved : (run rebuild task directory earlier).rebuilding.saved? = some rebuilt)
    (hleave : (run rebuild task directory earlier).importing.WillLeave
      (run rebuild task directory earlier).directory here last) (later : List Party) :
    (run rebuild task directory (earlier ++ later)).rebuilding.saved? = some rebuilt ∧
      (run rebuild task directory (earlier ++ later)).importing.WillLeave
        (run rebuild task directory (earlier ++ later)).directory here last := by
  induction later using List.reverseRecOn with
  | nil =>
      rw [List.append_nil]
      exact ⟨hsaved, hleave⟩
  | append_singleton later party ih =>
      obtain ⟨hsaved, hleave⟩ := ih
      rw [← List.append_assoc, run_concat]
      cases party with
      | rebuilder =>
          simp only [step, rebuild.advance_of_saved? _ hsaved]
          exact ⟨hsaved, hleave⟩
      | importer => exact ⟨hsaved, task.willLeave_advance hplace hleave⟩

/-- After the steps `earlier` of a schedule the rebuild saves its acquisition, and this settles
which exact entries are in the file in the end. -/
structure Settles (rebuild : ScheduledRebuild κ) (task : ImportTask κ)
    (directory : DataDirectory κ) (schedule earlier : List Party) (rebuilt : Rebuilt κ)
    (here : Storage.Place) : Prop where
  split : ∃ later, schedule = earlier ++ .rebuilder :: later
  before : (run rebuild task directory earlier).rebuilding.saved? = none
  after : (run rebuild task directory (earlier ++ [.rebuilder])).rebuilding.saved? = some rebuilt
  kept : (run rebuild task directory earlier).importing.overwriting? = none →
    (run rebuild task directory schedule).directory.exactAt? here =
      some rebuilt.generation.tables.exact
  /-- The import had read what was in the file at an earlier time. -/
  overwritten : ∀ loaded,
    (run rebuild task directory earlier).importing.overwriting? = some loaded →
      (run rebuild task directory schedule).directory.exactAt? here = some loaded ∧
      ∃ before between, earlier = before ++ .importer :: between ∧
        SnapshotStore.loadExact (run rebuild task directory before).directory task.path =
          .ok loaded

/-- If both succeed, the exact entries that the rebuild has acquired are in the file in the end,
unless the rebuild saved them between the import's reading of the exact entries and its writing. -/
theorem settles_of_bothSucceed {schedule : List Party} {rebuilt : Rebuilt κ} {stored : Nat}
    (hsame : Storage.destination task.path = Storage.destination rebuild.settings.snapshotPath)
    (hsaved : (run rebuild task directory schedule).rebuilding.saved? = some rebuilt)
    (hstored : (run rebuild task directory schedule).importing.stored? = some stored) :
    (∃ timedOut, rebuilt.origin = .acquired timedOut) ∧
      ∃ earlier, Settles rebuild task directory schedule earlier rebuilt
        (Storage.destination rebuild.settings.snapshotPath) := by
  obtain ⟨earlier, later, rfl, hunsaved, hsaves⟩ := exists_save hsaved
  obtain ⟨hrebuilding, himporting⟩ := hasCodes_run rebuild task directory earlier
  have hnext := hsaves
  rw [run_concat] at hnext
  obtain ⟨hacquired, hexact⟩ :=
    ScheduledRebuild.exactAt?_of_saved? hrebuilding hunsaved hnext
  have hleave := ImportPhase.willLeave_of_exactAt? himporting hexact
  have hend : (run rebuild task directory (earlier ++ .rebuilder :: later)).directory.exactAt?
      (Storage.destination rebuild.settings.snapshotPath) =
        some ((run rebuild task directory earlier).importing.overwriting?.getD
          rebuilt.generation.tables.exact) := by
    rw [List.append_cons] at hstored ⊢
    apply ImportPhase.exactAt?_of_stored? hstored
    refine (willLeave_run hsame hsaves ?_ later).2
    rw [run_concat]
    exact hleave
  refine ⟨hacquired, earlier, ⟨later, rfl⟩, hunsaved, hsaves, ?_, ?_⟩
  · intro hnone
    rw [hnone] at hend
    exact hend
  · intro loaded hloaded
    rw [hloaded] at hend
    exact ⟨hend, exists_load hloaded⟩

def outdatedDirectory : DataDirectory Rat :=
  (SnapshotStore.save .empty ScheduledRebuild.ordinaryRebuild.settings.snapshotPath knownSnapshot
    "2024" "another" ScheduledRebuild.ordinaryRebuild.begunAt).1

def ordinaryImport : ImportTask Rat where
  path := ScheduledRebuild.ordinaryRebuild.settings.snapshotPath
  confidences := .standard
  content := some ("COUNTRY_CODE,POSTAL_CODE,ESTIMATED_LEVEL3,ESTIMATED_LEVEL2," ++
    "ESTIMATED_LEVEL1,CONFIDENCE\nAT,1011,AT130,AT13,AT1,high\n").toUTF8
  now := ScheduledRebuild.ordinaryRebuild.begunAt

/-- The import reads the snapshot before a rebuild, and writes after it. -/
def lateSchedule : List Party :=
  [.importer, .importer] ++ List.replicate 7 .rebuilder ++ [.importer]

theorem lateSchedule_outcome :
    ∃ rebuilt,
      (run ScheduledRebuild.ordinaryRebuild ordinaryImport outdatedDirectory
        lateSchedule).rebuilding.saved? = some rebuilt ∧
      rebuilt.generation.tables.exact.toList.map (fun entry => entry.1.code) = ["1010"] ∧
      (run ScheduledRebuild.ordinaryRebuild ordinaryImport outdatedDirectory
        lateSchedule).importing.stored? = some 1 ∧
      ((run ScheduledRebuild.ordinaryRebuild ordinaryImport outdatedDirectory
        lateSchedule).directory.exactAt? ["data", "postal-regions-2024.db"]).map
          (fun exact => exact.toList.map fun entry => entry.1.code) = some ["10115"] := by
  have hrun : ((run ScheduledRebuild.ordinaryRebuild ordinaryImport outdatedDirectory
        lateSchedule).rebuilding.saved?.map fun rebuilt =>
          rebuilt.generation.tables.exact.toList.map fun entry => entry.1.code) = some ["1010"] ∧
      (run ScheduledRebuild.ordinaryRebuild ordinaryImport outdatedDirectory
        lateSchedule).importing.stored? = some 1 ∧
      ((run ScheduledRebuild.ordinaryRebuild ordinaryImport outdatedDirectory
        lateSchedule).directory.exactAt? ["data", "postal-regions-2024.db"]).map
          (fun exact => exact.toList.map fun entry => entry.1.code) = some ["10115"] := by
    decide +kernel
  obtain ⟨hacquired, hstored, hleft⟩ := hrun
  obtain ⟨rebuilt, hsaved, hcodes⟩ := Option.map_eq_some_iff.mp hacquired
  exact ⟨rebuilt, hsaved, hcodes, hstored, hleft⟩

theorem lateSchedule_settles :
    ∃ rebuilt earlier,
      Storage.destination ordinaryImport.path =
        Storage.destination ScheduledRebuild.ordinaryRebuild.settings.snapshotPath ∧
      (run ScheduledRebuild.ordinaryRebuild ordinaryImport outdatedDirectory
        lateSchedule).rebuilding.saved? = some rebuilt ∧
      (run ScheduledRebuild.ordinaryRebuild ordinaryImport outdatedDirectory
        lateSchedule).importing.stored? = some 1 ∧
      Settles ScheduledRebuild.ordinaryRebuild ordinaryImport outdatedDirectory lateSchedule
        earlier rebuilt
        (Storage.destination ScheduledRebuild.ordinaryRebuild.settings.snapshotPath) := by
  obtain ⟨rebuilt, hsaved, _, hstored, _⟩ := lateSchedule_outcome
  obtain ⟨_, earlier, hsettles⟩ := settles_of_bothSucceed rfl hsaved hstored
  exact ⟨rebuilt, earlier, rfl, hsaved, hstored, hsettles⟩

/-- Both succeed, and the entry that the rebuild has acquired is lost. -/
theorem lateSchedule_loses_acquisition :
    ∃ rebuilt here,
      Storage.destination ScheduledRebuild.ordinaryRebuild.settings.snapshotPath = here ∧
      Storage.destination ordinaryImport.path = here ∧
      (run ScheduledRebuild.ordinaryRebuild ordinaryImport outdatedDirectory
        lateSchedule).rebuilding.saved? = some rebuilt ∧
      (run ScheduledRebuild.ordinaryRebuild ordinaryImport outdatedDirectory
        lateSchedule).importing.stored? = some 1 ∧
      (run ScheduledRebuild.ordinaryRebuild ordinaryImport outdatedDirectory
        lateSchedule).directory.exactAt? here ≠ some rebuilt.generation.tables.exact := by
  obtain ⟨rebuilt, hsaved, hcodes, hstored, hleft⟩ := lateSchedule_outcome
  refine ⟨rebuilt, ["data", "postal-regions-2024.db"], by decide +kernel, by decide +kernel,
    hsaved, hstored, ?_⟩
  intro hkept
  rw [hkept, Option.map_some, hcodes] at hleft
  exact absurd hleft (by decide)

end Overlap

end PostalRegions
