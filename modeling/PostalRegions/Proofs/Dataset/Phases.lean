import Mathlib.Logic.Function.Iterate
import PostalRegions.Proofs.Dataset.Import
import PostalRegions.Proofs.Dataset.Staleness

/-!
# Rebuilds and imports, access by access

A rebuild and an import use the snapshot file several times: its facts, its exact entries and its
estimates are read one after another, and in the end a new file is put into its place.  Here each
of these accesses is a step of its own.  One after another, the steps are the whole operation.
-/

namespace PostalRegions

variable {κ : Type}

/-! ## Rebuilds -/

/-- What a rebuild does next, with what it has found so far. -/
inductive RebuildPhase (κ : Type) where
  /-- Reads the facts about the snapshot. -/
  | judging
  /-- Reads the exact entries of a snapshot that may be reused. -/
  | reusing (createdAt : Instant)
  | acquiring
  /-- Reads the exact entries of the snapshot in place of an acquisition without data. -/
  | fallingBack (clock : Nat) (journal : List AcquisitionEvent)
  /-- Reads when the snapshot was made whose entries are used. -/
  | dating (exact : ExactTable) (clock : Nat) (journal : List AcquisitionEvent)
  /-- Reads the operator's estimates or those of the snapshot. -/
  | estimating (data : ExactData) (clock : Nat) (journal : List AcquisitionEvent)
  /-- Puts an acquisition into the place of the snapshot. -/
  | saving (data : ExactData) (snapshot : Snapshot κ) (clock : Nat)
      (journal : List AcquisitionEvent)
  | finished (rebuilt : Rebuilt κ) (isSaved : Bool)

/-- What a rebuild has made of its acquisition, if it has saved it. -/
def RebuildPhase.saved? : RebuildPhase κ → Option (Rebuilt κ)
  | .finished rebuilt true => some rebuilt
  | _ => none

namespace ScheduledRebuild

variable [DatabaseFormat κ]

def rebuiltOf (rebuild : ScheduledRebuild κ) (data : ExactData) (snapshot : Snapshot κ)
    (directory : DataDirectory κ) (clock : Nat) (journal : List AcquisitionEvent) : Rebuilt κ where
  generation := rebuild.settings.generationOf data snapshot
  origin := data.origin
  directory := directory
  clock := clock
  journal := journal

omit [DatabaseFormat κ] in
@[simp] theorem rebuiltOf_directory (rebuild : ScheduledRebuild κ) (data : ExactData)
    (snapshot : Snapshot κ) (directory : DataDirectory κ) (clock : Nat)
    (journal : List AcquisitionEvent) :
    (rebuild.rebuiltOf data snapshot directory clock journal).directory = directory :=
  rfl

omit [DatabaseFormat κ] in
@[simp] theorem rebuiltOf_exact (rebuild : ScheduledRebuild κ) (data : ExactData)
    (snapshot : Snapshot κ) (directory : DataDirectory κ) (clock : Nat)
    (journal : List AcquisitionEvent) :
    (rebuild.rebuiltOf data snapshot directory clock journal).generation.tables.exact =
      snapshot.exact :=
  rfl

def snapshotOf (rebuild : ScheduledRebuild κ) (directory : DataDirectory κ) (data : ExactData) :
    Snapshot κ :=
  ⟨data.table, (rebuild.settings.estimates directory).without data.table⟩

def save (rebuild : ScheduledRebuild κ) (directory : DataDirectory κ) (snapshot : Snapshot κ)
    (clock : Nat) : DataDirectory κ × Except StoreError Metadata :=
  SnapshotStore.save directory rebuild.settings.snapshotPath snapshot rebuild.settings.version
    rebuild.settings.extraFingerprint (rebuild.wall clock)

def advance (rebuild : ScheduledRebuild κ) :
    DataDirectory κ × RebuildPhase κ → DataDirectory κ × RebuildPhase κ
  | (directory, .judging) =>
    match SnapshotStore.readMetadata directory rebuild.settings.snapshotPath with
    | .error _ => (directory, .acquiring)
    | .ok metadata =>
      if (metadata.invalidity? rebuild.settings.expectation rebuild.begunAt).isSome then
        (directory, .acquiring)
      else (directory, .reusing metadata.createdAt)
  | (directory, .reusing createdAt) =>
    match SnapshotStore.loadExact directory rebuild.settings.snapshotPath with
    | .error _ => (directory, .acquiring)
    | .ok exact =>
      if exact.isEmpty then (directory, .acquiring)
      else (directory, .estimating ⟨exact, .snapshot, some createdAt⟩ rebuild.clock [])
  | (directory, .acquiring) =>
    let state := rebuild.acquired directory
    if state.table.isEmpty then (state.directory, .fallingBack state.clock state.journal)
    else
      (state.directory,
        .estimating
          ⟨state.table, .acquired state.report.timedOut, some (rebuild.acquiredAt directory)⟩
          state.clock state.journal)
  | (directory, .fallingBack clock journal) =>
    match SnapshotStore.loadExact directory rebuild.settings.snapshotPath with
    | .error _ => (directory, .estimating ⟨∅, .empty, none⟩ clock journal)
    | .ok exact =>
      if exact.isEmpty then (directory, .estimating ⟨∅, .empty, none⟩ clock journal)
      else (directory, .dating exact clock journal)
  | (directory, .dating exact clock journal) =>
    let metadata := SnapshotStore.readMetadata directory rebuild.settings.snapshotPath
    (directory,
      .estimating ⟨exact, .staleSnapshot, metadata.toOption.map (·.createdAt)⟩ clock journal)
  | (directory, .estimating data clock journal) =>
    let snapshot := rebuild.snapshotOf directory data
    match data.origin with
    | .acquired _ => (directory, .saving data snapshot clock journal)
    | _ => (directory, .finished (rebuild.rebuiltOf data snapshot directory clock journal) false)
  | (directory, .saving data snapshot clock journal) =>
    let saved := rebuild.save directory snapshot clock
    (saved.1, .finished (rebuild.rebuiltOf data snapshot saved.1 clock journal) saved.2.isOk)
  | (directory, .finished rebuilt isSaved) => (directory, .finished rebuilt isSaved)

def Finishes (rebuild : ScheduledRebuild κ) (count : Nat)
    (start : DataDirectory κ × RebuildPhase κ) (rebuilt : Rebuilt κ) (isSaved : Bool) : Prop :=
  rebuild.advance^[count] start = (rebuilt.directory, .finished rebuilt isSaved)

namespace Finishes

variable {rebuild : ScheduledRebuild κ} {count : Nat} {rebuilt : Rebuilt κ} {isSaved : Bool}

theorem of_finished (rebuild : ScheduledRebuild κ) (count : Nat) {directory : DataDirectory κ}
    (hdirectory : rebuilt.directory = directory) :
    rebuild.Finishes count (directory, .finished rebuilt isSaved) rebuilt isSaved := by
  have hfixed : rebuild.advance (directory, .finished rebuilt isSaved) =
      (directory, .finished rebuilt isSaved) := rfl
  unfold Finishes
  rw [Function.iterate_fixed hfixed, hdirectory]

theorem of_advance {start next : DataDirectory κ × RebuildPhase κ}
    (hnext : rebuild.advance start = next)
    (hfinishes : rebuild.Finishes count next rebuilt isSaved) :
    rebuild.Finishes (count + 1) start rebuilt isSaved := by
  unfold Finishes
  rw [Function.iterate_succ_apply, hnext]
  exact hfinishes

end Finishes

variable {rebuild : ScheduledRebuild κ} {directory : DataDirectory κ}

def savesData (rebuild : ScheduledRebuild κ) (directory : DataDirectory κ) (data : ExactData)
    (clock : Nat) : Bool :=
  match data.origin with
  | .acquired _ => (rebuild.save directory (rebuild.snapshotOf directory data) clock).2.isOk
  | _ => false

theorem publish_eq (rebuild : ScheduledRebuild κ) (directory : DataDirectory κ) (data : ExactData)
    (clock : Nat) (journal : List AcquisitionEvent) :
    rebuild.settings.publish directory data clock journal (rebuild.wall clock) =
      rebuild.rebuiltOf data (rebuild.snapshotOf directory data)
        (rebuild.settings.saveAcquired directory data.origin (rebuild.snapshotOf directory data)
          (rebuild.wall clock)) clock journal :=
  rfl

theorem finishes_estimating (rebuild : ScheduledRebuild κ) (count : Nat)
    (directory : DataDirectory κ) (data : ExactData) (clock : Nat)
    (journal : List AcquisitionEvent) :
    rebuild.Finishes (count + 2) (directory, .estimating data clock journal)
      (rebuild.settings.publish directory data clock journal (rebuild.wall clock))
      (rebuild.savesData directory data clock) := by
  rw [publish_eq]
  have hunsaved (horigin : ∀ timedOut, data.origin ≠ .acquired timedOut) :
      rebuild.advance (directory, .estimating data clock journal) =
          (directory, .finished (rebuild.rebuiltOf data (rebuild.snapshotOf directory data)
            directory clock journal) false) ∧
        rebuild.settings.saveAcquired directory data.origin (rebuild.snapshotOf directory data)
          (rebuild.wall clock) = directory ∧
        rebuild.savesData directory data clock = false := by
    obtain ⟨table, origin, loadedAt⟩ := data
    cases origin with
    | acquired timedOut => exact absurd rfl (horigin timedOut)
    | snapshot => exact ⟨rfl, rfl, rfl⟩
    | staleSnapshot => exact ⟨rfl, rfl, rfl⟩
    | empty => exact ⟨rfl, rfl, rfl⟩
  by_cases horigin : ∃ timedOut, data.origin = .acquired timedOut
  · obtain ⟨timedOut, horigin⟩ := horigin
    have hsaving : rebuild.advance (directory, .estimating data clock journal) =
        (directory, .saving data (rebuild.snapshotOf directory data) clock journal) := by
      simp only [advance, horigin]
    have hsave : rebuild.advance
        (directory, .saving data (rebuild.snapshotOf directory data) clock journal) =
          ((rebuild.save directory (rebuild.snapshotOf directory data) clock).1,
            .finished (rebuild.rebuiltOf data (rebuild.snapshotOf directory data)
              (rebuild.save directory (rebuild.snapshotOf directory data) clock).1 clock journal)
              (rebuild.savesData directory data clock)) := by
      simp only [advance, savesData, horigin]
    refine Finishes.of_advance hsaving (Finishes.of_advance hsave ?_)
    have hleft : rebuild.settings.saveAcquired directory data.origin
        (rebuild.snapshotOf directory data) (rebuild.wall clock) =
          (rebuild.save directory (rebuild.snapshotOf directory data) clock).1 := by
      rw [horigin]
      rfl
    rw [hleft]
    exact Finishes.of_finished rebuild count (rebuiltOf_directory ..)
  · obtain ⟨hadvance, hleft, hsaves⟩ :=
      hunsaved fun timedOut htimedOut => horigin ⟨timedOut, htimedOut⟩
    rw [hleft, hsaves]
    exact Finishes.of_advance hadvance
      (Finishes.of_finished rebuild (count + 1) (rebuiltOf_directory ..))

theorem finishes_fallingBack (rebuild : ScheduledRebuild κ) (count : Nat)
    (directory : DataDirectory κ) (clock : Nat) (journal : List AcquisitionEvent) :
    rebuild.Finishes (count + 4) (directory, .fallingBack clock journal)
      (rebuild.settings.publish directory (rebuild.settings.fallback directory) clock journal
        (rebuild.wall clock))
      (rebuild.savesData directory (rebuild.settings.fallback directory) clock) := by
  have hestimating := fun count data =>
    rebuild.finishes_estimating count directory data clock journal
  cases hload : SnapshotStore.loadExact directory rebuild.settings.snapshotPath with
  | error cause =>
      have hfallback : rebuild.settings.fallback directory = ⟨∅, .empty, none⟩ := by
        simp only [Settings.fallback, hload]
      rw [hfallback]
      exact Finishes.of_advance (by simp only [advance, hload]) (hestimating (count + 1) _)
  | ok exact =>
      by_cases hempty : exact.isEmpty = true
      · have hfallback : rebuild.settings.fallback directory = ⟨∅, .empty, none⟩ := by
          simp only [Settings.fallback, hload, hempty, if_true]
        rw [hfallback]
        exact Finishes.of_advance (by simp only [advance, hload, hempty, if_true])
          (hestimating (count + 1) _)
      · have hfallback : rebuild.settings.fallback directory = ⟨exact, .staleSnapshot,
            (SnapshotStore.readMetadata directory rebuild.settings.snapshotPath).toOption.map
              (·.createdAt)⟩ := by
          simp only [Settings.fallback, hload, hempty, if_false, Bool.false_eq_true]
        have hdating : rebuild.advance (directory, .fallingBack clock journal) =
            (directory, .dating exact clock journal) := by
          simp only [advance, hload, hempty, if_false, Bool.false_eq_true]
        rw [hfallback]
        exact Finishes.of_advance hdating (Finishes.of_advance (by simp only [advance])
          (hestimating count _))

theorem finishes_acquiring (rebuild : ScheduledRebuild κ) (count : Nat)
    (directory : DataDirectory κ) :
    rebuild.Finishes (count + 5) (directory, .acquiring)
      (rebuild.settings.publish (rebuild.acquired directory).directory
        (rebuild.settings.afterAcquisition (rebuild.acquired directory)
          (rebuild.acquiredAt directory))
        (rebuild.acquired directory).clock (rebuild.acquired directory).journal
        (rebuild.acquiredAt directory))
      (rebuild.savesData (rebuild.acquired directory).directory
        (rebuild.settings.afterAcquisition (rebuild.acquired directory)
          (rebuild.acquiredAt directory)) (rebuild.acquired directory).clock) := by
  unfold Settings.afterAcquisition
  cases hempty : (rebuild.acquired directory).table.isEmpty with
  | true =>
      simp only [if_true]
      exact Finishes.of_advance (by simp only [advance, hempty, if_true])
        (rebuild.finishes_fallingBack count _ _ _)
  | false =>
      simp only [if_false, Bool.false_eq_true]
      exact Finishes.of_advance (by simp only [advance, hempty, if_false, Bool.false_eq_true])
        (rebuild.finishes_estimating (count + 2) _ _ _ _)

theorem isSome_saved? (hreusable : rebuild.settings.reusable? directory rebuild.begunAt = none) :
    (rebuild.saved? directory).isSome = rebuild.savesData (rebuild.acquired directory).directory
      (rebuild.settings.afterAcquisition (rebuild.acquired directory)
        (rebuild.acquiredAt directory)) (rebuild.acquired directory).clock := by
  unfold saved? Settings.afterAcquisition
  rw [hreusable]
  cases hempty : (rebuild.acquired directory).table.isEmpty with
  | true =>
      simp only [Option.isSome_none, Bool.false_eq_true, if_false, if_true, savesData]
      rcases rebuild.settings.fallback_origin (rebuild.acquired directory).directory with
        horigin | horigin
      · rw [horigin]
      · rw [horigin]
  | false =>
      simp only [Option.isSome_none, Bool.false_eq_true, if_false, Option.isSome_map, savesData]
      change _ = (rebuild.save (rebuild.acquired directory).directory
        (rebuild.acquiredSnapshot directory) (rebuild.acquired directory).clock).2.isOk
      unfold save acquiredAt
      cases (SnapshotStore.save (rebuild.acquired directory).directory
          rebuild.settings.snapshotPath (rebuild.acquiredSnapshot directory)
          rebuild.settings.version rebuild.settings.extraFingerprint
          (rebuild.wall (rebuild.acquired directory).clock)).2 with
      | error cause => rfl
      | ok metadata => rfl

theorem advance_judging {metadata : Metadata}
    (hread : SnapshotStore.readMetadata directory rebuild.settings.snapshotPath = .ok metadata)
    (hvalid : metadata.invalidity? rebuild.settings.expectation rebuild.begunAt = none) :
    rebuild.advance (directory, .judging) = (directory, .reusing metadata.createdAt) := by
  simp only [advance, hread, hvalid, Option.isSome_none, Bool.false_eq_true, if_false]

/-- Where the snapshot may not be reused, the acquisition follows. -/
theorem finishes_judging {rebuilt : Rebuilt κ} {isSaved : Bool}
    (hreusable : rebuild.settings.reusable? directory rebuild.begunAt = none)
    (hacquiring : ∀ count, rebuild.Finishes (count + 5) (directory, .acquiring) rebuilt isSaved) :
    rebuild.Finishes 7 (directory, .judging) rebuilt isSaved := by
  cases hread : SnapshotStore.readMetadata directory rebuild.settings.snapshotPath with
  | error cause => exact Finishes.of_advance (by simp only [advance, hread]) (hacquiring 1)
  | ok metadata =>
      cases hvalid : metadata.invalidity? rebuild.settings.expectation rebuild.begunAt with
      | some reason =>
          exact Finishes.of_advance
            (by simp only [advance, hread, hvalid, Option.isSome_some, if_true]) (hacquiring 1)
      | none =>
          refine Finishes.of_advance (advance_judging hread hvalid) ?_
          cases hload : SnapshotStore.loadExact directory rebuild.settings.snapshotPath with
          | error cause =>
              exact Finishes.of_advance (by simp only [advance, hload]) (hacquiring 0)
          | ok exact =>
              have hempty : exact.isEmpty = true := by
                by_contra hfilled
                have hreused : rebuild.settings.reusable? directory rebuild.begunAt =
                    some (exact, metadata.createdAt) :=
                  Settings.reusable?_eq_some_iff.mpr
                    ⟨metadata, hread, hvalid, hload, by simpa using hfilled, rfl⟩
                rw [hreusable] at hreused
                cases hreused
              exact Finishes.of_advance (by simp only [advance, hload, hempty, if_true])
                (hacquiring 0)

/-- On its own, a rebuild does step by step what it does as a whole. -/
theorem finishes_result (rebuild : ScheduledRebuild κ) (directory : DataDirectory κ) :
    rebuild.Finishes 7 (directory, .judging) (rebuild.result directory)
      (rebuild.saved? directory).isSome := by
  cases hreusable : rebuild.settings.reusable? directory rebuild.begunAt with
  | some reused =>
      obtain ⟨exact, created⟩ := reused
      obtain ⟨metadata, hread, hvalid, hload, hnonempty, rfl⟩ :=
        Settings.reusable?_eq_some_iff.mp hreusable
      have hfilled : exact.isEmpty = false := Std.ExtTreeMap.isEmpty_eq_false_iff.mpr hnonempty
      have hsaved : (rebuild.saved? directory).isSome = false := by
        simp only [saved?, hreusable, Option.isSome_some, if_true, Option.isSome_none]
      have hreusing : rebuild.advance (directory, .reusing metadata.createdAt) =
          (directory,
            .estimating ⟨exact, .snapshot, some metadata.createdAt⟩ rebuild.clock []) := by
        simp only [advance, hload, hfilled, Bool.false_eq_true, if_false]
      rw [hsaved, result, Settings.rebuild_of_reusable? hreusable]
      exact Finishes.of_advance (advance_judging hread hvalid)
        (Finishes.of_advance hreusing (rebuild.finishes_estimating 3 directory _ _ _))
  | none =>
      have hresult : rebuild.result directory =
          rebuild.settings.publish (rebuild.acquired directory).directory
            (rebuild.settings.afterAcquisition (rebuild.acquired directory)
              (rebuild.acquiredAt directory))
            (rebuild.acquired directory).clock (rebuild.acquired directory).journal
            (rebuild.acquiredAt directory) := by
        unfold result Settings.rebuild
        unfold begunAt at hreusable
        rw [hreusable]
        rfl
      rw [isSome_saved? hreusable, hresult]
      exact finishes_judging hreusable fun count => rebuild.finishes_acquiring count directory

end ScheduledRebuild

/-! ## Imports -/

structure ImportTask (κ : Type) where
  path : String
  confidences : ConfidenceTable κ
  content : Option ByteArray
  now : Instant

/-- What an import does next, with what it has found so far. -/
inductive ImportPhase (κ : Type) where
  /-- Reads its file, and the facts about the snapshot. -/
  | starting
  /-- Reads the exact entries of the snapshot. -/
  | loading (estimates : EstimateTable κ) (facts : Metadata)
  /-- Puts the exact entries and its estimates into the place of the snapshot. -/
  | replacing (snapshot : Snapshot κ) (facts : Metadata)
  | finished (result : Except ImportError Nat)

/-- How many estimates an import has stored, if it did not fail. -/
def ImportPhase.stored? : ImportPhase κ → Option Nat
  | .finished (.ok stored) => some stored
  | _ => none

namespace ImportTask

variable [DatabaseFormat κ]

def result (task : ImportTask κ) (directory : DataDirectory κ) :
    DataDirectory κ × Except ImportError Nat :=
  importEstimates directory task.path task.confidences task.content task.now

def advance (task : ImportTask κ) :
    DataDirectory κ × ImportPhase κ → DataDirectory κ × ImportPhase κ
  | (directory, .starting) =>
    match EstimateSheet.ofFile task.confidences task.content with
    | .error cause => (directory, .finished (.error (.estimates cause)))
    | .ok sheet =>
      if sheet.estimates.isEmpty then (directory, .finished (.error .empty))
      else
        match SnapshotStore.readMetadata directory task.path with
        | .error cause => (directory, .finished (.error (.store cause)))
        | .ok facts => (directory, .loading sheet.estimates facts)
  | (directory, .loading estimates facts) =>
    match SnapshotStore.loadExact directory task.path with
    | .error cause => (directory, .finished (.error (.store cause)))
    | .ok exact =>
      let kept := estimates.without exact
      (directory, .replacing ⟨exact, kept⟩ { facts with estimateCount := kept.size })
  | (directory, .replacing snapshot facts) =>
    let written := SnapshotStore.write directory task.path snapshot facts task.now
    (written.1, .finished ((written.2.map fun _ => facts.estimateCount).mapError .store))
  | (directory, .finished result) => (directory, .finished result)

/-- On its own, an import does step by step what it does as a whole. -/
theorem advance_result (task : ImportTask κ) (directory : DataDirectory κ) :
    task.advance^[3] (directory, .starting) =
      ((task.result directory).1, .finished (task.result directory).2) := by
  change task.advance (task.advance (task.advance (directory, .starting))) = _
  unfold result importEstimates
  cases hsheet : EstimateSheet.ofFile task.confidences task.content with
  | error cause => simp only [advance, hsheet]
  | ok sheet =>
      cases hempty : sheet.estimates.isEmpty with
      | true => simp only [advance, hsheet, hempty, if_true]
      | false =>
          simp only [advance, hsheet, hempty, Bool.false_eq_true, if_false]
          unfold SnapshotStore.replaceEstimates SnapshotStore.withEstimates
          cases hread : SnapshotStore.readMetadata directory task.path with
          | error cause => rfl
          | ok facts =>
              cases hload : SnapshotStore.loadExact directory task.path with
              | error cause => simp [hload, bind, Except.bind, Except.mapError]
              | ok exact => simp [hload, bind, Except.bind, pure, Except.pure]

end ImportTask

end PostalRegions
