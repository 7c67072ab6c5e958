import PostalRegions.Acquisition.Run
import PostalRegions.Configuration.Settings
import PostalRegions.Dataset.Generation
import PostalRegions.Estimate.Sheet

/-!
# Rebuilding the dataset

A rebuild makes the next generation.  The exact table comes from a snapshot that may be reused,
else from an acquisition, else from whatever the snapshot holds.  Estimates come from the
operator's file, else from the snapshot.  No failure ends a rebuild.
-/

namespace PostalRegions

inductive ExactOrigin where
  | snapshot
  /-- An acquisition, which the deadline may have cut short. -/
  | acquired (timedOut : Bool)
  /-- A snapshot in place of an acquisition without data. -/
  | staleSnapshot
  | empty
deriving DecidableEq, Repr

/-- Whether data of this origin is partial, or older than it could be. -/
def ExactOrigin.isStale : ExactOrigin → Bool
  | .snapshot => false
  | .acquired timedOut => timedOut
  | .staleSnapshot => true
  | .empty => true

structure ExactData where
  table : ExactTable
  origin : ExactOrigin
  loadedAt : Option Instant

structure Rebuilt (κ : Type) where
  generation : Generation κ
  origin : ExactOrigin
  directory : DataDirectory κ
  clock : Nat
  journal : List AcquisitionEvent

namespace Settings

variable {κ : Type} [DatabaseFormat κ]

/-! ## The exact table -/

/-- The exact table of the snapshot, if the snapshot may be reused, and the moment at which it
was made. -/
def reusable? (settings : Settings κ) (directory : DataDirectory κ) (now : Instant) :
    Option (ExactTable × Instant) := do
  let metadata ← (SnapshotStore.readMetadata directory settings.snapshotPath).toOption
  if (metadata.invalidity? settings.expectation now).isSome then none
  else
    let exact ← (SnapshotStore.loadExact directory settings.snapshotPath).toOption
    if exact.isEmpty then none else some (exact, metadata.createdAt)

def acquisition (settings : Settings κ) (fetcher : Fetcher) (clock : Nat) (wall : WallClock) :
    AcquisitionTask where
  plan :=
    { baseAddress := settings.baseAddress
      version := settings.version
      countries := settings.countries
      extraAddresses := settings.extraAddresses
      deadline := some (clock + 1000 * settings.startupTimeout) }
  fetcher := fetcher
  cache := ⟨settings.archiveFolder, settings.timeToLive⟩
  wall := wall

/-- Whatever the snapshot holds. -/
def fallback (settings : Settings κ) (directory : DataDirectory κ) : ExactData :=
  match SnapshotStore.loadExact directory settings.snapshotPath with
  | .error _ => ⟨∅, .empty, none⟩
  | .ok exact =>
    if exact.isEmpty then ⟨∅, .empty, none⟩
    else
      let metadata := SnapshotStore.readMetadata directory settings.snapshotPath
      ⟨exact, .staleSnapshot, metadata.toOption.map (·.createdAt)⟩

def afterAcquisition (settings : Settings κ) (state : AcquisitionState κ) (now : Instant) :
    ExactData :=
  if state.table.isEmpty then settings.fallback state.directory
  else ⟨state.table, .acquired state.report.timedOut, some now⟩

/-! ## Estimates -/

def operatorEstimates? (settings : Settings κ) (directory : DataDirectory κ) :
    Option (EstimateTable κ) := do
  let (content, _) ← directory.file? settings.estimateFile
  let sheet ← (EstimateSheet.ofFile settings.confidenceTable (some content.toBytes)).toOption
  if sheet.estimates.isEmpty then none else some sheet.estimates

/-- The estimates from the operator's file, else from the snapshot. -/
def estimates (settings : Settings κ) (directory : DataDirectory κ) : EstimateTable κ :=
  match settings.operatorEstimates? directory with
  | some estimates => estimates
  | none => ((SnapshotStore.loadEstimates directory settings.snapshotPath).toOption).getD ∅

/-! ## The generation -/

def saveAcquired (settings : Settings κ) (directory : DataDirectory κ) (origin : ExactOrigin)
    (snapshot : Snapshot κ) (now : Instant) : DataDirectory κ :=
  match origin with
  | .acquired _ =>
    (SnapshotStore.save directory settings.snapshotPath snapshot settings.version
      settings.extraFingerprint now).1
  | _ => directory

def generationOf (settings : Settings κ) (data : ExactData) (snapshot : Snapshot κ) :
    Generation κ where
  tables := .ofTables snapshot.exact snapshot.estimates settings.policy
  status :=
    { loadedCountries := Table.countries snapshot.exact
      isStale := data.origin.isStale
      loadedAt := data.loadedAt
      extraSourceCount := settings.extraAddresses.length }

def publish (settings : Settings κ) (directory : DataDirectory κ) (data : ExactData)
    (clock : Nat) (journal : List AcquisitionEvent) (now : Instant) : Rebuilt κ :=
  let estimates := (settings.estimates directory).without data.table
  let snapshot : Snapshot κ := ⟨data.table, estimates⟩
  { generation := settings.generationOf data snapshot
    origin := data.origin
    directory := settings.saveAcquired directory data.origin snapshot now
    clock := clock
    journal := journal }

def rebuild (settings : Settings κ) (fetcher : Fetcher) (directory : DataDirectory κ)
    (clock : Nat) (wall : WallClock) : Rebuilt κ :=
  match settings.reusable? directory (wall clock) with
  | some (exact, createdAt) =>
    settings.publish directory ⟨exact, .snapshot, some createdAt⟩ clock [] (wall clock)
  | none =>
    let state := (settings.acquisition fetcher clock wall).run directory clock
    let now := wall state.clock
    settings.publish state.directory (settings.afterAcquisition state now) state.clock
      state.journal now

end Settings

end PostalRegions
