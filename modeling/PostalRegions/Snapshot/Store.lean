import PostalRegions.Snapshot.Filling
import PostalRegions.Storage.Directory

/-!
# The snapshot file

A snapshot lies in one file of the data directory.  The file is never changed in place: every
write builds a complete new one and puts it where the old one was.
-/

namespace PostalRegions

/-- How a database lies in the bytes of a file. -/
class DatabaseFormat (κ : Type) where
  read? : ByteArray → Option (Database κ)
  write : Database κ → ByteArray

/-- Bytes are compared in one way, whatever other ways are in scope. -/
instance (priority := high) decidableEqBytes : DecidableEq ByteArray :=
  ByteArray.instDecidableEq

/-- What a file holds: bytes from elsewhere, or a database as it was stored here. -/
inductive Content (κ : Type) where
  | plain (bytes : ByteArray)
  | database (database : Database κ)
deriving DecidableEq

abbrev DataDirectory (κ : Type) := Storage.Directory (Content κ)

namespace Content

variable {κ : Type} [DatabaseFormat κ]

def toBytes : Content κ → ByteArray
  | .plain bytes => bytes
  | .database tables => DatabaseFormat.write tables

/-- The tables in a file.  A file from elsewhere is judged by its bytes; an empty one has no
tables. -/
def database? : Content κ → Option (Database κ)
  | .plain bytes => if bytes.isEmpty then some .blank else DatabaseFormat.read? bytes
  | .database tables => some tables

end Content

inductive StoreError where
  | missing
  /-- The file is no snapshot, or lacks a table. -/
  | database
  | io
  | metadata (cause : MetadataError)
deriving DecidableEq, Repr

namespace SnapshotStore

variable {κ : Type}

/-! ## Writing -/

/-- Puts a file where a snapshot lies, in a folder that is made if need be. -/
def place (directory : DataDirectory κ) (path : String) (content : Content κ) (now : Instant) :
    DataDirectory κ × Except StoreError Unit :=
  match directory.makeFolders (Storage.parent path) with
  | (directory, false) => (directory, .error .io)
  | (directory, true) =>
    match directory.write? path content now with
    | some directory => (directory, .ok ())
    | none => (directory, .error .io)

def write (directory : DataDirectory κ) (path : String) (snapshot : Snapshot κ)
    (metadata : Metadata) (now : Instant) : DataDirectory κ × Except StoreError Unit :=
  place directory path (.database (.fill snapshot metadata)) now

theorem write_eq_place (directory : DataDirectory κ) (path : String) (snapshot : Snapshot κ)
    (metadata : Metadata) (now : Instant) :
    write directory path snapshot metadata now =
      place directory path (.database (.ofSnapshot snapshot metadata)) now := by
  rw [write, Database.fill_eq_ofSnapshot]

def metadataOf (snapshot : Snapshot κ) (version fingerprint : String) (now : Instant) :
    Metadata where
  version := version
  createdAt := now
  exactCount := snapshot.exact.size
  estimateCount := snapshot.estimates.size
  fingerprint := fingerprint

def save (directory : DataDirectory κ) (path : String) (snapshot : Snapshot κ)
    (version fingerprint : String) (now : Instant) :
    DataDirectory κ × Except StoreError Metadata :=
  let metadata := metadataOf snapshot version fingerprint now
  let (directory, result) := write directory path snapshot metadata now
  (directory, result.map fun _ => metadata)

/-! ## Reading -/

variable [DatabaseFormat κ]

/-- The tables of the snapshot file at a path. -/
def open? (directory : DataDirectory κ) (path : String) : Except StoreError (Database κ) :=
  match directory.file? path with
  | none => .error .missing
  | some (content, _) =>
    match content.database? with
    | some database => .ok database
    | none => .error .database

def tableOf {α : Type} (table : Option α) : Except StoreError α :=
  match table with
  | some rows => .ok rows
  | none => .error .database

def readMetadata (directory : DataDirectory κ) (path : String) : Except StoreError Metadata := do
  let database ← open? directory path
  let rows ← tableOf database.metadata
  let pairs ← tableOf (Database.pairsOf? rows)
  (Metadata.ofPairs pairs).mapError .metadata

def loadExact (directory : DataDirectory κ) (path : String) : Except StoreError ExactTable := do
  let database ← open? directory path
  return Database.exactOf (← tableOf database.exact)

def loadEstimates (directory : DataDirectory κ) (path : String) :
    Except StoreError (EstimateTable κ) := do
  let database ← open? directory path
  return Database.estimatesOf (← tableOf database.estimates)

def load (directory : DataDirectory κ) (path : String) : Except StoreError (Snapshot κ) := do
  let exact ← loadExact directory path
  let estimates ← loadEstimates directory path
  return ⟨exact, estimates⟩

/-! ## Replacing estimates -/

/-- The snapshot with other estimates, and the facts about it.  Estimates with an exact entry are
left out; all else is as before. -/
def withEstimates (directory : DataDirectory κ) (path : String) (estimates : EstimateTable κ) :
    Except StoreError (Snapshot κ × Metadata) := do
  let metadata ← readMetadata directory path
  let exact ← loadExact directory path
  let kept := estimates.without exact
  return (⟨exact, kept⟩, { metadata with estimateCount := kept.size })

/-- Replaces the estimates of the snapshot; answers how many are stored. -/
def replaceEstimates (directory : DataDirectory κ) (path : String) (estimates : EstimateTable κ)
    (now : Instant) : DataDirectory κ × Except StoreError Nat :=
  match withEstimates directory path estimates with
  | .error cause => (directory, .error cause)
  | .ok (snapshot, metadata) =>
    let (directory, result) := write directory path snapshot metadata now
    (directory, result.map fun _ => metadata.estimateCount)

end SnapshotStore

end PostalRegions
