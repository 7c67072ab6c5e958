import PostalRegions.Archive.Directory
import PostalRegions.Snapshot.Store

/-!
# Cached archives

Archives that were downloaded are kept in a folder of the data directory, under the names of
their files.  A copy that is too old or no archive is removed when it is looked for.
-/

namespace PostalRegions

structure ArchiveCache where
  folder : String
  /-- From which age on, in seconds, a copy is too old. -/
  timeToLive : Nat

inductive CachedCopy where
  | absent
  | unusable
  | usable (content : ByteArray)

namespace ArchiveCache

variable {κ : Type} [DatabaseFormat κ]

/-- The age, in seconds, from which on copies are too old unless another one is set. -/
def standardTimeToLive : Nat :=
  30 * secondsPerDay

def pathOf (cache : ArchiveCache) (name : String) : String :=
  Storage.join cache.folder name

/-- Whether a copy that was made at a moment is too old.  A copy from the future is new. -/
def isOutdated (cache : ArchiveCache) (modified now : Instant) : Bool :=
  cache.timeToLive * nanosPerSecond ≤ (now.since modified).toNat

def find (cache : ArchiveCache) (directory : DataDirectory κ) (name : String) (now : Instant) :
    CachedCopy :=
  match directory.file? (cache.pathOf name) with
  | none => .absent
  | some (content, modified) =>
    if cache.isOutdated modified now then .unusable
    else if Archive.isReadable content.toBytes then .usable content.toBytes
    else .unusable

/-- Looks for a copy, and removes it if it cannot be used. -/
def load (cache : ArchiveCache) (directory : DataDirectory κ) (name : String) (now : Instant) :
    DataDirectory κ × CachedCopy :=
  let copy := cache.find directory name now
  match copy with
  | .unusable => (directory.remove (cache.pathOf name), copy)
  | _ => (directory, copy)

/-- Keeps a copy; tells whether it could be written. -/
def save (cache : ArchiveCache) (directory : DataDirectory κ) (name : String)
    (content : ByteArray) (now : Instant) : DataDirectory κ × Bool :=
  match directory.makeFolders cache.folder with
  | (directory, false) => (directory, false)
  | (directory, true) =>
    match directory.write? (cache.pathOf name) (.plain content) now with
    | some directory => (directory, true)
    | none => (directory, false)

end ArchiveCache

end PostalRegions
