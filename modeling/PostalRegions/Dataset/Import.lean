import PostalRegions.Estimate.Sheet
import PostalRegions.Snapshot.Store

/-!
# Importing estimates

An operator may replace the estimates of a snapshot while the service is not running.  The exact
entries and the facts about the snapshot stay.
-/

namespace PostalRegions

inductive ImportError where
  | estimates (cause : EstimateError)
  | empty
  | store (cause : StoreError)
deriving DecidableEq, Repr

/-- Replaces the estimates of the snapshot at a path by those in a file, if the file is there;
answers how many are stored. -/
def importEstimates {κ : Type} [DatabaseFormat κ] (directory : DataDirectory κ) (path : String)
    (confidences : ConfidenceTable κ) (content : Option ByteArray) (now : Instant) :
    DataDirectory κ × Except ImportError Nat :=
  match EstimateSheet.ofFile confidences content with
  | .error cause => (directory, .error (.estimates cause))
  | .ok sheet =>
    if sheet.estimates.isEmpty then (directory, .error .empty)
    else
      let (directory, result) :=
        SnapshotStore.replaceEstimates directory path sheet.estimates now
      (directory, result.mapError .store)

end PostalRegions
