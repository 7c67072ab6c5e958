import PostalRegions.Confidence.Rational
import PostalRegions.Proofs.Calendar.Rfc3339
import PostalRegions.Proofs.Snapshot.Reading
import PostalRegions.Proofs.Snapshot.Writing
import PostalRegions.Snapshot.Pages
import Std.Data.String.ToNat

/-!
# Saving and loading again

A snapshot that was saved is loaded as it was, together with the facts that saving it answered,
whatever its size and whatever lay there before, unless an exact entry has an empty code, which
loading would pass over.  The facts that saving answered are read back only as long as the clock
shows a year of four digits.
-/

namespace PostalRegions.SnapshotStore

variable {κ : Type} [DatabaseFormat κ] {directory next : DataDirectory κ}
  {path version fingerprint : String} {snapshot : Snapshot κ} {now : Instant}
  {metadata : Metadata}

/-- A moment in a year of more digits is written in a way that is not read again. -/
theorem load_and_readMetadata_of_save (hcodes : ∀ key ∈ snapshot.exact, key.code ≠ "")
    (hproper : now.IsProper)
    (hsave : save directory path snapshot version fingerprint now = (next, .ok metadata)) :
    metadata = metadataOf snapshot version fingerprint now ∧
      load next path = .ok snapshot ∧
      (readMetadata next path = .ok metadata ↔
        now.HasFourDigitYear ∧ snapshot.exact.size < Text.countBound ∧
          snapshot.estimates.size < Text.countBound) := by
  obtain ⟨rfl, hfile⟩ := file?_of_save hsave
  refine ⟨rfl, ?_, ?_⟩
  · unfold load
    rw [loadExact_of_file? hfile hcodes, loadEstimates_of_file? hfile]
    rfl
  · rw [readMetadata_eq_ok_iff hfile]
    simp only [Instant.parse?_written_iff hproper, Metadata.eq_readBack_iff, metadataOf]
    constructor
    · rintro ⟨created, ⟨hyear, _⟩, hexact, _, hestimates⟩
      exact ⟨hyear, hexact, hestimates⟩
    · rintro ⟨hyear, hexact, hestimates⟩
      exact ⟨now, ⟨hyear, rfl⟩, hexact, rfl, hestimates⟩

/-- Entries of one country under the numbers below a bound. -/
def numberedEntries {β : Type} (count : Nat) (value : β) : Table β :=
  .ofList ((List.range count).map fun number =>
    (EntryKey.mk ⟨"FI", by decide⟩ (toString number), value))

theorem size_numberedEntries {β : Type} (count : Nat) (value : β) :
    (numberedEntries count value).size = count := by
  unfold numberedEntries
  rw [Std.ExtTreeMap.size_ofList, List.length_map, List.length_range]
  rw [List.pairwise_map]
  apply List.nodup_range.imp
  intro number other hne hcompare
  have hkeys := Std.compare_eq_iff_eq.mp hcompare
  exact hne (Nat.repr_injective (congrArg EntryKey.code hkeys))

theorem code_ne_empty_of_mem_numberedEntries {β : Type} {count : Nat} {value : β} {key : EntryKey}
    (hkey : key ∈ numberedEntries count value) : key.code ≠ "" := by
  unfold numberedEntries at hkey
  rw [Std.ExtTreeMap.mem_ofList, List.contains_iff_mem, List.map_map] at hkey
  obtain ⟨number, _, rfl⟩ := List.mem_map.mp hkey
  intro hempty
  have hdigits := congrArg String.toList hempty
  simp at hdigits

/-- One exact entry more than a statement inserts, and as many estimates as a statement inserts. -/
def numberedSnapshot : Snapshot Rat where
  exact := numberedEntries (exactChunkSize + 1) ⟨"FI1B1", by decide⟩
  estimates := numberedEntries estimateChunkSize ⟨"FI1", "FI1B", "FI1B1", ⟨9 / 10, 1 / 2, 0⟩⟩

/-- A directory in which there is an older snapshot already. -/
def olderDirectory : DataDirectory Rat :=
  (save .empty "data/regions.db" ⟨∅, ∅⟩ "2021" "" (.sinceEpoch 1600000000 0)).1

/-- The first moment of the year 10000. -/
def lateMoment : Instant :=
  ⟨daysBeforeYear 10000 * secondsPerDay, 0⟩

theorem exists_save_numberedSnapshot (now : Instant)
    (hsaved : (save olderDirectory "data/regions.db" numberedSnapshot "2024" "" now).2.isOk) :
    ∃ next metadata,
      save olderDirectory "data/regions.db" numberedSnapshot "2024" "" now =
        (next, .ok metadata) := by
  cases hsave : save olderDirectory "data/regions.db" numberedSnapshot "2024" "" now with
  | mk next result =>
      cases result with
      | error cause =>
          rw [hsave] at hsaved
          cases hsaved
      | ok metadata => exact ⟨next, metadata, rfl⟩

/-- A snapshot that is read back with its facts, and without them if it is saved too late. -/
theorem load_numberedSnapshot :
    olderDirectory.isFile "data/regions.db" = true ∧
      (∀ key ∈ numberedSnapshot.exact, key.code ≠ "") ∧
      (∃ next metadata,
        save olderDirectory "data/regions.db" numberedSnapshot "2024" ""
          (.sinceEpoch 1700000000 5) = (next, .ok metadata) ∧
        metadata.exactCount = exactChunkSize + 1 ∧ metadata.estimateCount = estimateChunkSize ∧
        load next "data/regions.db" = .ok numberedSnapshot ∧
        readMetadata next "data/regions.db" = .ok metadata) ∧
      ∃ next metadata,
        save olderDirectory "data/regions.db" numberedSnapshot "2024" "" lateMoment =
          (next, .ok metadata) ∧
        load next "data/regions.db" = .ok numberedSnapshot ∧
        readMetadata next "data/regions.db" ≠ .ok metadata := by
  have hcodes : ∀ key ∈ numberedSnapshot.exact, key.code ≠ "" :=
    fun _ => code_ne_empty_of_mem_numberedEntries
  have hexact : numberedSnapshot.exact.size = exactChunkSize + 1 := size_numberedEntries _ _
  have hestimates : numberedSnapshot.estimates.size = estimateChunkSize :=
    size_numberedEntries _ _
  have hsizes : numberedSnapshot.exact.size < Text.countBound ∧
      numberedSnapshot.estimates.size < Text.countBound := by
    rw [hexact, hestimates]
    decide
  refine ⟨by decide +kernel, hcodes, ?_, ?_⟩
  · have hclock : (Instant.sinceEpoch 1700000000 5).IsProper ∧
        (Instant.sinceEpoch 1700000000 5).HasFourDigitYear := by
      decide +kernel
    obtain ⟨next, metadata, hsave⟩ :=
      exists_save_numberedSnapshot (.sinceEpoch 1700000000 5) (by decide +kernel)
    obtain ⟨hmetadata, hload, hread⟩ := load_and_readMetadata_of_save hcodes hclock.1 hsave
    refine ⟨next, metadata, hsave, ?_, ?_, hload, hread.mpr ⟨hclock.2, hsizes⟩⟩
    · simp only [hmetadata, metadataOf, hexact]
    · simp only [hmetadata, metadataOf, hestimates]
  · have hproper : lateMoment.IsProper := by decide +kernel
    have hlate : ¬ lateMoment.HasFourDigitYear := by decide +kernel
    obtain ⟨next, metadata, hsave⟩ :=
      exists_save_numberedSnapshot lateMoment (by decide +kernel)
    obtain ⟨_, hload, hread⟩ := load_and_readMetadata_of_save hcodes hproper hsave
    exact ⟨next, metadata, hsave, hload, fun hfound => hlate (hread.mp hfound).1⟩

end PostalRegions.SnapshotStore
