import PostalRegions.Dataset.Import
import PostalRegions.Proofs.Snapshot.Reading
import PostalRegions.Proofs.Snapshot.Writing

/-!
# The course of an import

An import reads the operator's file and the snapshot, and puts one new file into place.  Before
that it can fail at any point, and then it leaves the directory as it was.
-/

namespace PostalRegions

variable {κ : Type} [DatabaseFormat κ]

/-- An import whose snapshot file is put into place in a way of its own. -/
def importWith (put : Content κ → DataDirectory κ × Except StoreError Unit)
    (directory : DataDirectory κ) (path : String) (confidences : ConfidenceTable κ)
    (content : Option ByteArray) : DataDirectory κ × Except ImportError Nat :=
  match EstimateSheet.ofFile confidences content with
  | .error cause => (directory, .error (.estimates cause))
  | .ok sheet =>
    if sheet.estimates.isEmpty then (directory, .error .empty)
    else
      match SnapshotStore.withEstimates directory path sheet.estimates with
      | .error cause => (directory, .error (.store cause))
      | .ok (snapshot, metadata) =>
        let (directory, result) := put (.database (.ofSnapshot snapshot metadata))
        (directory, (result.map fun _ => metadata.estimateCount).mapError .store)

theorem importEstimates_eq_importWith (directory : DataDirectory κ) (path : String)
    (confidences : ConfidenceTable κ) (content : Option ByteArray) (now : Instant) :
    importEstimates directory path confidences content now =
      importWith (fun file => SnapshotStore.place directory path file now) directory path
        confidences content := by
  unfold importEstimates importWith SnapshotStore.replaceEstimates
  simp only [SnapshotStore.write_eq_place]
  cases EstimateSheet.ofFile confidences content with
  | error cause => rfl
  | ok sheet =>
      dsimp only
      split
      · rfl
      · cases SnapshotStore.withEstimates directory path sheet.estimates with
        | error cause => rfl
        | ok found => rfl

/-- What an import reads that does not fail, and the snapshot that it makes of it. -/
structure ImportReads (directory : DataDirectory κ) (path : String)
    (confidences : ConfidenceTable κ) (content : Option ByteArray) (sheet : EstimateSheet κ)
    (snapshot : Snapshot κ) (facts : Metadata) : Prop where
  file : EstimateSheet.ofFile confidences content = .ok sheet
  nonempty : sheet.estimates ≠ ∅
  metadata : SnapshotStore.readMetadata directory path = .ok facts
  exact : SnapshotStore.loadExact directory path = .ok snapshot.exact
  kept : snapshot.estimates = sheet.estimates.without snapshot.exact

variable {put : Content κ → DataDirectory κ × Except StoreError Unit}
  {directory next : DataDirectory κ} {path : String} {confidences : ConfidenceTable κ}
  {content : Option ByteArray}

/-- An import fails before anything is put into place, or because that fails. -/
theorem error_of_importWith {cause : ImportError}
    (himport : importWith put directory path confidences content = (next, .error cause)) :
    next = directory ∨ ∃ file cause, put file = (next, .error cause) := by
  unfold importWith at himport
  split at himport
  · cases himport
    exact Or.inl rfl
  · split at himport
    · cases himport
      exact Or.inl rfl
    · split at himport
      · cases himport
        exact Or.inl rfl
      · rename_i snapshot metadata _
        right
        cases hput : put (.database (.ofSnapshot snapshot metadata)) with
        | mk placed result =>
            rw [hput] at himport
            cases result with
            | error fault =>
                cases himport
                exact ⟨_, fault, hput⟩
            | ok done => simp [Except.map, Except.mapError] at himport

/-- What is put into place by an import that does not fail. -/
theorem ok_of_importWith {stored : Nat}
    (himport : importWith put directory path confidences content = (next, .ok stored)) :
    ∃ sheet snapshot facts,
      ImportReads directory path confidences content sheet snapshot facts ∧
      stored = snapshot.estimates.size ∧
      put (.database (.ofSnapshot snapshot { facts with estimateCount := stored })) =
        (next, .ok ()) := by
  unfold importWith at himport
  split at himport
  · cases himport
  · rename_i sheet hsheet
    split at himport
    · cases himport
    · rename_i hnonempty
      split at himport
      · cases himport
      · rename_i snapshot metadata hwith
        obtain ⟨facts, hread, hload, hkept, rfl⟩ := SnapshotStore.withEstimates_eq_ok_iff.mp hwith
        refine ⟨sheet, snapshot, facts,
          ⟨hsheet, by simpa using hnonempty, hread, hload, hkept⟩, ?_⟩
        cases hput : put (.database (.ofSnapshot snapshot
            { facts with estimateCount := snapshot.estimates.size })) with
        | mk placed result =>
            rw [hput] at himport
            cases result with
            | error fault => simp [Except.map, Except.mapError] at himport
            | ok done =>
                simp only [Except.map, Except.mapError, Prod.mk.injEq, Except.ok.injEq] at himport
                obtain ⟨rfl, rfl⟩ := himport
                exact ⟨rfl, hput⟩

variable {now : Instant}

theorem ok_of_importEstimates {stored : Nat}
    (himport : importEstimates directory path confidences content now = (next, .ok stored)) :
    ∃ sheet snapshot facts,
      ImportReads directory path confidences content sheet snapshot facts ∧
      stored = snapshot.estimates.size ∧
      SnapshotStore.place directory path
          (.database (.ofSnapshot snapshot { facts with estimateCount := stored })) now =
        (next, .ok ()) := by
  rw [importEstimates_eq_importWith] at himport
  exact ok_of_importWith himport

/-- What all files have in common they keep, if the snapshot that an import makes has it, too. -/
theorem everyFile_importEstimates {property : Storage.Place → Content κ → Prop}
    (hevery : directory.EveryFile property)
    (hwritten : ∀ next sheet snapshot facts,
      importEstimates directory path confidences content now =
        (next, .ok snapshot.estimates.size) →
      ImportReads directory path confidences content sheet snapshot facts →
        ∀ here, property here (.database (.ofSnapshot snapshot
          { facts with estimateCount := snapshot.estimates.size }))) :
    (importEstimates directory path confidences content now).1.EveryFile property := by
  cases himport : importEstimates directory path confidences content now with
  | mk next result =>
      cases result with
      | error cause =>
          rw [importEstimates_eq_importWith] at himport
          rcases error_of_importWith himport with rfl | ⟨file, fault, hplace⟩
          · exact hevery
          · exact hevery.of_sameFiles (SnapshotStore.sameFiles_of_place hplace)
      | ok stored =>
          obtain ⟨sheet, snapshot, facts, hreads, rfl, hplace⟩ := ok_of_importEstimates himport
          exact hevery.of_fileWritten (SnapshotStore.fileWritten_of_place hplace)
            (hwritten next sheet snapshot facts himport hreads _)

end PostalRegions
