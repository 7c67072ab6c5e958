import PostalRegions.Confidence.Rational
import PostalRegions.Lookup.Tables
import PostalRegions.Proofs.Estimate.Reading

/-!
# Finding the rows of a sheet of estimates

The country and the postal code of an accepted row, spelled as they are in the sheet, ask for the
key under which the row is filed.  Unless an exact entry has this key, the answer is what the last
accepted row with it says.
-/

namespace PostalRegions

variable {κ : Type} [Confidence κ]

theorem LookupTables.lookup_of_estimate {exact : ExactTable} {estimates : EstimateTable κ}
    {policy : ApproximationPolicy κ} {country postalCode : String} {key : EntryKey}
    {estimate : Estimate κ} (hquery : EntryKey.ofQuery? country postalCode = some key)
    (hexact : key ∉ exact) (hestimate : estimates[key]? = some estimate) :
    (LookupTables.ofTables exact estimates policy).lookup country postalCode =
      some (.ofEstimate estimate) := by
  have hnone : exact[key]? = none := Std.ExtTreeMap.getElem?_eq_none hexact
  unfold lookup
  rw [hquery, Option.bind_some]
  unfold find? ofTables
  simp only [hnone, hestimate]

/-- An accepted row is found by its own country and postal code, and the last accepted row with the
same key answers. -/
theorem EstimateSheet.lookup_of_accepts {confidences : ConfidenceTable κ} {text : String}
    {sheet : EstimateSheet κ} {columns : EstimateColumns} {row : Delimited.Record}
    {key : EntryKey} {label : ConfidenceLabel} {exact : ExactTable}
    (hread : EstimateSheet.read confidences text = .ok sheet)
    (hcolumns : EstimateColumns.resolve (columnNames (Delimited.Sheet.read text)) = .ok columns)
    (hrow : row ∈ (Delimited.Sheet.read text).rows) (haccepts : columns.Accepts row key label)
    (hexact : key ∉ exact) (policy : ApproximationPolicy κ) :
    ∃ earlier last later lastLabel,
      (Delimited.Sheet.read text).rows = earlier ++ last :: later ∧
      columns.Accepts last key lastLabel ∧
      (∀ other ∈ later, ∀ label, ¬ columns.Accepts other key label) ∧
      (LookupTables.ofTables exact sheet.estimates policy).lookup
          (Delimited.fieldAt row columns.country) (Delimited.fieldAt row columns.postal) =
        some ⟨.estimated, Text.trim (Delimited.fieldAt last columns.level1),
          Text.trim (Delimited.fieldAt last columns.level2),
          Text.trim (Delimited.fieldAt last columns.level3), confidences.forLabel lastLabel⟩ := by
  have hquery : EntryKey.ofQuery? (Delimited.fieldAt row columns.country)
      (Delimited.fieldAt row columns.postal) = some key :=
    (EstimateColumns.accepts_iff.mp haccepts).2.1
  have hfiled : EstimateReading.fileRow confidences columns row =
      some (key, columns.estimateOf row (confidences.forLabel label)) :=
    EstimateReading.fileRow_eq_some_iff.mpr ⟨label, haccepts, rfl⟩
  obtain ⟨_, hresolved, hestimates⟩ := read_eq_ok hread
  rw [hcolumns] at hresolved
  cases hresolved
  obtain ⟨estimate, hestimate⟩ := Table.exists_getElem?_ofList_filterMap hrow hfiled
  obtain ⟨earlier, last, later, hrows, hlast, hlater⟩ :=
    Table.getElem?_ofList_filterMap_eq_some_iff.mp hestimate
  obtain ⟨lastLabel, hlastAccepts, rfl⟩ := EstimateReading.fileRow_eq_some_iff.mp hlast
  refine ⟨earlier, last, later, lastLabel, hrows, hlastAccepts, ?_, ?_⟩
  · intro other hother otherLabel hotherAccepts
    exact hlater other hother _
      (EstimateReading.fileRow_eq_some_iff.mpr ⟨otherLabel, hotherAccepts, rfl⟩)
  · rw [← hestimates] at hestimate
    exact LookupTables.lookup_of_estimate hquery hexact hestimate

/-- A sheet with two spellings of one key. -/
def respelledSheet : String :=
  "COUNTRY_CODE,POSTAL_CODE,ESTIMATED_LEVEL3,ESTIMATED_LEVEL2,ESTIMATED_LEVEL1,CONFIDENCE\n" ++
    " gr,105 57,EL301,EL30,EL3,high\nEL,10557, EL302,EL30,EL3,Low\n"

theorem respelledSheet_lookup :
    ∃ sheet : EstimateSheet Rat, EstimateSheet.read .standard respelledSheet = .ok sheet ∧
      (LookupTables.ofTables ∅ sheet.estimates .standard).lookup " gr" "105 57" =
        some ⟨.estimated, "EL3", "EL30", "EL302", ConfidenceTable.standard.low⟩ := by
  let first : Delimited.Record := [" gr", "105 57", "EL301", "EL30", "EL3", "high"]
  let second : Delimited.Record := ["EL", "10557", " EL302", "EL30", "EL3", "Low"]
  let columns : EstimateColumns := ⟨0, 1, 2, 3, 4, 5⟩
  let key : EntryKey := ⟨Country.greece, "10557"⟩
  have hcolumns : EstimateColumns.resolve
      (EstimateSheet.columnNames (Delimited.Sheet.read respelledSheet)) = .ok columns := by
    decide +kernel
  have hrows : (Delimited.Sheet.read respelledSheet).rows = [first, second] := by decide +kernel
  have hfirst : columns.Accepts first key .high :=
    EstimateColumns.accepts_iff.mpr (by decide +kernel)
  have hsecond : columns.Accepts second key .low :=
    EstimateColumns.accepts_iff.mpr (by decide +kernel)
  have hcells : Text.trim (Delimited.fieldAt second columns.level1) = "EL3" ∧
      Text.trim (Delimited.fieldAt second columns.level2) = "EL30" ∧
      Text.trim (Delimited.fieldAt second columns.level3) = "EL302" := by
    decide +kernel
  have hmember : first ∈ (Delimited.Sheet.read respelledSheet).rows := by
    rw [hrows]
    exact List.mem_cons_self
  have hfree : key ∉ (∅ : ExactTable) := Std.ExtTreeMap.not_mem_empty
  cases hread : EstimateSheet.read (.standard : ConfidenceTable Rat) respelledSheet with
  | error cause =>
      rw [EstimateSheet.read, hcolumns] at hread
      cases hread
  | ok sheet =>
      refine ⟨sheet, rfl, ?_⟩
      obtain ⟨earlier, last, later, label, hsplit, hlast, hlater, hlookup⟩ :=
        EstimateSheet.lookup_of_accepts hread hcolumns hmember hfirst hfree .standard
      have hlastRow : last = second := by
        rw [hrows] at hsplit
        cases earlier with
        | nil =>
            have hlaterRows : [second] = later := (List.cons.inj hsplit).2
            rw [← hlaterRows] at hlater
            exact absurd hsecond (hlater second List.mem_cons_self .low)
        | cons before rest =>
            have hrest : [second] = rest ++ last :: later := (List.cons.inj hsplit).2
            cases rest with
            | nil => exact (List.cons.inj hrest).1.symm
            | cons other more => simp at hrest
      subst hlastRow
      have hlabel : label = .low := Option.some.inj (hlast.known.symm.trans hsecond.known)
      rw [hcells.1, hcells.2.1, hcells.2.2, hlabel] at hlookup
      exact hlookup

end PostalRegions
