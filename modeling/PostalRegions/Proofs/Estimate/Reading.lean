import PostalRegions.Estimate.Sheet
import PostalRegions.Proofs.Entry.Listing
import PostalRegions.Proofs.Postal.Canonical
import PostalRegions.Proofs.Postal.Spelling

/-!
# What a sheet of estimates files

A row is accepted if its label is known, its country is valid and its key is not empty.  A sheet
files, under each key, what the last accepted row with this key says.
-/

namespace PostalRegions

variable {κ : Type}

/-! ## Rows -/

theorem ConfidenceLabel.parse?_trim (text : String) : parse? (Text.trim text) = parse? text := by
  unfold parse?
  rw [Text.trim_trim]

namespace EstimateColumns

/-- A row is accepted under a key and with a label. -/
structure Accepts (columns : EstimateColumns) (row : Delimited.Record) (key : EntryKey)
    (label : ConfidenceLabel) : Prop where
  known : ConfidenceLabel.parse? (Delimited.fieldAt row columns.confidence) = some label
  filed : ∃ country, Country.parseLoose (Delimited.fieldAt row columns.country) = .ok country ∧
    EntryKey.ofPostalCode country.provider (Delimited.fieldAt row columns.postal) = key
  nonempty : key.code ≠ ""

/-- The estimate that the cells of a row give, with the confidences of its label. -/
def estimateOf (columns : EstimateColumns) (row : Delimited.Record)
    (confidences : Confidences κ) : Estimate κ where
  level1 := Text.trim (Delimited.fieldAt row columns.level1)
  level2 := Text.trim (Delimited.fieldAt row columns.level2)
  level3 := Text.trim (Delimited.fieldAt row columns.level3)
  confidences := confidences

variable {columns : EstimateColumns} {row : Delimited.Record} {key : EntryKey}
  {label : ConfidenceLabel}

theorem accepts_iff :
    columns.Accepts row key label ↔
      ConfidenceLabel.parse? (Delimited.fieldAt row columns.confidence) = some label ∧
      EntryKey.ofQuery? (Delimited.fieldAt row columns.country)
        (Delimited.fieldAt row columns.postal) = some key ∧ key.code ≠ "" := by
  have hquery : EntryKey.ofQuery? (Delimited.fieldAt row columns.country)
      (Delimited.fieldAt row columns.postal) = some key ↔
        ∃ country, Country.parseLoose (Delimited.fieldAt row columns.country) = .ok country ∧
          EntryKey.ofPostalCode country.provider (Delimited.fieldAt row columns.postal) = key := by
    unfold EntryKey.ofQuery?
    cases Country.parseLoose (Delimited.fieldAt row columns.country) with
    | error cause => simp [Except.toOption]
    | ok country => simp [Except.toOption]
  rw [hquery]
  constructor
  · intro haccepts
    exact ⟨haccepts.known, haccepts.filed, haccepts.nonempty⟩
  · rintro ⟨hlabel, hkey, hnonempty⟩
    exact ⟨hlabel, hkey, hnonempty⟩

theorem Accepts.isKeyText (haccepts : columns.Accepts row key label) : IsKeyText key.code := by
  obtain ⟨country, _, hkey⟩ := haccepts.filed
  have hnonempty := haccepts.nonempty
  rw [← hkey] at hnonempty ⊢
  exact isKeyText_postalKey hnonempty

end EstimateColumns

namespace EstimateReading

variable {confidences : ConfidenceTable κ} {columns : EstimateColumns} {row : Delimited.Record}

def fileRow (confidences : ConfidenceTable κ) (columns : EstimateColumns)
    (row : Delimited.Record) : Option (EntryKey × Estimate κ) :=
  (read confidences columns row).filed?

theorem fileRow_eq_some_iff {key : EntryKey} {estimate : Estimate κ} :
    fileRow confidences columns row = some (key, estimate) ↔
      ∃ label, columns.Accepts row key label ∧
        estimate = columns.estimateOf row (confidences.forLabel label) := by
  unfold fileRow read
  dsimp only
  simp only [EstimateColumns.accepts_iff, ConfidenceLabel.parse?_trim, EntryKey.ofQuery?_trim]
  cases ConfidenceLabel.parse? (Delimited.fieldAt row columns.confidence) with
  | none => simp [filed?]
  | some label =>
      cases EntryKey.ofQuery? (Delimited.fieldAt row columns.country)
          (Delimited.fieldAt row columns.postal) with
      | none => simp [filed?]
      | some found =>
          by_cases hcode : found.code = ""
          · have hclosed : found.code.isEmpty = true := by simpa using hcode
            simp only [hclosed, if_true, filed?]
            constructor
            · intro hnone
              cases hnone
            · rintro ⟨_, ⟨_, hfound, hkey⟩, _⟩
              cases hfound
              exact absurd hcode hkey
          · have hopen : found.code.isEmpty = false := by simpa using hcode
            simp only [hopen, Bool.false_eq_true, if_false, filed?, Option.some.injEq,
              Prod.mk.injEq, EstimateColumns.estimateOf]
            constructor
            · rintro ⟨rfl, rfl⟩
              exact ⟨label, ⟨rfl, rfl, hcode⟩, rfl⟩
            · rintro ⟨_, ⟨rfl, rfl, _⟩, rfl⟩
              exact ⟨rfl, rfl⟩

end EstimateReading

/-! ## Sheets -/

namespace EstimateSheet

variable {confidences : ConfidenceTable κ} {sheet : EstimateSheet κ}

theorem estimates_ofReadings (confidences : ConfidenceTable κ) (columns : EstimateColumns)
    (rows : List Delimited.Record) :
    (ofReadings (rows.map (EstimateReading.read confidences columns))).estimates =
      Std.ExtTreeMap.ofList (rows.filterMap (EstimateReading.fileRow confidences columns)) := by
  unfold ofReadings
  rw [List.filterMap_map]
  rfl

theorem read_eq_ok {text : String} (hread : read confidences text = .ok sheet) :
    ∃ columns, EstimateColumns.resolve (columnNames (Delimited.Sheet.read text)) = .ok columns ∧
      sheet.estimates = Std.ExtTreeMap.ofList
        ((Delimited.Sheet.read text).rows.filterMap
          (EstimateReading.fileRow confidences columns)) := by
  unfold read at hread
  dsimp only at hread
  cases hcolumns : EstimateColumns.resolve (columnNames (Delimited.Sheet.read text)) with
  | error cause => simp [hcolumns, Except.map] at hread
  | ok columns =>
      simp only [hcolumns, Except.map, Except.ok.injEq] at hread
      subst hread
      exact ⟨columns, rfl, estimates_ofReadings confidences columns _⟩

/-- What a file has under a key comes from one of its rows. -/
theorem exists_fileRow_of_ofFile {content : Option ByteArray}
    (hfile : ofFile confidences content = .ok sheet) {key : EntryKey} {estimate : Estimate κ}
    (hfound : sheet.estimates[key]? = some estimate) :
    ∃ columns row, EstimateReading.fileRow confidences columns row = some (key, estimate) := by
  cases content with
  | none => cases hfile
  | some bytes =>
      have hread : read confidences (Text.decode bytes) = .ok sheet := hfile
      obtain ⟨columns, _, hestimates⟩ := read_eq_ok hread
      rw [hestimates, Table.getElem?_ofList_filterMap_eq_some_iff] at hfound
      obtain ⟨_, row, _, _, hrow, _⟩ := hfound
      exact ⟨columns, row, hrow⟩

end EstimateSheet

end PostalRegions
