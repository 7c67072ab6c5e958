import Mathlib.Data.List.Forall2
import PostalRegions.Confidence.Rational
import PostalRegions.Configuration.Loading
import PostalRegions.Proofs.Source.Reading
import PostalRegions.Proofs.Text.Capitals

/-!
# The region column of a version

The names of columns are compared in capitals, but the version that qualifies a region column is
compared as it is written.  The column of a version is therefore the one that is read exactly if the
version has nothing in it that capitals would change; otherwise it is passed over, and a column that
is not qualified may be read in its place.  A column of another version is never read.
-/

namespace PostalRegions

open Delimited

/-! ## Finding columns -/

namespace Delimited

variable {names : List String} {name : String} {column : Nat}

/-- The first candidate decides if there is a column of that name. -/
theorem findColumn?_cons_of_mem (hname : name ∈ names) (others : List String) :
    findColumn? names (name :: others) = columnNamed? names name := by
  have hsome : (columnNamed? names name).isSome = true := by
    rw [columnNamed?, List.findIdx?_isSome, List.any_eq_true]
    exact ⟨name, hname, beq_iff_eq.mpr rfl⟩
  obtain ⟨column, hcolumn⟩ := Option.isSome_iff_exists.mp hsome
  rw [findColumn?, List.findSome?_cons, hcolumn]

theorem exists_candidate_of_findColumn? {candidates : List String}
    (hfind : findColumn? names candidates = some column) :
    ∃ candidate ∈ candidates, names[column]? = some candidate := by
  obtain ⟨candidate, hcandidate, hcolumn⟩ := List.exists_of_findSome?_eq_some hfind
  exact ⟨candidate, hcandidate, columnNamed?_eq_some hcolumn⟩

end Delimited

/-- Of the names of a region column only the one for the version is qualified. -/
theorem eq_of_qualified_mem {version other : String}
    (hmem : "NUTS3_" ++ other ∈ regionColumnNames version) : other = version := by
  have hchars {name : String} (hname : "NUTS3_" ++ other = name) :
      "NUTS3_".toList ++ other.toList = name.toList := by
    rw [← hname, String.toList_append]
  simp only [regionColumnNames, List.mem_cons, List.not_mem_nil, or_false] at hmem
  rcases hmem with hversion | hplain | hid | hshort
  · have hsame := hchars hversion
    rw [String.toList_append] at hsame
    exact String.toList_inj.mp (List.append_cancel_left hsame)
  · exact absurd (hchars hplain) (by simp)
  · exact absurd (hchars hid) (by simp)
  · exact absurd (hchars hshort) (by simp)

/-! ## Where the regions are taken from -/

namespace RegionSheet

/-- The column of a text in which a version looks for regions. -/
def regionColumn? (text version : String) : Option Nat :=
  (RegionColumns.resolve (columnNames (Sheet.read text)) version).toOption.map (·.region)

/-- A text is read with the regions of a column: it is accepted, if there is any country for its
rows, and each source row has the region in that column of a record, in the order of the records. -/
structure TakesRegionsFrom (text version : String) (fileCountry : Option Country) (column : Nat) :
    Prop where
  resolved : regionColumn? text version = some column
  rows : (fileCountry = none ∧ read text version fileCountry = .error .noCountry) ∨
    ∃ result records, read text version fileCountry = .ok result ∧
      records.Sublist (Sheet.read text).rows ∧
      List.Forall₂ (fun record row => Text.trim (fieldAt record column) = row.region.code)
        records result.rows

end RegionSheet

theorem RowReading.region_of_read {columns : RegionColumns} {fileCountry : Option Country}
    {record : Record} {row : SourceRow} (hread : read columns fileCountry record = .valid row) :
    Text.trim (fieldAt record columns.region) = row.region.code := by
  unfold read at hread
  dsimp only at hread
  split at hread
  · cases hread
  · split at hread
    · rename_i region country hregion hcountry
      cases hread
      exact (RegionCode.parse_eq_ok_iff.mp hregion).symm
    · cases hread

namespace RegionSheet

theorem exists_records_of_rows (columns : RegionColumns) (fileCountry : Option Country)
    (rows : List Record) :
    ∃ records, records.Sublist rows ∧
      List.Forall₂ (fun record row => Text.trim (fieldAt record columns.region) = row.region.code)
        records (ofReadings (rows.map (RowReading.read columns fileCountry))).rows := by
  induction rows with
  | nil => exact ⟨[], List.Sublist.refl [], .nil⟩
  | cons record rows ih =>
      obtain ⟨records, hrecords, hregions⟩ := ih
      unfold ofReadings at hregions ⊢
      rw [List.map_cons]
      cases hread : RowReading.read columns fileCountry record with
      | vacant => exact ⟨records, hrecords.cons record, hregions⟩
      | invalid => exact ⟨records, hrecords.cons record, hregions⟩
      | valid row =>
          exact ⟨record :: records, hrecords.cons_cons record,
            .cons (RowReading.region_of_read hread) hregions⟩

variable {text version : String} {column : Nat}

theorem resolve_of_regionColumn? (hcolumn : regionColumn? text version = some column) :
    ∃ columns, RegionColumns.resolve (columnNames (Sheet.read text)) version = .ok columns ∧
      columns.region = column := by
  obtain ⟨columns, hcolumns, hregion⟩ := Option.map_eq_some_iff.mp hcolumn
  cases hresolve : RegionColumns.resolve (columnNames (Sheet.read text)) version with
  | error cause =>
      rw [hresolve] at hcolumns
      cases hcolumns
  | ok found =>
      rw [hresolve] at hcolumns
      cases hcolumns
      exact ⟨columns, rfl, hregion⟩

theorem takesRegionsFrom_of_resolved (fileCountry : Option Country)
    (hcolumn : regionColumn? text version = some column) :
    TakesRegionsFrom text version fileCountry column := by
  refine ⟨hcolumn, ?_⟩
  obtain ⟨columns, hresolve, rfl⟩ := resolve_of_regionColumn? hcolumn
  unfold read
  simp only [hresolve]
  split
  · rename_i hnone
    exact Or.inl ⟨Option.isNone_iff_eq_none.mp ((Bool.and_eq_true _ _).mp hnone).1, rfl⟩
  · obtain ⟨records, hrecords, hregions⟩ :=
      exists_records_of_rows columns fileCountry (Sheet.read text).rows
    exact Or.inr ⟨_, records, rfl, hrecords, hregions⟩

theorem findColumn?_of_regionColumn? (hcolumn : regionColumn? text version = some column) :
    findColumn? (columnNames (Sheet.read text)) (regionColumnNames version) = some column := by
  obtain ⟨columns, hresolve, rfl⟩ := resolve_of_regionColumn? hcolumn
  unfold RegionColumns.resolve at hresolve
  split at hresolve
  · rename_i postal region hpostal hregion
    cases hresolve
    exact hregion
  · cases hresolve

theorem regionColumn?_of_findColumn?
    (hpostal : (findColumn? (columnNames (Sheet.read text)) postalColumnNames).isSome = true)
    (hregion : findColumn? (columnNames (Sheet.read text)) (regionColumnNames version) =
      some column) : regionColumn? text version = some column := by
  obtain ⟨postal, hpostal⟩ := Option.isSome_iff_exists.mp hpostal
  rw [regionColumn?, RegionColumns.resolve, hpostal, hregion]
  rfl

/-- The name of a column whose cell is qualified by a version. -/
theorem columnNames_of_cell
    (hcell : (Sheet.read text).header[column]?.map Text.trim = some ("NUTS3_" ++ version)) :
    (columnNames (Sheet.read text))[column]? = some ("NUTS3_" ++ Text.upper version) := by
  obtain ⟨cell, hheader, htrim⟩ := Option.map_eq_some_iff.mp hcell
  have hlead : Text.upper "NUTS3_" = "NUTS3_" := by decide +kernel
  rw [columnNames, List.getElem?_map, hheader, Option.map_some, htrim, Text.upper_append, hlead]

/-- Where a header has a postal column and a cell that is qualified by the version, the regions are
taken from the column of that cell exactly if capitals do not change the version and no earlier
column has the same name.  The regions are never taken from a column of another version. -/
theorem takesRegionsFrom_version_iff (text version : String) (fileCountry : Option Country) :
    (∀ column,
      (findColumn? (columnNames (Sheet.read text)) postalColumnNames).isSome = true →
      (Sheet.read text).header[column]?.map Text.trim = some ("NUTS3_" ++ version) →
        (TakesRegionsFrom text version fileCountry column ↔
          Text.upper version = version ∧
            ∀ earlier < column,
              (columnNames (Sheet.read text))[earlier]? ≠ some ("NUTS3_" ++ version))) ∧
      ∀ column other, TakesRegionsFrom text version fileCountry column →
        (columnNames (Sheet.read text))[column]? = some ("NUTS3_" ++ other) →
          other = version := by
  have hother {column : Nat} {other : String}
      (htakes : TakesRegionsFrom text version fileCountry column)
      (hname : (columnNames (Sheet.read text))[column]? = some ("NUTS3_" ++ other)) :
      other = version := by
    obtain ⟨candidate, hcandidate, hsame⟩ :=
      exists_candidate_of_findColumn? (findColumn?_of_regionColumn? htakes.resolved)
    rw [hname] at hsame
    cases hsame
    exact eq_of_qualified_mem hcandidate
  refine ⟨?_, fun _ _ htakes hname => hother htakes hname⟩
  intro column hpostal hcell
  have hname := columnNames_of_cell hcell
  have hfind (hversion : Text.upper version = version) :
      findColumn? (columnNames (Sheet.read text)) (regionColumnNames version) =
        columnNamed? (columnNames (Sheet.read text)) ("NUTS3_" ++ version) := by
    rw [hversion] at hname
    exact findColumn?_cons_of_mem (List.mem_of_getElem? hname) _
  constructor
  · intro htakes
    have hversion := hother htakes hname
    refine ⟨hversion, ?_⟩
    have hcolumn := findColumn?_of_regionColumn? htakes.resolved
    rw [hfind hversion] at hcolumn
    exact (columnNamed?_eq_some_iff.mp hcolumn).2
  · rintro ⟨hversion, hfirst⟩
    rw [hversion] at hname
    apply takesRegionsFrom_of_resolved
    apply regionColumn?_of_findColumn? hpostal
    rw [hfind hversion]
    exact columnNamed?_eq_some_iff.mpr ⟨hname, hfirst⟩

example : regionColumn? "NUTS3_2021,code,NUTS3, nuts3_2024 \nAT111,1010,AT112,AT130" "2024" =
    some 3 := by
  decide +kernel

end RegionSheet

/-- A sheet for the version `2024b`, in which a column of another release comes first. -/
def revisedSheet : String :=
  "CODE,NUTS3,NUTS3_2024b\n1010,AT111,AT130\n"

/-- Settings with this version are valid, but its column is passed over. -/
theorem revisedSheet_column_ignored :
    ({ Settings.standard with version := "2024b" } : Settings Rat).fault? = none ∧
      (Sheet.read revisedSheet).header[2]?.map Text.trim = some ("NUTS3_" ++ "2024b") ∧
      ¬ RegionSheet.TakesRegionsFrom revisedSheet "2024b" (some ⟨"AT", by decide⟩) 2 ∧
      RegionSheet.read revisedSheet "2024b" (some ⟨"AT", by decide⟩) =
        .ok ⟨[⟨⟨"AT", by decide⟩, "1010", ⟨"AT111", by decide⟩⟩], 0⟩ := by
  have hcell : (Sheet.read revisedSheet).header[2]?.map Text.trim =
      some ("NUTS3_" ++ "2024b") := by decide +kernel
  have hpostal : (findColumn? (RegionSheet.columnNames (Sheet.read revisedSheet))
      postalColumnNames).isSome = true := by decide +kernel
  refine ⟨by decide +kernel, hcell, ?_, by decide +kernel⟩
  intro htakes
  have hversion := (((RegionSheet.takesRegionsFrom_version_iff revisedSheet "2024b"
    (some ⟨"AT", by decide⟩)).1 2 hpostal hcell).mp htakes).1
  exact absurd hversion (by decide +kernel)

end PostalRegions
