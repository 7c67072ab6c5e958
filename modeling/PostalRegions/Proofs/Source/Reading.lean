import PostalRegions.Proofs.Postal.Spelling
import PostalRegions.Source.RegionSheet

/-!
# What a sheet of regions gives

The columns are found by the names in the header, and each row then gives a source row on its own.
A sheet whose rows all have what they need is read without a loss.
-/

namespace PostalRegions

open Delimited

namespace Delimited

theorem columnNamed?_eq_none {names : List String} {name : String} (hname : name ∉ names) :
    columnNamed? names name = none := by
  rw [columnNamed?, List.findIdx?_eq_none_iff]
  intro other hother
  rw [beq_eq_false_iff_ne]
  rintro rfl
  exact hname hother

theorem findColumn?_eq_none {names candidates : List String}
    (hnames : ∀ name ∈ candidates, name ∉ names) : findColumn? names candidates = none := by
  rw [findColumn?, List.findSome?_eq_none_iff]
  intro name hname
  exact columnNamed?_eq_none (hnames name hname)

theorem Sheet.read_of_records {text : String} {header : Record} {rows : List Record}
    (hrecords : (Dialect.detect text.toList).records text.toList = header :: rows) :
    Sheet.read text = ⟨header, rows⟩ := by
  rw [Sheet.read, hrecords]

end Delimited

/-! ## Columns -/

/-- The columns named `CODE` and `NUTS3` are used, unless there is one for the version. -/
theorem RegionColumns.resolve_of_named {names : List String} {version : String}
    {postal region : Nat} (hpostal : columnNamed? names "CODE" = some postal)
    (hregion : columnNamed? names "NUTS3" = some region)
    (hversion : "NUTS3_" ++ version ∉ names) :
    resolve names version = .ok ⟨postal, region, findColumn? names countryColumnNames⟩ := by
  have hfirst : findColumn? names postalColumnNames = some postal := by
    simp [findColumn?, postalColumnNames, hpostal]
  have hsecond : findColumn? names (regionColumnNames version) = some region := by
    simp [findColumn?, regionColumnNames, columnNamed?_eq_none hversion, hregion]
  rw [resolve, hfirst, hsecond]

/-! ## Rows -/

theorem RegionCode.trim_code (region : RegionCode) : Text.trim region.code = region.code := by
  apply String.toList_injective
  rw [Text.toList_trim]
  exact Text.trimChars_of_isAlphanum fun _ => isAlphanum_of_mem

theorem rowCountry_of_field {columns : RegionColumns} {column : Nat} {row : Record}
    {country : Country} (hcolumn : columns.country = some column)
    (hfield : row[column]? = some country.code) (fileCountry : Option Country) :
    rowCountry columns fileCountry row = some country := by
  have hopen : (some country.code).filter (fun text => !text.isEmpty) = some country.code := by
    simp [Option.filter, country.code_ne_empty]
  unfold rowCountry
  simp only [hcolumn, Option.bind_some, hfield, Option.map_some, country.trim_code, hopen,
    country.parseLoose_code]
  rfl

theorem RowReading.read_eq_valid {columns : RegionColumns} {fileCountry : Option Country}
    {row : Record} {country : Country} {region : RegionCode}
    (hpostal : fieldAt row columns.postal ≠ "")
    (hregion : Text.trim (fieldAt row columns.region) = region.code)
    (hcountry : rowCountry columns fileCountry row = some country) :
    read columns fileCountry row =
      .valid ⟨country, fieldAt row columns.postal, region⟩ := by
  have hopen : ((fieldAt row columns.postal).isEmpty || region.code.isEmpty) = false := by
    simp [hpostal, region.code_ne_empty]
  unfold read
  simp only [hregion, hopen, hcountry, RegionCode.parse_eq_ok_iff.mpr rfl, Bool.false_eq_true,
    if_false]

theorem RowReading.read_eq_vacant {columns : RegionColumns} {row : Record}
    (hpostal : fieldAt row columns.postal = "") (fileCountry : Option Country) :
    read columns fileCountry row = .vacant := by
  unfold read
  simp [hpostal]

/-! ## Sheets -/

namespace RegionSheet

theorem ofReadings_of_notMem {readings : List RowReading} (hvalid : .invalid ∉ readings) :
    ofReadings readings = ⟨readings.filterMap RowReading.row?, 0⟩ := by
  have hskipped : readings.countP (· == .invalid) = 0 := by
    rw [List.countP_eq_zero]
    intro reading hreading hinvalid
    exact hvalid (beq_iff_eq.mp hinvalid ▸ hreading)
  rw [ofReadings, hskipped]

theorem read_of_records {text version : String} {fileCountry : Option Country}
    {columns : RegionColumns} {header : Record} {rows : List Record}
    (hrecords : (Dialect.detect text.toList).records text.toList = header :: rows)
    (hcolumns : RegionColumns.resolve (columnNames ⟨header, rows⟩) version = .ok columns)
    (hcountry : (fileCountry.isNone && columns.country.isNone) = false) :
    read text version fileCountry =
      .ok (ofReadings (rows.map (RowReading.read columns fileCountry))) := by
  unfold read
  dsimp only
  rw [Sheet.read_of_records hrecords, hcolumns]
  simp [hcountry]

end RegionSheet

end PostalRegions
