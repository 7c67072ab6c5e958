import PostalRegions.Proofs.Delimited.PlainTables
import PostalRegions.Proofs.Source.Reading

/-!
# Sheets with plain fields

A sheet whose fields need no quotes gives a row for each of its lines, whatever else stands on
them.  The exception is a sheet whose first lines pass for lines quoted with apostrophes: a name
that opens with an apostrophe is enough, if no delimiter is behind it.  Such a sheet is read with
the apostrophe as the quote, and then the name goes on to the next apostrophe.
-/

namespace PostalRegions

open Delimited Text

namespace Delimited.PlainTable

variable {table : PlainTable} {version : String} {postal region : Nat} {country : Country}

def sheet (table : PlainTable) : Sheet :=
  ⟨table.headerRead, table.rows⟩

/-- The header has the names `CODE` and `NUTS3`, no column that goes before the latter and none
for the country. -/
structure HasColumns (table : PlainTable) (version : String) (postal region : Nat) : Prop where
  postal_eq : columnNamed? (RegionSheet.columnNames table.sheet) "CODE" = some postal
  region_eq : columnNamed? (RegionSheet.columnNames table.sheet) "NUTS3" = some region
  version_notMem : "NUTS3_" ++ version ∉ RegionSheet.columnNames table.sheet
  country_notMem : ∀ name ∈ countryColumnNames, name ∉ RegionSheet.columnNames table.sheet

/-- A record with a postal code and a valid region in their columns, and its source row. -/
structure Gives (postal region : Nat) (country : Country) (row : Record) (source : SourceRow) :
    Prop where
  country_eq : source.country = country
  postalCode_eq : fieldAt row postal = source.postalCode
  postalCode_ne : source.postalCode ≠ ""
  region_eq : Text.trim (fieldAt row region) = source.region.code

/-! ## Filled lines -/

theorem hasText_of_fieldAt {row : Record} {column : Nat}
    (hfield : Text.trim (fieldAt row column) ≠ "") : HasText row := by
  unfold fieldAt at hfield
  cases hcolumn : row[column]? with
  | none =>
      rw [hcolumn] at hfield
      exact absurd rfl hfield
  | some field =>
      rw [hcolumn] at hfield
      refine ⟨field, List.mem_of_getElem? hcolumn, ?_⟩
      rw [← Bool.not_eq_true]
      exact fun hblank => hfield (trim_of_isAllBlank hblank)

theorem HasColumns.hasText_header (hcolumns : table.HasColumns version postal region) :
    HasText table.headerRead := by
  have hname := columnNamed?_eq_some hcolumns.postal_eq
  unfold RegionSheet.columnNames sheet at hname
  rw [List.getElem?_map, Option.map_eq_some_iff] at hname
  obtain ⟨field, hfield, hcode⟩ := hname
  have hvisible : Text.trim (fieldAt table.headerRead postal) ≠ "" := by
    rw [fieldAt, hfield]
    intro hempty
    rw [Option.getD_some] at hempty
    rw [hempty] at hcode
    exact absurd hcode (by decide)
  exact hasText_of_fieldAt hvisible

theorem length_headerRead (table : PlainTable) :
    table.headerRead.length = table.header.length := by
  unfold headerRead
  cases table.header <;> rfl

/-- The two columns differ, so the header has two names. -/
theorem HasColumns.two_le_length (hcolumns : table.HasColumns version postal region) :
    2 ≤ table.header.length := by
  have hpostal := columnNamed?_eq_some hcolumns.postal_eq
  have hregion := columnNamed?_eq_some hcolumns.region_eq
  have hlength : (RegionSheet.columnNames table.sheet).length = table.header.length := by
    rw [RegionSheet.columnNames, List.length_map]
    exact table.length_headerRead
  have hne : postal ≠ region := by
    rintro rfl
    rw [hpostal] at hregion
    exact absurd hregion (by decide)
  obtain ⟨hpostalBound, _⟩ := List.getElem?_eq_some_iff.mp hpostal
  obtain ⟨hregionBound, _⟩ := List.getElem?_eq_some_iff.mp hregion
  omega

theorem hasText_of_gives {rows : List Record} {sources : List SourceRow}
    (hrows : List.Forall₂ (Gives postal region country) rows sources) :
    ∀ row ∈ rows, HasText row := by
  induction hrows with
  | nil => simp
  | @cons row source _ _ hhead _ ih =>
      have hvisible : Text.trim (fieldAt row region) ≠ "" := by
        rw [hhead.region_eq]
        exact source.region.code_ne_empty
      exact List.forall_mem_cons.mpr ⟨hasText_of_fieldAt hvisible, ih⟩

theorem isFilled {sources : List SourceRow} (hcolumns : table.HasColumns version postal region)
    (hrows : List.Forall₂ (Gives postal region country) table.rows sources) : table.IsFilled :=
  ⟨hcolumns.two_le_length, hcolumns.hasText_header, hasText_of_gives hrows⟩

/-! ## Rows -/

theorem Gives.read_eq {row : Record} {source : SourceRow}
    (hgives : Gives postal region country row source) :
    RowReading.read ⟨postal, region, none⟩ (some country) row = .valid source := by
  obtain ⟨rfl, hpostal, hne, hregion⟩ := hgives
  let columns : RegionColumns := ⟨postal, region, none⟩
  have hfield : fieldAt row columns.postal ≠ "" := by
    rw [hpostal]
    exact hne
  have hcountry : rowCountry columns (some source.country) row = some source.country := rfl
  rw [RowReading.read_eq_valid hfield hregion hcountry, hpostal]

theorem map_read_of_gives {rows : List Record} {sources : List SourceRow}
    (hrows : List.Forall₂ (Gives postal region country) rows sources) :
    rows.map (RowReading.read ⟨postal, region, none⟩ (some country)) =
      sources.map RowReading.valid := by
  induction hrows with
  | nil => rfl
  | cons hhead _ ih => rw [List.map_cons, List.map_cons, hhead.read_eq, ih]

theorem HasColumns.resolve_eq (hcolumns : table.HasColumns version postal region) :
    RegionColumns.resolve (RegionSheet.columnNames table.sheet) version =
      .ok ⟨postal, region, none⟩ := by
  rw [RegionColumns.resolve_of_named hcolumns.postal_eq hcolumns.region_eq
    hcolumns.version_notMem, findColumn?_eq_none hcolumns.country_notMem]

end Delimited.PlainTable

/-! ## Sheets -/

namespace RegionSheet

theorem ofReadings_valid (sources : List SourceRow) :
    ofReadings (sources.map RowReading.valid) = ⟨sources, 0⟩ := by
  have hvalid : .invalid ∉ sources.map RowReading.valid := by simp
  have hrow : RowReading.row? ∘ RowReading.valid = some := rfl
  rw [ofReadings_of_notMem hvalid, List.filterMap_map, hrow, List.filterMap_some]

variable {table : PlainTable} {version : String} {postal region : Nat} {country : Country}
  {sources : List SourceRow}

/-- A plain sheet gives the rows that were written, unless its first lines pass for lines quoted
with apostrophes.  If they do, it is the fields written with that quote that are read. -/
theorem read_plainTable (hcolumns : table.HasColumns version postal region)
    (hrows : List.Forall₂ (PlainTable.Gives postal region country) table.rows sources) :
    (¬ table.PassesForApostropheQuoted →
      read table.text version (some country) = .ok ⟨sources, 0⟩) ∧
    (table.PassesForApostropheQuoted →
      Dialect.detect table.text.toList = ⟨table.delimiter, '\''⟩ ∧
      ∀ header rows, List.Forall₂ (Dialect.mk table.delimiter '\'').Writes
          ((table.headerRead :: table.rows).map (plainLine table.delimiter)) (header :: rows) →
        Sheet.read table.text = ⟨header, rows⟩) := by
  have hfilled := PlainTable.isFilled hcolumns hrows
  constructor
  · intro hpasses
    have hrecords : (Dialect.detect table.text.toList).records table.text.toList =
        table.headerRead :: table.rows := by
      rw [PlainTable.detect_of_not_passes hfilled hpasses]
      exact PlainTable.records_of_writes hfilled (by decide) (PlainTable.forall₂_writes hfilled)
    have hsheet := read_of_records hrecords hcolumns.resolve_eq
      (show ((some country).isNone && (none : Option Nat).isNone) = false from rfl)
    rw [hsheet, PlainTable.map_read_of_gives hrows, ofReadings_valid]
  · intro hpasses
    have hdetect := PlainTable.detect_of_passes hfilled hpasses
    refine ⟨hdetect, ?_⟩
    intro header rows hwrites
    apply Sheet.read_of_records
    rw [hdetect]
    exact PlainTable.records_of_writes hfilled (by decide) hwrites

end RegionSheet

/-- Two places in the Netherlands, one of whose names opens with an apostrophe. -/
def brabantRows : List SourceRow :=
  [⟨⟨"NL", by decide⟩, "5211", ⟨"NL411", by decide⟩⟩,
    ⟨⟨"NL", by decide⟩, "5262", ⟨"NL412", by decide⟩⟩]

/-- With the names in front, no delimiter of the first row is outside apostrophes. -/
def namesFirst : PlainTable where
  delimiter := ','
  header := ["NAME", "CODE", "NUTS3"]
  rows := [["'s-Hertogenbosch", "5211", "NL411"], ["Vught", "5262", "NL412"]]
  lineEnd := .feed
  closed := true
  delimiter_mem := by decide
  isPlain := by decide

theorem RegionSheet.read_namesFirst :
    namesFirst.HasColumns "2024" 1 2 ∧
      List.Forall₂ (PlainTable.Gives 1 2 ⟨"NL", by decide⟩) namesFirst.rows brabantRows ∧
      RegionSheet.read namesFirst.text "2024" (some ⟨"NL", by decide⟩) = .ok ⟨brabantRows, 0⟩ := by
  have hcolumns : namesFirst.HasColumns "2024" 1 2 := by
    constructor <;> decide +kernel
  have hrows :
      List.Forall₂ (PlainTable.Gives 1 2 ⟨"NL", by decide⟩) namesFirst.rows brabantRows := by
    refine .cons ⟨rfl, rfl, by decide, by decide +kernel⟩ (.cons ⟨rfl, rfl, by decide, ?_⟩ .nil)
    decide +kernel
  have hpasses : ¬ namesFirst.PassesForApostropheQuoted := by
    intro hpasses
    obtain ⟨count, _, hcount⟩ := hpasses.evenly
    have hheader : 2 = count := hcount namesFirst.header (by decide)
    have hrow : 0 = count := hcount ["'s-Hertogenbosch", "5211", "NL411"] (by decide)
    omega
  exact ⟨hcolumns, hrows, (RegionSheet.read_plainTable hcolumns hrows).1 hpasses⟩

/-- With the names at the end, both delimiters of each row are outside apostrophes. -/
def namesLast : PlainTable where
  delimiter := ','
  header := ["CODE", "NUTS3", "NAME"]
  rows := [["5211", "NL411", "'s-Hertogenbosch"], ["5262", "NL412", "Vught"]]
  lineEnd := .feed
  closed := true
  delimiter_mem := by decide
  isPlain := by decide

/-- The quote that opens in the first row is never closed, so the second row is lost. -/
theorem RegionSheet.read_namesLast_loses_row :
    namesLast.HasColumns "2024" 0 1 ∧ namesLast.header.Nodup ∧
      (∀ row ∈ namesLast.rows, row.length = namesLast.header.length) ∧
      List.Forall₂ (PlainTable.Gives 0 1 ⟨"NL", by decide⟩) namesLast.rows brabantRows ∧
      RegionSheet.read namesLast.text "2024" (some ⟨"NL", by decide⟩) =
        .ok ⟨brabantRows.take 1, 0⟩ ∧
      brabantRows.take 1 ≠ brabantRows := by
  refine ⟨?_, by decide, by decide, ?_, ?_, by decide⟩
  · constructor <;> decide +kernel
  · refine .cons ⟨rfl, rfl, by decide, by decide +kernel⟩ (.cons ⟨rfl, rfl, by decide, ?_⟩ .nil)
    decide +kernel
  · decide +kernel

end PostalRegions
