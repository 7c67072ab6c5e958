import PostalRegions.Proofs.Delimited.Detection
import PostalRegions.Proofs.Delimited.Writing
import PostalRegions.Proofs.Source.Reading

/-!
# Sheets with quoted fields

A sheet may be written with every field between double quotes.  Its first line then has the double
quote and one delimiter only, so the dialect is detected whatever the fields contain, and the rows
are read back as they were, line ends inside postal codes included.
-/

namespace PostalRegions

open Delimited Text

/-- The cells of a row under the header `CODE`, `NUTS3`, `CC`. -/
def SourceRow.cells (row : SourceRow) : Record :=
  [row.postalCode, row.region.code, row.country.code]

def quotedLine (delimiter : Char) (record : Record) : List Char :=
  [delimiter].intercalate (record.map fun field => quotedField '"' field.toList)

/-- Rows as a text: a header, every field quoted, every line ended by a line feed. -/
def quotedSheet (delimiter : Char) (rows : List SourceRow) : String :=
  String.ofList (LineEnd.feed.join true
    ((["CODE", "NUTS3", "CC"] :: rows.map SourceRow.cells).map (quotedLine delimiter)))

variable {delimiter : Char}

theorem quotedLine_ne_nil {record : Record} (hrecord : record ≠ []) :
    quotedLine delimiter record ≠ [] := by
  cases record with
  | nil => exact absurd rfl hrecord
  | cons field others =>
      unfold quotedLine quotedField
      cases others with
      | nil => simp
      | cons next more => simp [List.intercalate_cons_cons]

theorem writes_quotedLine {record : Record} (hrecord : record ≠ []) :
    (Dialect.mk delimiter '"').Writes (quotedLine delimiter record) record := by
  refine ⟨quotedLine_ne_nil hrecord, record.map fun field => quotedField '"' field.toList, ?_, rfl⟩
  rw [List.forall₂_map_left_iff, List.forall₂_map_right_iff, List.forall₂_same]
  intro field _
  exact Dialect.Spells.quoted field.toList

/-! ## The dialect -/

theorem exists_quotedSheet (delimiter : Char) (rows : List SourceRow) :
    ∃ rest, (quotedSheet delimiter rows).toList =
      quotedLine delimiter ["CODE", "NUTS3", "CC"] ++ (LineEnd.feed.chars ++ rest) := by
  unfold quotedSheet
  rw [String.toList_ofList, List.map_cons]
  cases rows with
  | nil => exact ⟨[], by simp [LineEnd.join_singleton]⟩
  | cons row others => exact ⟨_, LineEnd.join_cons_cons _ _ _ _ _⟩

theorem detect_quotedSheet (hdelimiter : delimiter ∈ delimiters) (rows : List SourceRow) :
    Dialect.detect (quotedSheet delimiter rows).toList = ⟨delimiter, '"'⟩ := by
  let header := quotedLine delimiter ["CODE", "NUTS3", "CC"]
  have hknown := mem_delimiters.mp hdelimiter
  have hone : IsOneLine header := by
    rcases hknown with rfl | rfl | rfl <;> decide +kernel
  have hfirst : isAllBlank header = false := by
    rcases hknown with rfl | rfl | rfl <;> decide +kernel
  have hquoted : '"' ∈ header := by
    rcases hknown with rfl | rfl | rfl <;> decide +kernel
  have hdelimits : delimiter ∈ header := by
    rcases hknown with rfl | rfl | rfl <;> decide +kernel
  have hchars : header.all (fun c => c == delimiter || !delimiters.contains c) = true := by
    rcases hknown with rfl | rfl | rfl <;> decide +kernel
  have honly : HasOnlyDelimiter header delimiter := by
    refine ⟨hdelimiter, hdelimits, ?_⟩
    intro other hother hmem
    simpa [hother] using List.all_eq_true.mp hchars other hmem
  obtain ⟨rest, htext⟩ := exists_quotedSheet delimiter rows
  have hlines : lines (quotedSheet delimiter rows).toList = header :: lines rest := by
    rw [htext, lines_append hone]
  obtain ⟨more, hsample⟩ := Dialect.sampleLines_cons hlines hfirst
  -- Whatever lines the rows are cut into, the sample has a double quote from the header.
  have hquote : sampleQuote (sampleLines (quotedSheet delimiter rows).toList) ≠ '\'' := by
    rw [hsample, sampleQuote]
    simp [hquoted]
  rw [Dialect.detect_of_onlyDelimiter hlines hfirst honly, if_neg]
  exact fun hboth => hquote hboth.1

theorem records_quotedSheet (hdelimiter : delimiter ∈ delimiters) (rows : List SourceRow) :
    (Dialect.mk delimiter '"').records (quotedSheet delimiter rows).toList =
      ["CODE", "NUTS3", "CC"] :: rows.map SourceRow.cells := by
  have hmark : Dialect.withoutMark (quotedSheet delimiter rows).toList =
      (quotedSheet delimiter rows).toList := by
    obtain ⟨rest, htext⟩ := exists_quotedSheet delimiter rows
    rw [htext]
    rfl
  have hwrites : List.Forall₂ (Dialect.mk delimiter '"').Writes
      ((["CODE", "NUTS3", "CC"] :: rows.map SourceRow.cells).map (quotedLine delimiter))
      (["CODE", "NUTS3", "CC"] :: rows.map SourceRow.cells) := by
    rw [List.forall₂_map_left_iff, List.forall₂_same]
    intro record hrecord
    apply writes_quotedLine
    rcases List.mem_cons.mp hrecord with rfl | hcells
    · simp
    · obtain ⟨row, _, rfl⟩ := List.mem_map.mp hcells
      simp [SourceRow.cells]
  unfold Dialect.records
  rw [hmark, quotedSheet, String.toList_ofList]
  exact Dialect.recordsFrom_join hwrites (Dialect.isProper_of_mem hdelimiter (by decide))
    (by simp) .feed true

/-! ## The rows -/

theorem resolve_quotedSheet (version : String) (rows : List Record) :
    RegionColumns.resolve (RegionSheet.columnNames ⟨["CODE", "NUTS3", "CC"], rows⟩) version =
      .ok ⟨0, 1, some 2⟩ := by
  have hnames : RegionSheet.columnNames ⟨["CODE", "NUTS3", "CC"], rows⟩ =
      ["CODE", "NUTS3", "CC"] := by
    change (["CODE", "NUTS3", "CC"].map fun name => upper (trim name)) = _
    decide +kernel
  have hversion : "NUTS3_" ++ version ∉ ["CODE", "NUTS3", "CC"] := by
    have hne (name : String) (hname : ¬ "NUTS3_".toList <+: name.toList) :
        "NUTS3_" ++ version ≠ name := by
      rintro rfl
      exact hname (by rw [String.toList_append]; exact List.prefix_append _ _)
    simp only [List.mem_cons, List.not_mem_nil, or_false, not_or]
    exact ⟨hne _ (by decide), hne _ (by decide), hne _ (by decide)⟩
  have hpostal : columnNamed? ["CODE", "NUTS3", "CC"] "CODE" = some 0 := by decide
  have hregion : columnNamed? ["CODE", "NUTS3", "CC"] "NUTS3" = some 1 := by decide
  rw [hnames, RegionColumns.resolve_of_named hpostal hregion hversion]
  rfl

theorem RowReading.read_cells (row : SourceRow) (fileCountry : Option Country) :
    RowReading.read ⟨0, 1, some 2⟩ fileCountry row.cells =
      if row.postalCode = "" then .vacant else .valid row := by
  let columns : RegionColumns := ⟨0, 1, some 2⟩
  have hcountry : rowCountry columns fileCountry row.cells = some row.country :=
    rowCountry_of_field rfl rfl fileCountry
  by_cases hpostal : row.postalCode = ""
  · have hfield : fieldAt row.cells columns.postal = "" := hpostal
    rw [if_pos hpostal]
    exact read_eq_vacant hfield fileCountry
  · have hfield : fieldAt row.cells columns.postal ≠ "" := hpostal
    have hregion : Text.trim (fieldAt row.cells columns.region) = row.region.code :=
      row.region.trim_code
    rw [if_neg hpostal]
    exact read_eq_valid hfield hregion hcountry

theorem RegionSheet.ofReadings_cells (rows : List SourceRow) (fileCountry : Option Country) :
    ofReadings ((rows.map SourceRow.cells).map (RowReading.read ⟨0, 1, some 2⟩ fileCountry)) =
      ⟨rows.filter fun row => row.postalCode ≠ "", 0⟩ := by
  have hreadings : (rows.map SourceRow.cells).map
        (RowReading.read ⟨0, 1, some 2⟩ fileCountry) =
      rows.map fun row => if row.postalCode = "" then .vacant else .valid row := by
    rw [List.map_map]
    exact List.map_congr_left fun row _ => RowReading.read_cells row fileCountry
  have hvalid : .invalid ∉ rows.map fun row =>
      if row.postalCode = "" then RowReading.vacant else .valid row := by
    intro hmem
    obtain ⟨row, _, hrow⟩ := List.mem_map.mp hmem
    split at hrow <;> cases hrow
  have hkept : (RowReading.row? ∘ fun row : SourceRow =>
        if row.postalCode = "" then RowReading.vacant else .valid row) =
      Option.guard fun row => row.postalCode ≠ "" := by
    funext row
    by_cases hpostal : row.postalCode = ""
    · simp [Option.guard, hpostal, RowReading.row?]
    · simp [Option.guard, hpostal, RowReading.row?]
  rw [hreadings, ofReadings_of_notMem hvalid, List.filterMap_map, hkept, List.filterMap_eq_filter]

/-- A quoted sheet gives the rows that were written, those without a postal code left out. -/
theorem RegionSheet.read_quotedSheet (hdelimiter : delimiter ∈ delimiters) (version : String)
    (fileCountry : Option Country) (rows : List SourceRow) :
    RegionSheet.read (quotedSheet delimiter rows) version fileCountry =
      .ok ⟨rows.filter fun row => row.postalCode ≠ "", 0⟩ := by
  have hrecords : (Dialect.detect (quotedSheet delimiter rows).toList).records
      (quotedSheet delimiter rows).toList =
        ["CODE", "NUTS3", "CC"] :: rows.map SourceRow.cells := by
    rw [detect_quotedSheet hdelimiter, records_quotedSheet hdelimiter]
  rw [read_of_records hrecords (resolve_quotedSheet version _) (by simp), ofReadings_cells]

/-- A postal code with everything that has a meaning in a table, and a row without one. -/
def awkwardRows : List SourceRow :=
  [⟨⟨"CZ", by decide⟩, "'10;\"10\"\r\n,\t", ⟨"CZ010", by decide⟩⟩,
    ⟨⟨"CZ", by decide⟩, "", ⟨"CZ020", by decide⟩⟩,
    ⟨⟨"SK", by decide⟩, "811 01", ⟨"SK010", by decide⟩⟩]

theorem RegionSheet.read_awkwardRows :
    ';' ∈ delimiters ∧
      RegionSheet.read (quotedSheet ';' awkwardRows) "2024" none =
        .ok ⟨[⟨⟨"CZ", by decide⟩, "'10;\"10\"\r\n,\t", ⟨"CZ010", by decide⟩⟩,
          ⟨⟨"SK", by decide⟩, "811 01", ⟨"SK010", by decide⟩⟩], 0⟩ := by
  have hdelimiter : ';' ∈ delimiters := by decide
  refine ⟨hdelimiter, ?_⟩
  rw [RegionSheet.read_quotedSheet hdelimiter "2024" none awkwardRows]
  rfl

end PostalRegions
