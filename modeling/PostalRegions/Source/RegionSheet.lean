import PostalRegions.Country
import PostalRegions.Delimited.Column
import PostalRegions.Region.Code
import PostalRegions.Text.Upper

/-!
# Sheets of postal codes and regions

A source archive holds tables with a postal code and a region on each row.  The columns go by
different names in different releases.  The country stands in a column of its own or follows
from the name of the archive.
-/

namespace PostalRegions

open Delimited

/-- The names of a postal code column, the most specific first. -/
def postalColumnNames : List String :=
  ["CODE", "PC", "POSTAL_CODE", "POSTCODE", "PC_FMT"]

def countryColumnNames : List String :=
  ["COUNTRY_CODE", "CC", "CNTR_CODE"]

/-- The names of a region column in a release of the data.  A column qualified by another
version is not among them. -/
def regionColumnNames (version : String) : List String :=
  ["NUTS3_" ++ version, "NUTS3", "NUTS_ID", "NUTS"]

structure RegionColumns where
  postal : Nat
  region : Nat
  country : Option Nat
deriving DecidableEq, Repr

inductive SheetError where
  | missingColumns (names : List String)
  | noCountry
deriving DecidableEq, Repr

def SheetError.noCountryMessage : String :=
  "no country code available from filename or columns"

def RegionColumns.resolve (names : List String) (version : String) :
    Except SheetError RegionColumns :=
  match findColumn? names postalColumnNames, findColumn? names (regionColumnNames version) with
  | some postal, some region => .ok ⟨postal, region, findColumn? names countryColumnNames⟩
  | _, _ => .error (.missingColumns names)

/-- A postal code as it was written, with its country and region. -/
structure SourceRow where
  country : Country
  postalCode : String
  region : RegionCode
deriving DecidableEq

inductive RowReading where
  | vacant
  | invalid
  | valid (row : SourceRow)
deriving DecidableEq

/-- The country of a row: the one in its country field if that is not blank, else the one of the
archive. -/
def rowCountry (columns : RegionColumns) (fileCountry : Option Country) (row : Record) :
    Option Country :=
  let field := (columns.country.bind fun column => row[column]?).map Text.trim
  match field.filter (fun text => !text.isEmpty) with
  | some text => (Country.parseLoose text).toOption
  | none => fileCountry

def RowReading.read (columns : RegionColumns) (fileCountry : Option Country) (row : Record) :
    RowReading :=
  let postalCode := fieldAt row columns.postal
  let region := Text.trim (fieldAt row columns.region)
  if postalCode.isEmpty || region.isEmpty then .vacant
  else
    match RegionCode.parse region, rowCountry columns fileCountry row with
    | .ok region, some country => .valid ⟨country, postalCode, region⟩
    | _, _ => .invalid

def RowReading.row? : RowReading → Option SourceRow
  | .valid row => some row
  | _ => none

/-- The rows of a sheet in their order, and how many rows were invalid. -/
structure RegionSheet where
  rows : List SourceRow
  skipped : Nat
deriving DecidableEq

namespace RegionSheet

/-- The names by which the columns of a sheet are found: trimmed and in capitals. -/
def columnNames (sheet : Sheet) : List String :=
  sheet.header.map fun name => Text.upper (Text.trim name)

def ofReadings (readings : List RowReading) : RegionSheet :=
  ⟨readings.filterMap RowReading.row?, readings.countP (· == .invalid)⟩

def read (text : String) (version : String) (fileCountry : Option Country) :
    Except SheetError RegionSheet :=
  let sheet := Sheet.read text
  match RegionColumns.resolve (columnNames sheet) version with
  | .error cause => .error cause
  | .ok columns =>
    if fileCountry.isNone && columns.country.isNone then .error .noCountry
    else .ok (ofReadings (sheet.rows.map (RowReading.read columns fileCountry)))

end RegionSheet

end PostalRegions
