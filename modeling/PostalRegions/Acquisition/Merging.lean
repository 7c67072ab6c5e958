import PostalRegions.Acquisition.State
import PostalRegions.Archive.Content
import PostalRegions.Source.RegionSheet

/-!
# Merging archives

The rows of an archive's tables are filed in their order: table by table, row by row.  A row whose
postal code has no letter and no digit has no key and is passed over.
-/

namespace PostalRegions

def ExactTable.putRow (mode : WriteMode) (table : ExactTable) (row : SourceRow) : ExactTable :=
  let key := EntryKey.ofPostalCode row.country row.postalCode
  if key.code.isEmpty then table else table.put key row.region mode

def ExactTable.putRows (mode : WriteMode) (table : ExactTable) (rows : List SourceRow) :
    ExactTable :=
  rows.foldl (ExactTable.putRow mode) table

namespace AcquisitionState

variable {κ : Type}

def mergeTable (version : String) (country : Option Country) (mode : WriteMode)
    (state : AcquisitionState κ) (table : Archive.ArchiveTable) : AcquisitionState κ :=
  match RegionSheet.read table.text version country with
  | .error _ =>
    { state with
      report := { state.report with tablesSkipped := state.report.tablesSkipped + 1 } }
  | .ok sheet =>
    { state with
      table := state.table.putRows mode sheet.rows
      report := { state.report with
        tablesParsed := state.report.tablesParsed + 1
        rowsSkipped := state.report.rowsSkipped + sheet.skipped } }

def mergeTables (version : String) (country : Option Country) (mode : WriteMode)
    (state : AcquisitionState κ) (tables : List Archive.ArchiveTable) : AcquisitionState κ :=
  tables.foldl (mergeTable version country mode) state

end AcquisitionState

end PostalRegions
