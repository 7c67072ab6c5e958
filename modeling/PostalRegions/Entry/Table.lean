import PostalRegions.Confidence.Basic
import PostalRegions.Entry.Key
import PostalRegions.Region.Code
import Std.Data.ExtTreeMap

/-!
# Tables of entries

The exact table files a region of the finest level under a key; the estimate table files three
region codes with their confidences.  Two tables are equal when they file the same entries, and
entries are listed in the order of their keys.
-/

namespace PostalRegions

abbrev Table (β : Type) := Std.ExtTreeMap EntryKey β

abbrev ExactTable := Table RegionCode

/-- Region codes guessed for a postal code that the source data lacks.  The codes are kept as
supplied; they need not nest. -/
structure Estimate (κ : Type) where
  level1 : String
  level2 : String
  level3 : String
  confidences : Confidences κ
deriving DecidableEq, Repr

abbrev EstimateTable (κ : Type) := Table (Estimate κ)

def Table.countries {β : Type} (table : Table β) : CountrySet :=
  Std.ExtTreeSet.ofList (table.toList.map fun entry => entry.1.country)

/-- The estimates whose keys have no exact entry. -/
def EstimateTable.without {κ : Type} (estimates : EstimateTable κ) (exact : ExactTable) :
    EstimateTable κ :=
  estimates.filter fun key _ => !exact.contains key

end PostalRegions
