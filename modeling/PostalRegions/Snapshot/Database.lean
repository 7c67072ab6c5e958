import PostalRegions.Entry.Table
import PostalRegions.Snapshot.Metadata

/-!
# The tables of a snapshot

A snapshot is kept as three tables of rows whose cells may be empty.  Entries are read from the
rows that are complete and well formed; other rows are passed over.
-/

namespace PostalRegions

structure ExactRow where
  country : Option String
  code : Option String
  region : Option String
deriving DecidableEq, Repr

structure EstimateRow (κ : Type) where
  country : Option String
  code : Option String
  level1 : Option String
  level2 : Option String
  level3 : Option String
  confidence1 : Option κ
  confidence2 : Option κ
  confidence3 : Option κ
deriving DecidableEq, Repr

structure MetadataRow where
  key : Option String
  value : Option String
deriving DecidableEq, Repr

/-- The tables of a snapshot file, as far as they are there. -/
structure Database (κ : Type) where
  metadata : Option (List MetadataRow)
  exact : Option (List ExactRow)
  estimates : Option (List (EstimateRow κ))
deriving DecidableEq, Repr

structure Snapshot (κ : Type) where
  exact : ExactTable
  estimates : EstimateTable κ

/-! ## Rows of entries -/

namespace ExactRow

def ofEntry (entry : EntryKey × RegionCode) : ExactRow :=
  ⟨some entry.1.country.code, some entry.1.code, some entry.2.code⟩

def toEntry? (row : ExactRow) : Option (EntryKey × RegionCode) := do
  let country ← (Country.parse (← row.country)).toOption
  let code ← row.code
  let region ← (RegionCode.parse (← row.region)).toOption
  if code.isEmpty then none else some (⟨country, code⟩, region)

end ExactRow

namespace EstimateRow

variable {κ : Type}

def ofEntry (entry : EntryKey × Estimate κ) : EstimateRow κ where
  country := some entry.1.country.code
  code := some entry.1.code
  level1 := some entry.2.level1
  level2 := some entry.2.level2
  level3 := some entry.2.level3
  confidence1 := some entry.2.confidences.level1
  confidence2 := some entry.2.confidences.level2
  confidence3 := some entry.2.confidences.level3

def toEntry? (row : EstimateRow κ) : Option (EntryKey × Estimate κ) := do
  let country ← (Country.parse (← row.country)).toOption
  let code ← row.code
  let confidences : Confidences κ :=
    ⟨← row.confidence1, ← row.confidence2, ← row.confidence3⟩
  return (⟨country, code⟩, ⟨← row.level1, ← row.level2, ← row.level3, confidences⟩)

end EstimateRow

/-! ## Tables of rows -/

namespace Database

variable {κ : Type}

def blank : Database κ :=
  ⟨none, none, none⟩

def vacant : Database κ :=
  ⟨some [], some [], some []⟩

def ofSnapshot (snapshot : Snapshot κ) (metadata : Metadata) : Database κ where
  metadata := some (metadata.toPairs.map fun (key, value) => ⟨some key, some value⟩)
  exact := some (snapshot.exact.toList.map ExactRow.ofEntry)
  estimates := some (snapshot.estimates.toList.map EstimateRow.ofEntry)

def exactOf (rows : List ExactRow) : ExactTable :=
  Std.ExtTreeMap.ofList (rows.filterMap ExactRow.toEntry?)

def estimatesOf (rows : List (EstimateRow κ)) : EstimateTable κ :=
  Std.ExtTreeMap.ofList (rows.filterMap EstimateRow.toEntry?)

/-- The pairs of rows of facts, if each of them has a key; a fact without a value is none. -/
def pairsOf? (rows : List MetadataRow) : Option (List (String × String)) :=
  (rows.mapM fun (row : MetadataRow) => row.key.map fun key => (key, row.value)).map fun pairs =>
    pairs.filterMap fun (key, value) => value.map fun value => (key, value)

end Database

end PostalRegions
