import PostalRegions.Entry.Table
import PostalRegions.Postal.Registry

/-!
# Filing entries

The key under which a postal code is filed, and the two ways of adding an entry to a table that
already has one under its key.
-/

namespace PostalRegions

def EntryKey.ofPostalCode (country : Country) (raw : String) : EntryKey :=
  ⟨country, postalKey country raw⟩

/-- The key that a query asks for, if it names a country. -/
def EntryKey.ofQuery? (country postalCode : String) : Option EntryKey :=
  (Country.parseLoose country).toOption.map fun parsed =>
    EntryKey.ofPostalCode parsed.provider postalCode

/-- Which of two entries under one key stays. -/
inductive WriteMode where
  | firstWins
  | lastWins
deriving DecidableEq, Repr

namespace ExactTable

def put (table : ExactTable) (key : EntryKey) (region : RegionCode) (mode : WriteMode) :
    ExactTable :=
  match mode with
  | .firstWins => table.insertIfNew key region
  | .lastWins => table.insert key region

/-- Files an entry, and tells whether its key was new.  An entry that is there stays or is replaced,
as the mode says. -/
def file (table : ExactTable) (key : EntryKey) (region : RegionCode) (mode : WriteMode) :
    ExactTable × Bool :=
  match table[key]?, mode with
  | none, _ => (table.insert key region, true)
  | some _, .firstWins => (table, false)
  | some _, .lastWins => (table.insert key region, false)

theorem contains_put (table : ExactTable) (key other : EntryKey) (region : RegionCode)
    (mode : WriteMode) :
    (table.put key region mode).contains other =
      (compare key other == .eq || table.contains other) := by
  cases mode
  · simp [put]
  · simp [put]

end ExactTable

end PostalRegions
