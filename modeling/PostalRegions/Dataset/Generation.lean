import PostalRegions.Calendar.Instant
import PostalRegions.Lookup.Tables

/-!
# Generations

The service answers from one generation at a time: unchangeable lookup tables together with what
is known about their making.
-/

namespace PostalRegions

structure GenerationStatus where
  loadedCountries : CountrySet := ∅
  /-- Whether the data is partial, or older than a successful rebuild would give. -/
  isStale : Bool := false
  loadedAt : Option Instant := none
  extraSourceCount : Nat := 0

structure Generation (κ : Type) where
  tables : LookupTables κ
  status : GenerationStatus

namespace Generation

variable {κ : Type} [Confidence κ]

def initial : Generation κ :=
  ⟨.ofTables ∅ ∅ .standard, {}⟩

def lookup (generation : Generation κ) (country postalCode : String) : Option (RegionMatch κ) :=
  generation.tables.lookup country postalCode

end Generation

end PostalRegions
