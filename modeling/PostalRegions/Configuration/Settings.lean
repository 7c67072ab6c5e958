import PostalRegions.Country
import PostalRegions.Estimate.Label
import PostalRegions.Lookup.Approximation
import PostalRegions.Snapshot.Metadata
import PostalRegions.Source.Fingerprint
import PostalRegions.Storage.Path

/-!
# Settings

Everything an operator can set, with the values that hold unless others are set.  Durations are
whole numbers of their unit.
-/

namespace PostalRegions

structure Settings (κ : Type) where
  baseAddress : String
  version : String
  countryNames : List String
  dataFolder : String
  /-- From which age on, in days, snapshots and cached archives are too old. -/
  cacheDays : Nat
  /-- How many seconds a download may take. -/
  requestTimeout : Nat
  /-- How many seconds the listing may take. -/
  listingTimeout : Nat
  /-- How many seconds pass before another attempt. -/
  retryDelay : Nat
  confidenceTable : ConfidenceTable κ
  policy : ApproximationPolicy κ
  extraAddresses : List String
  /-- How many seconds one acquisition may take. -/
  startupTimeout : Nat
  estimateFile : String
  listenAddress : String
  refreshHours : Nat

def coveredCountries : List String :=
  ["AT", "BE", "BG", "CY", "CZ", "DE", "DK", "EE", "EL", "ES", "FI", "FR", "HR", "HU", "IE",
   "IT", "LT", "LU", "LV", "MT", "NL", "PL", "PT", "RO", "SE", "SI", "SK",
   "CH", "IS", "LI", "NO",
   "AL", "BA", "GE", "ME", "MD", "MK", "RS", "TR", "UA", "XK",
   "UK"]

namespace Settings

variable {κ : Type}

/-- The settings that hold unless others are set. -/
def standard [Confidence κ] : Settings κ where
  baseAddress := "https://gisco-services.ec.europa.eu/tercet/NUTS-2024/"
  version := "2024"
  countryNames := coveredCountries
  dataFolder := "./data"
  cacheDays := 30
  requestTimeout := 60
  listingTimeout := 30
  retryDelay := 2
  confidenceTable := .standard
  policy := .standard
  extraAddresses := []
  startupTimeout := 300
  estimateFile := "./data/estimates.csv"
  listenAddress := "127.0.0.1:8000"
  refreshHours := 24

def greatestDuration : Nat :=
  Text.countBound - 1

/-- The configured countries; a name that is no country is left out. -/
def countries (settings : Settings κ) : List Country :=
  settings.countryNames.filterMap fun name => (Country.parseLoose name).toOption

/-- From which age on, in seconds, snapshots and cached archives are too old. -/
def timeToLive (settings : Settings κ) : Nat :=
  min (settings.cacheDays * secondsPerDay) greatestDuration

def refreshInterval (settings : Settings κ) : Nat :=
  min (settings.refreshHours * 3600) greatestDuration

def snapshotPath (settings : Settings κ) : String :=
  Storage.join settings.dataFolder ("postal-regions-" ++ settings.version ++ ".db")

def archiveFolder (settings : Settings κ) : String :=
  Storage.join settings.dataFolder ("archives-" ++ settings.version)

def extraFingerprint (settings : Settings κ) : String :=
  fingerprint settings.extraAddresses

def expectation (settings : Settings κ) : Expectation :=
  ⟨settings.version, settings.timeToLive, settings.extraFingerprint⟩

end Settings

end PostalRegions
