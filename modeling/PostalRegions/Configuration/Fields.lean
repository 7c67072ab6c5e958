import PostalRegions.Configuration.Document
import PostalRegions.Configuration.Settings

/-!
# Settings in a document

The names of the settings in a configuration document, and the values they take.  A missing name
leaves the setting as it is; other names are passed over.
-/

namespace PostalRegions

namespace Document

variable {κ α : Type}

def asText? : Document → Option String
  | .text value => some value
  | _ => none

def asTexts? : Document → Option (List String)
  | .list items => items.mapM asText?
  | _ => none

def asCount? : Document → Option Nat
  | .integer value => if 0 ≤ value ∧ value < Text.countBound then some value.toNat else none
  | _ => none

def asNumber? [Confidence κ] : Document → Option κ
  | .decimal literal => some (Confidence.ofLiteral literal)
  | .integer value => some (Confidence.ofLiteral (DecimalLiteral.ofInt value))
  | .notFinite => some Confidence.notFinite
  | _ => none

/-- Three values of one kind, named or in the order of their names.  Further ones are passed
over. -/
def asThree? (names : String × String × String) (read : Document → Option α) :
    Document → Option (α × α × α)
  | .table members => do
    let first ← (members.lookup names.1).bind read
    let second ← (members.lookup names.2.1).bind read
    let third ← (members.lookup names.2.2).bind read
    return (first, second, third)
  | .list (first :: second :: third :: _) => do
    return (← read first, ← read second, ← read third)
  | _ => none

def asConfidences? [Confidence κ] (document : Document) : Option (Confidences κ) :=
  (document.asThree? ("level1", "level2", "level3") asNumber?).map fun (level1, level2, level3) =>
    ⟨level1, level2, level3⟩

def asConfidenceTable? [Confidence κ] (document : Document) : Option (ConfidenceTable κ) :=
  (document.asThree? ("high", "medium", "low") asConfidences?).map fun (high, medium, low) =>
    ⟨high, medium, low⟩

end Document

namespace Settings

variable {κ α : Type}

/-- The value of a name, or the present one if the name is missing. -/
def fieldOr (members : List (String × Document)) (name : String) (read : Document → Option α)
    (present : α) : Option α :=
  match members.lookup name with
  | some document => read document
  | none => some present

/-- The settings with the values of a document, if they are of the right kinds. -/
def ofDocument? [Confidence κ] : Document → Option (Settings κ)
  | .table members => do
    let standard : Settings κ := .standard
    let baseAddress ← fieldOr members "source_base_url" Document.asText? standard.baseAddress
    let version ← fieldOr members "dataset_version" Document.asText? standard.version
    let countryNames ← fieldOr members "countries" Document.asTexts? standard.countryNames
    let dataFolder ← fieldOr members "data_dir" Document.asText? standard.dataFolder
    let cacheDays ← fieldOr members "cache_ttl_days" Document.asCount? standard.cacheDays
    let requestTimeout ←
      fieldOr members "request_timeout_secs" Document.asCount? standard.requestTimeout
    let listingTimeout ←
      fieldOr members "listing_timeout_secs" Document.asCount? standard.listingTimeout
    let retryDelay ← fieldOr members "retry_delay_secs" Document.asCount? standard.retryDelay
    let confidenceTable ←
      fieldOr members "confidence" Document.asConfidenceTable? standard.confidenceTable
    let caps ← fieldOr members "approximate_caps" Document.asConfidences? standard.policy.caps
    let floor ←
      fieldOr members "approximate_min_confidence" Document.asNumber? standard.policy.floor
    let extraAddresses ←
      fieldOr members "extra_source_urls" Document.asTexts? standard.extraAddresses
    let startupTimeout ←
      fieldOr members "startup_timeout_secs" Document.asCount? standard.startupTimeout
    let estimateFile ← fieldOr members "estimates_csv" Document.asText? standard.estimateFile
    let listenAddress ← fieldOr members "listen" Document.asText? standard.listenAddress
    let refreshHours ← fieldOr members "refresh_interval_hours" Document.asCount?
      standard.refreshHours
    return {
      baseAddress, version, countryNames, dataFolder, cacheDays, requestTimeout, listingTimeout
      retryDelay, confidenceTable, policy := ⟨caps, floor⟩, extraAddresses, startupTimeout
      estimateFile, listenAddress, refreshHours }
  | _ => none

end Settings

end PostalRegions
