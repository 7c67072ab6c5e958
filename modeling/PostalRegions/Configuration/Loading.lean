import PostalRegions.Configuration.Fields
import PostalRegions.Text.Blank
import PostalRegions.Toml.Reading

/-!
# Loading settings

Settings come from a configuration file, are overridden by environment variables, and are then
checked.  The first fault found is reported.
-/

namespace PostalRegions

inductive SettingsFault where
  | emptyVersion
  | floorRange
  | capsRange
  | cacheDaysRange
  | refreshHoursRange
  | startupTimeoutRange
  | confidenceRange
deriving DecidableEq, Repr

inductive SettingsError where
  | unreadable
  | malformed
  | environment (name value : String)
  | invalid (fault : SettingsFault)
deriving DecidableEq, Repr

namespace Settings

/-- The greatest age of cached data, in days. -/
def maxCacheDays : Nat :=
  36500

/-- The greatest time between two rebuilds, in hours. -/
def maxRefreshHours : Nat :=
  87600

/-- The greatest duration of an acquisition, in seconds. -/
def maxStartupTimeout : Nat :=
  24 * 60 * 60

end Settings

def SettingsFault.message : SettingsFault → String
  | .emptyVersion => "dataset_version must not be empty"
  | .floorRange => "approximate_min_confidence must be in [0.0, 1.0]"
  | .capsRange => "approximate_caps must be in [0.0, 1.0]"
  | .cacheDaysRange => "cache_ttl_days must be at most " ++ toString Settings.maxCacheDays
  | .refreshHoursRange =>
    "refresh_interval_hours must be at most " ++ toString Settings.maxRefreshHours
  | .startupTimeoutRange =>
    "startup_timeout_secs must be at most " ++ toString Settings.maxStartupTimeout
  | .confidenceRange => "confidence values must be in [0.0, 1.0]"

def SettingsError.message? : SettingsError → Option String
  | .unreadable => none
  | .malformed => none
  | .environment name value => some ("invalid value for " ++ name ++ ": " ++ value)
  | .invalid fault => some ("invalid setting: " ++ fault.message)

namespace Settings

variable {κ : Type}

/-! ## Environment -/

def variableLead : String :=
  "REGION_SERVER_"

def variableNames : List String :=
  ["SOURCE_BASE_URL", "DATASET_VERSION", "DATA_DIR", "CACHE_TTL_DAYS", "EXTRA_SOURCE_URLS",
   "STARTUP_TIMEOUT_SECS", "ESTIMATES_CSV", "LISTEN"].map (variableLead ++ ·)

/-- The parts of a list in one text: between commas, trimmed, without empty ones. -/
def listed (text : String) : List String :=
  ((text.splitOn ",").map Text.trim).filter fun part => !part.isEmpty

/-- The count in an environment variable, or the present one if it is not set. -/
def countOr (environment : List (String × String)) (name : String) (present : Nat) :
    Except SettingsError Nat :=
  match environment.lookup (variableLead ++ name) with
  | none => .ok present
  | some value =>
    (Text.parseCount (Text.trim value)).mapError fun _ =>
      .environment (variableLead ++ name) value

def withEnvironment (settings : Settings κ) (environment : List (String × String)) :
    Except SettingsError (Settings κ) := do
  let textOr (name present : String) : String :=
    (environment.lookup (variableLead ++ name)).getD present
  let cacheDays ← countOr environment "CACHE_TTL_DAYS" settings.cacheDays
  let startupTimeout ← countOr environment "STARTUP_TIMEOUT_SECS" settings.startupTimeout
  return { settings with
    baseAddress := textOr "SOURCE_BASE_URL" settings.baseAddress
    version := textOr "DATASET_VERSION" settings.version
    dataFolder := textOr "DATA_DIR" settings.dataFolder
    cacheDays := cacheDays
    startupTimeout := startupTimeout
    extraAddresses :=
      ((environment.lookup (variableLead ++ "EXTRA_SOURCE_URLS")).map listed).getD
        settings.extraAddresses
    estimateFile := textOr "ESTIMATES_CSV" settings.estimateFile
    listenAddress := textOr "LISTEN" settings.listenAddress }

/-! ## Ranges -/

def fault? [Confidence κ] (settings : Settings κ) : Option SettingsFault :=
  if Text.isAllBlank settings.version.toList then some .emptyVersion
  else if !Confidence.inUnitRange settings.policy.floor then some .floorRange
  else if !settings.policy.caps.inUnitRange then some .capsRange
  else if maxCacheDays < settings.cacheDays then some .cacheDaysRange
  else if maxRefreshHours < settings.refreshHours then some .refreshHoursRange
  else if maxStartupTimeout < settings.startupTimeout then some .startupTimeoutRange
  else if !settings.confidenceTable.inUnitRange then some .confidenceRange
  else none

/-- The settings, if all of them are in their ranges. -/
def validate [Confidence κ] (settings : Settings κ) : Except SettingsError (Settings κ) :=
  match settings.fault? with
  | some fault => .error (.invalid fault)
  | none => .ok settings

/-! ## Files -/

def ofFile [Confidence κ] (content : ByteArray) : Except SettingsError (Settings κ) :=
  match String.fromUTF8? content with
  | none => .error .unreadable
  | some text =>
    match (Toml.parse? text).bind ofDocument? with
    | none => .error .malformed
    | some settings => .ok settings

inductive File where
  | unnamed
  | absent
  | present (content : ByteArray)

def load [Confidence κ] (file : File) (environment : List (String × String)) :
    Except SettingsError (Settings κ) := do
  let settings ← match file with
    | .unnamed => .ok .standard
    | .absent => .error .unreadable
    | .present content => ofFile content
  let settings ← settings.withEnvironment environment
  settings.validate

end Settings

end PostalRegions
