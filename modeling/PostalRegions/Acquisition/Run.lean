import PostalRegions.Acquisition.Merging
import PostalRegions.Source.Address

/-!
# Running an acquisition

The exact table is built in three passes: over the archives that the listing page links, over
guessed addresses for the configured countries that are still missing, and over the operator's
own archives, which override all others.  From the deadline on nothing more is begun.
-/

namespace PostalRegions

inductive Ingest where
  | merged (added : Nat)
  | unavailable
  | deadline
deriving DecidableEq, Repr

namespace AcquisitionTask

variable {κ : Type} [DatabaseFormat κ]

/-! ## One archive -/

/-- Keeps a downloaded archive in the cache, if its address names a file. -/
def keep (task : AcquisitionTask) (state : AcquisitionState κ) (address : String)
    (content : ByteArray) : AcquisitionState κ :=
  match archiveName? address with
  | none => state
  | some name =>
    match task.cache.save state.directory name content (task.wall state.clock) with
    | (directory, true) => { state with directory := directory }.record (.kept name content)
    | (directory, false) => { state with directory := directory }

/-- Downloads an archive.  What is no archive is a source that cannot be used. -/
def download (task : AcquisitionTask) (state : AcquisitionState κ) (address : String) :
    AcquisitionState κ × Option ByteArray :=
  let reply := task.fetcher.archive state.requests address
  let state := (state.record (.requested (.archive address))).wait reply.elapsed
  match reply.answer with
  | .ok none => (state, none)
  | .error _ => (state.skipSource, none)
  | .ok (some content) =>
    if Archive.isReadable content then (task.keep state address content, some content)
    else (state.skipSource, none)

/-- The cached copy of an archive; one that cannot be used is removed. -/
def fromCache (task : AcquisitionTask) (state : AcquisitionState κ) (address : String) :
    AcquisitionState κ × Option ByteArray :=
  match archiveName? address with
  | none => (state, none)
  | some name =>
    match task.cache.load state.directory name (task.wall state.clock) with
    | (directory, .usable content) =>
      ({ state with directory := directory }.record (.reused name), some content)
    | (directory, .unusable) =>
      ({ state with directory := directory }.record (.removed name), none)
    | (directory, .absent) => ({ state with directory := directory }, none)

/-- The archive at an address, from the cache or else from the network. -/
def obtain (task : AcquisitionTask) (state : AcquisitionState κ) (address : String) :
    AcquisitionState κ × Option ByteArray :=
  match task.fromCache state address with
  | (state, some content) => (state, some content)
  | (state, none) => task.download state address

def ingest (task : AcquisitionTask) (state : AcquisitionState κ) (address : String)
    (country : Option Country) (mode : WriteMode) : AcquisitionState κ × Ingest :=
  match state.checkDeadline task.plan with
  | (state, true) => (state, .deadline)
  | (state, false) =>
    match task.obtain state address with
    | (state, none) => (state, .unavailable)
    | (state, some content) =>
      match Archive.tables? content with
      | none => (state.skipSource, .unavailable)
      | some tables =>
        let before := state.table.size
        let state := (state.record (.merged address country mode content)).mergeTables
          task.plan.version country mode tables
        (state, .merged (state.table.size - before))

def noteLoaded (state : AcquisitionState κ) (country : Country) (added : Nat) :
    AcquisitionState κ :=
  if added = 0 then state else state.loaded country

/-! ## Listed archives -/

/-- Ingests listed archives; an archive whose address names no country is passed over. -/
def ingestListed (task : AcquisitionTask) : List String → AcquisitionState κ → AcquisitionState κ
  | [], state => state
  | address :: rest, state =>
    match countryOfArchive? address with
    | none => task.ingestListed rest state
    | some country =>
      match task.ingest state address (some country) .firstWins with
      | (state, .merged added) => task.ingestListed rest (noteLoaded state country added)
      | (state, .unavailable) => task.ingestListed rest state
      | (state, .deadline) => state

def listedPass (task : AcquisitionTask) (state : AcquisitionState κ) : AcquisitionState κ :=
  match state.checkDeadline task.plan with
  | (state, true) => state
  | (state, false) =>
    let address := task.plan.baseAddress
    let reply := task.fetcher.listing state.requests address
    let state := (state.record (.requested (.listing address))).wait reply.elapsed
    match reply.answer with
    | .error _ => state
    | .ok page => task.ingestListed (archiveLinks page address) state

/-! ## Guessed archives -/

def ingestGuessed (task : AcquisitionTask) (country : Country) :
    List String → AcquisitionState κ → AcquisitionState κ
  | [], state => state
  | address :: rest, state =>
    match task.ingest state address (some country) .firstWins with
    | (state, .merged added) => noteLoaded state country added
    | (state, .unavailable) => task.ingestGuessed country rest state
    | (state, .deadline) => state

def ingestCountries (task : AcquisitionTask) :
    List Country → AcquisitionState κ → AcquisitionState κ
  | [], state => state
  | country :: rest, state =>
    let addresses := guessedAddresses task.plan.baseAddress task.plan.version country
    let state := task.ingestGuessed country addresses state
    if state.report.timedOut then state else task.ingestCountries rest state

def guessedPass (task : AcquisitionTask) (state : AcquisitionState κ) : AcquisitionState κ :=
  let missing := task.plan.countries.filter fun country =>
    !state.report.loadedCountries.contains country
  task.ingestCountries missing state

/-! ## The operator's archives -/

/-- Ingests the operator's archives; an address that cannot be one is skipped. -/
def ingestExtra (task : AcquisitionTask) : List String → AcquisitionState κ → AcquisitionState κ
  | [], state => state
  | address :: rest, state =>
    match rejection? address with
    | some _ => task.ingestExtra rest state.skipSource
    | none =>
      match task.ingest state address (countryOfArchive? address) .lastWins with
      | (state, .deadline) => state
      | (state, _) => task.ingestExtra rest state

def extraPass (task : AcquisitionTask) (state : AcquisitionState κ) : AcquisitionState κ :=
  task.ingestExtra task.plan.extraAddresses state

/-! ## The run -/

/-- The next pass, unless the deadline cut the one before short. -/
def unlessTimedOut (pass : AcquisitionState κ → AcquisitionState κ) (state : AcquisitionState κ) :
    AcquisitionState κ :=
  if state.report.timedOut then state else pass state

def run (task : AcquisitionTask) (directory : DataDirectory κ) (clock : Nat) :
    AcquisitionState κ :=
  let state := task.listedPass (.start directory clock)
  let state := unlessTimedOut task.guessedPass state
  unlessTimedOut task.extraPass state

end AcquisitionTask

end PostalRegions
