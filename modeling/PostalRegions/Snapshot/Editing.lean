import PostalRegions.Snapshot.Store

/-!
# Editing snapshots by hand

The rows of a snapshot can be edited one by one, without the checks that a snapshot passes when
it is saved.  Only the keys are guarded: no two rows of a table have the same complete key.
-/

namespace PostalRegions

/-! ## Keys -/

/-- The key of a row, if all of its cells are there. -/
def ExactRow.key? (row : ExactRow) : Option (String × String) := do
  return (← row.country, ← row.code)

/-- The key of a row, if all of its cells are there. -/
def EstimateRow.key? {κ : Type} (row : EstimateRow κ) : Option (String × String) := do
  return (← row.country, ← row.code)

/-- Whether a row may join others: its key is not complete, or none of them has it. -/
def hasFreshKey {ρ γ : Type} [BEq γ] (key? : ρ → Option γ) (rows : List ρ) (row : ρ) : Bool :=
  match key? row with
  | none => true
  | some key => rows.all fun other => key? other != some key

/-- Adds rows up to the first one that may not join; tells whether all of them could. -/
def addRows {ρ γ : Type} [BEq γ] (key? : ρ → Option γ) (rows : List ρ) :
    List ρ → List ρ × Bool
  | [] => (rows, true)
  | row :: more =>
    if hasFreshKey key? rows row then addRows key? (rows ++ [row]) more else (rows, false)

/-! ## Tables -/

inductive TableName where
  | metadata
  | exact
  | estimates
deriving DecidableEq, Repr

def TableName.name : TableName → String
  | .metadata => "metadata"
  | .exact => "exact_entries"
  | .estimates => "estimates"

def TableName.ofName? (name : String) : Option TableName :=
  [TableName.metadata, .exact, .estimates].find? fun table => table.name = name

/-- Rows to be put into the tables.  A table for which no rows are given stays as it is. -/
structure RowEdit (κ : Type) where
  keepsRows : Bool
  metadata : Option (List MetadataRow)
  exact : Option (List ExactRow)
  estimates : Option (List (EstimateRow κ))

def putRows {ρ γ : Type} [BEq γ] (key? : ρ → Option γ) (keepsRows : Bool)
    (table rows : Option (List ρ)) : Option (List ρ) × Bool :=
  match table, rows with
  | table, none => (table, true)
  | none, some _ => (none, false)
  | some present, some rows =>
    let (table, complete) := addRows key? (if keepsRows then present else []) rows
    (some table, complete)

namespace Database

variable {κ : Type}

/-- Puts rows into one table after another, up to the first row that may not join. -/
def edit (database : Database κ) (rows : RowEdit κ) : Database κ × Bool :=
  match putRows MetadataRow.key rows.keepsRows database.metadata rows.metadata with
  | (metadata, false) => ({ database with metadata := metadata }, false)
  | (metadata, true) =>
    match putRows ExactRow.key? rows.keepsRows database.exact rows.exact with
    | (exact, false) => ({ database with metadata := metadata, exact := exact }, false)
    | (exact, true) =>
      let (estimates, complete) :=
        putRows EstimateRow.key? rows.keepsRows database.estimates rows.estimates
      (⟨metadata, exact, estimates⟩, complete)

def drop? (database : Database κ) (table : TableName) : Option (Database κ) :=
  match table with
  | .metadata => database.metadata.map fun _ => { database with metadata := none }
  | .exact => database.exact.map fun _ => { database with exact := none }
  | .estimates => database.estimates.map fun _ => { database with estimates := none }

end Database

namespace SnapshotStore

variable {κ : Type} [DatabaseFormat κ]

/-- Edits the rows of a snapshot.  If there is no file, one with three tables is made. -/
def edit (directory : DataDirectory κ) (path : String) (rows : RowEdit κ) (now : Instant) :
    DataDirectory κ × Except StoreError Unit :=
  let database? := if directory.isFile path then open? directory path else .ok .vacant
  match database? with
  | .error cause => (directory, .error cause)
  | .ok database =>
    let (database, complete) := database.edit rows
    match place directory path (.database database) now with
    | (directory, .error cause) => (directory, .error cause)
    | (directory, .ok ()) => (directory, if complete then .ok () else .error .database)

def drop (directory : DataDirectory κ) (path : String) (table : TableName) (now : Instant) :
    DataDirectory κ × Except StoreError Unit :=
  match (open? directory path).toOption.bind (·.drop? table) with
  | none => (directory, .error .database)
  | some database => place directory path (.database database) now

end SnapshotStore

end PostalRegions
