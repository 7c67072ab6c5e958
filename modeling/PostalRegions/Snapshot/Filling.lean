import PostalRegions.Snapshot.Database

/-!
# Filling the tables of a snapshot

A snapshot is stored by one statement after another.  A statement takes only so many parameters, so
the entries are inserted in chunks.
-/

namespace PostalRegions

/-! ## Chunks -/

/-- How many exact entries one statement inserts. -/
def exactChunkSize : Nat :=
  1000

/-- How many estimates one statement inserts. -/
def estimateChunkSize : Nat :=
  400

section Chunks

variable {α : Type}

/-- The chunks of a list, given how many items there is room for in the chunk that was begun, and
the items of that chunk, last first. -/
def chunksFrom (size : Nat) : (room : Nat) → (begun : List α) → List α → List (List α)
  | _, begun, [] => if begun.isEmpty then [] else [begun.reverse]
  | room + 1, begun, item :: rest => chunksFrom size room (item :: begun) rest
  | 0, begun, item :: rest => begun.reverse :: chunksFrom size (size - 1) [item] rest

/-- Cuts a list into chunks of a size; the last chunk may be shorter. -/
def chunks (size : Nat) (items : List α) : List (List α) :=
  chunksFrom size size [] items

theorem flatten_chunksFrom (size room : Nat) (begun items : List α) :
    (chunksFrom size room begun items).flatten = begun.reverse ++ items := by
  induction items generalizing room begun with
  | nil => cases begun <;> simp [chunksFrom]
  | cons item rest ih =>
      cases room with
      | zero => simp [chunksFrom, ih]
      | succ room => simp [chunksFrom, ih]

/-- No item is lost or repeated where a chunk ends. -/
theorem flatten_chunks (size : Nat) (items : List α) : (chunks size items).flatten = items :=
  flatten_chunksFrom size size [] items

example : chunks 3 [1, 2, 3, 4, 5, 6, 7] = [[1, 2, 3], [4, 5, 6], [7]] := by
  decide

end Chunks

/-! ## Statements -/

/-- A statement that adds rows to a table. -/
inductive Insertion (κ : Type) where
  | exact (rows : List ExactRow)
  | estimates (rows : List (EstimateRow κ))
  | fact (row : MetadataRow)

namespace Database

variable {κ : Type}

def insert (database : Database κ) : Insertion κ → Database κ
  | .exact rows => { database with exact := database.exact.map (· ++ rows) }
  | .estimates rows => { database with estimates := database.estimates.map (· ++ rows) }
  | .fact row => { database with metadata := database.metadata.map (· ++ [row]) }

/-- The statements that store a snapshot: its entries chunk by chunk, then its facts one by one. -/
def insertions (snapshot : Snapshot κ) (metadata : Metadata) : List (Insertion κ) :=
  (chunks exactChunkSize snapshot.exact.toList).map
      (fun entries => .exact (entries.map ExactRow.ofEntry)) ++
    (chunks estimateChunkSize snapshot.estimates.toList).map
      (fun entries => .estimates (entries.map EstimateRow.ofEntry)) ++
    metadata.toPairs.map fun (key, value) => .fact ⟨some key, some value⟩

/-- New tables after all the statements that store a snapshot. -/
def fill (snapshot : Snapshot κ) (metadata : Metadata) : Database κ :=
  (insertions snapshot metadata).foldl insert vacant

theorem foldl_insert_exact (chunks : List (List (EntryKey × RegionCode)))
    (metadata : Option (List MetadataRow)) (rows : List ExactRow)
    (estimates : Option (List (EstimateRow κ))) :
    (chunks.map fun entries => Insertion.exact (entries.map ExactRow.ofEntry)).foldl insert
        ⟨metadata, some rows, estimates⟩ =
      ⟨metadata, some (rows ++ chunks.flatten.map ExactRow.ofEntry), estimates⟩ := by
  induction chunks generalizing rows with
  | nil => simp
  | cons chunk later ih => simp [insert, ih]

theorem foldl_insert_estimates (chunks : List (List (EntryKey × Estimate κ)))
    (metadata : Option (List MetadataRow)) (exact : Option (List ExactRow))
    (rows : List (EstimateRow κ)) :
    (chunks.map fun entries => Insertion.estimates (entries.map EstimateRow.ofEntry)).foldl insert
        ⟨metadata, exact, some rows⟩ =
      ⟨metadata, exact, some (rows ++ chunks.flatten.map EstimateRow.ofEntry)⟩ := by
  induction chunks generalizing rows with
  | nil => simp
  | cons chunk later ih => simp [insert, ih]

/-- Filled chunk by chunk, the tables hold the snapshot as a whole. -/
theorem fill_eq_ofSnapshot (snapshot : Snapshot κ) (metadata : Metadata) :
    fill snapshot metadata = ofSnapshot snapshot metadata := by
  unfold fill insertions vacant
  rw [List.foldl_append, List.foldl_append, foldl_insert_exact, flatten_chunks,
    foldl_insert_estimates, flatten_chunks]
  rfl

end Database

end PostalRegions
