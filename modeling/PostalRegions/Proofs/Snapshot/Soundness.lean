import PostalRegions.Proofs.Postal.Canonical
import PostalRegions.Proofs.Snapshot.Reading
import PostalRegions.Proofs.Snapshot.Writing
import PostalRegions.Snapshot.Editing
import Std.Data.String.ToNat

/-!
# Sound snapshots

A snapshot is sound if all its keys are canonical and no key has both an exact entry and an
estimate.  A stored snapshot is sound if this holds of its rows, and the counts among its facts
are the numbers of rows.  Saving a snapshot keeps all snapshot files sound.  Replacing its estimates
does so unless the file was not stored here: the exact entries of such a file are not checked.
-/

namespace PostalRegions

/-! ## Soundness -/

def Table.HasKeyTexts {β : Type} (table : Table β) : Prop :=
  ∀ key ∈ table, IsKeyText key.code

/-- What is kept in a snapshot is filed under canonical keys, and under each key once. -/
structure Snapshot.IsSound {κ : Type} (snapshot : Snapshot κ) : Prop where
  exactKeys : Table.HasKeyTexts snapshot.exact
  estimateKeys : Table.HasKeyTexts snapshot.estimates
  disjoint : ∀ key ∈ snapshot.exact, key ∉ snapshot.estimates

structure RowsAreSound {κ : Type} (facts : List (String × String)) (exact : List ExactRow)
    (estimates : List (EstimateRow κ)) : Prop where
  exactKeys : ∀ row ∈ exact, ∃ country code, row.key? = some (country, code) ∧ IsKeyText code
  estimateKeys :
    ∀ row ∈ estimates, ∃ country code, row.key? = some (country, code) ∧ IsKeyText code
  disjoint : ∀ exactRow ∈ exact, ∀ estimateRow ∈ estimates, exactRow.key? ≠ estimateRow.key?
  exactCount : Metadata.textOf facts .exactCount = .ok (toString exact.length)
  estimateCount : Metadata.textOf facts .estimateCount = .ok (toString estimates.length)

def Database.IsSound {κ : Type} (database : Database κ) : Prop :=
  ∃ facts exact estimates,
    database.metadata.bind Database.pairsOf? = some facts ∧ database.exact = some exact ∧
      database.estimates = some estimates ∧ RowsAreSound facts exact estimates

/-- A snapshot file holds a sound snapshot, together with the right counts. -/
structure Database.Holds {κ : Type} (database : Database κ) (snapshot : Snapshot κ)
    (metadata : Metadata) : Prop where
  written : database = .ofSnapshot snapshot metadata
  sound : snapshot.IsSound
  exactCount : metadata.exactCount = snapshot.exact.size
  estimateCount : metadata.estimateCount = snapshot.estimates.size

/-- What was stored in a file is a sound snapshot. -/
def Content.IsFaithful {κ : Type} : Content κ → Prop
  | .plain _ => True
  | .database stored => ∃ snapshot metadata, stored.Holds snapshot metadata

abbrev DataDirectory.IsFaithful {κ : Type} (directory : DataDirectory κ) : Prop :=
  directory.EveryFile fun _ content => content.IsFaithful

/-- The file at a path was not stored here, whatever its bytes are. -/
def DataDirectory.IsForeign {κ : Type} (directory : DataDirectory κ) (path : String) : Prop :=
  ∃ bytes modified, directory.file? path = some (.plain bytes, modified)

namespace Table

variable {β : Type}

theorem HasKeyTexts.empty : (∅ : Table β).HasKeyTexts := by
  intro key hkey
  simp at hkey

theorem HasKeyTexts.ne_empty {table : Table β} (hkeys : table.HasKeyTexts) :
    ∀ key ∈ table, key.code ≠ "" :=
  fun key hkey => (hkeys key hkey).1

end Table

namespace EstimateTable

variable {κ : Type}

theorem mem_without {estimates : EstimateTable κ} {exact : ExactTable} {key : EntryKey} :
    key ∈ estimates.without exact ↔ key ∈ estimates ∧ key ∉ exact := by
  unfold without
  have hcontains : (!exact.contains key) = true ↔ key ∉ exact := by
    rw [Bool.not_eq_true', Bool.eq_false_iff, ne_eq, Std.ExtTreeMap.contains_iff_mem]
  rw [Std.ExtTreeMap.mem_filter]
  simp only [Std.ExtTreeMap.getKey_eq, hcontains, exists_prop]

theorem getElem?_without {estimates : EstimateTable κ} {exact : ExactTable} {key : EntryKey} :
    (estimates.without exact)[key]? = if key ∈ exact then none else estimates[key]? := by
  unfold without
  rw [Std.ExtTreeMap.getElem?_filter']
  by_cases hkey : key ∈ exact
  · rw [if_pos hkey, Std.ExtTreeMap.contains_iff_mem.mpr hkey]
    cases estimates[key]? <;> rfl
  · rw [if_neg hkey, Bool.eq_false_iff.mpr (mt Std.ExtTreeMap.contains_iff_mem.mp hkey)]
    cases estimates[key]? <;> rfl

theorem without_without (estimates : EstimateTable κ) (exact : ExactTable) :
    (estimates.without exact).without exact = estimates.without exact := by
  apply Std.ExtTreeMap.ext_getElem?
  intro key
  rw [getElem?_without]
  split
  · rename_i hkey
    rw [getElem?_without, if_pos hkey]
  · rfl

theorem isSound_without {estimates : EstimateTable κ} {exact : ExactTable}
    (hexact : Table.HasKeyTexts exact) (hestimates : Table.HasKeyTexts estimates) :
    Snapshot.IsSound ⟨exact, estimates.without exact⟩ where
  exactKeys := hexact
  estimateKeys := fun key hkey => hestimates key (mem_without.mp hkey).1
  disjoint := fun _ hkey hwithout => (mem_without.mp hwithout).2 hkey

end EstimateTable

/-! ## From entries to rows -/

theorem EntryKey.eq_of_texts {key other : EntryKey}
    (hcountry : key.country.code = other.country.code) (hcode : key.code = other.code) :
    key = other := by
  obtain ⟨⟨country, _⟩, code⟩ := key
  obtain ⟨⟨otherCountry, _⟩, otherCode⟩ := other
  cases hcountry
  cases hcode
  rfl

namespace Database

variable {κ : Type}

theorem key?_of_mem_exact {exact : ExactTable} {row : ExactRow}
    (hrow : row ∈ exact.toList.map ExactRow.ofEntry) :
    ∃ key ∈ exact, row.key? = some (key.country.code, key.code) := by
  obtain ⟨entry, hentry, rfl⟩ := List.mem_map.mp hrow
  exact ⟨entry.1, Table.mem_of_mem_toList hentry, rfl⟩

theorem key?_of_mem_estimates {estimates : EstimateTable κ} {row : EstimateRow κ}
    (hrow : row ∈ estimates.toList.map EstimateRow.ofEntry) :
    ∃ key ∈ estimates, row.key? = some (key.country.code, key.code) := by
  obtain ⟨entry, hentry, rfl⟩ := List.mem_map.mp hrow
  exact ⟨entry.1, Table.mem_of_mem_toList hentry, rfl⟩

theorem exists_row_of_mem {β ρ : Type} {table : Table β} (write : EntryKey × β → ρ)
    {key : EntryKey} (hkey : key ∈ table) :
    ∃ entry : EntryKey × β, entry.1 = key ∧ write entry ∈ table.toList.map write := by
  have hfound := Std.ExtTreeMap.mem_iff_isSome_getElem?.mp hkey
  obtain ⟨value, hvalue⟩ := Option.isSome_iff_exists.mp hfound
  exact ⟨(key, value), rfl,
    List.mem_map_of_mem (Std.ExtTreeMap.mem_toList_iff_getElem?_eq_some.mpr hvalue)⟩

theorem Holds.isSound {database : Database κ} {snapshot : Snapshot κ} {metadata : Metadata}
    (hholds : database.Holds snapshot metadata) : database.IsSound := by
  obtain ⟨rfl, hsound, hexact, hestimates⟩ := hholds
  refine ⟨metadata.toPairs, _, _, pairsOf?_toPairs metadata, rfl, rfl, ?_⟩
  constructor
  · intro row hrow
    obtain ⟨key, hkey, hrowKey⟩ := key?_of_mem_exact hrow
    exact ⟨key.country.code, key.code, hrowKey, hsound.exactKeys key hkey⟩
  · intro row hrow
    obtain ⟨key, hkey, hrowKey⟩ := key?_of_mem_estimates hrow
    exact ⟨key.country.code, key.code, hrowKey, hsound.estimateKeys key hkey⟩
  · intro exactRow hexactRow estimateRow hestimateRow hsame
    obtain ⟨key, hkey, hexactKey⟩ := key?_of_mem_exact hexactRow
    obtain ⟨other, hother, hestimateKey⟩ := key?_of_mem_estimates hestimateRow
    rw [hexactKey, hestimateKey] at hsame
    simp only [Option.some.injEq, Prod.mk.injEq] at hsame
    have hkeys : key = other := EntryKey.eq_of_texts hsame.1 hsame.2
    rw [hkeys] at hkey
    exact hsound.disjoint other hkey hother
  · rw [Metadata.textOf_toPairs, List.length_map, Std.ExtTreeMap.length_toList, ← hexact]
    rfl
  · rw [Metadata.textOf_toPairs, List.length_map, Std.ExtTreeMap.length_toList, ← hestimates]
    rfl

/-- What is asked of the rows of a stored snapshot holds of its exact entries. -/
theorem exact_of_isSound {snapshot : Snapshot κ} {metadata : Metadata}
    (hsound : (ofSnapshot snapshot metadata).IsSound) :
    Table.HasKeyTexts snapshot.exact ∧ metadata.exactCount = snapshot.exact.size := by
  obtain ⟨facts, exact, estimates, hfacts, hexact, _, hrows⟩ := hsound
  have hpairs : some metadata.toPairs = some facts := hfacts
  cases hpairs
  cases hexact
  constructor
  · intro key hkey
    obtain ⟨entry, rfl, hrow⟩ := exists_row_of_mem ExactRow.ofEntry hkey
    obtain ⟨country, code, hkey, hcode⟩ := hrows.exactKeys _ hrow
    simp only [ExactRow.key?, ExactRow.ofEntry, Option.pure_def, Option.bind_eq_bind,
      Option.bind_some, Option.some.injEq, Prod.mk.injEq] at hkey
    rw [hkey.2]
    exact hcode
  · have hcount := hrows.exactCount
    rw [Metadata.textOf_toPairs, List.length_map, Std.ExtTreeMap.length_toList] at hcount
    exact Nat.repr_injective (Except.ok.inj hcount)

end Database

/-! ## Reading and writing sound snapshots -/

namespace SnapshotStore

variable {κ : Type} {directory : DataDirectory κ} {path : String}

theorem exists_holds (hfaithful : directory.IsFaithful) {database : Database κ}
    {modified : Instant} (hfile : directory.file? path = some (.database database, modified)) :
    ∃ snapshot metadata, snapshot.IsSound ∧ metadata.exactCount = snapshot.exact.size ∧
      directory.file? path = some (.database (.ofSnapshot snapshot metadata), modified) := by
  obtain ⟨snapshot, metadata, hholds⟩ := hfaithful.of_file? hfile
  refine ⟨snapshot, metadata, hholds.sound, hholds.exactCount, ?_⟩
  rw [hfile, hholds.written]

variable [DatabaseFormat κ]

/-- What is read was stored here, or is judged by its bytes. -/
theorem stored_or_foreign {database : Database κ} (hopen : open? directory path = .ok database) :
    (∃ modified, directory.file? path = some (.database database, modified)) ∨
      directory.IsForeign path := by
  obtain ⟨content, modified, hfile, hdatabase⟩ := open?_eq_ok_iff.mp hopen
  cases content with
  | plain bytes => exact Or.inr ⟨bytes, modified, hfile⟩
  | database stored =>
      cases hdatabase
      exact Or.inl ⟨modified, hfile⟩

theorem hasKeyTexts_of_loadExact (hfaithful : directory.IsFaithful) {exact : ExactTable}
    (hforeign : directory.IsForeign path → Table.HasKeyTexts exact)
    (hload : loadExact directory path = .ok exact) : Table.HasKeyTexts exact := by
  obtain ⟨database, _, hopen, _, _⟩ := loadExact_eq_ok_iff.mp hload
  rcases stored_or_foreign hopen with ⟨modified, hfile⟩ | houtside
  · obtain ⟨snapshot, metadata, hsound, _, hfile⟩ := exists_holds hfaithful hfile
    rw [loadExact_of_file? hfile hsound.exactKeys.ne_empty] at hload
    cases hload
    exact hsound.exactKeys
  · exact hforeign houtside

theorem hasKeyTexts_of_loadEstimates (hfaithful : directory.IsFaithful)
    (hstored : ¬ directory.IsForeign path) {estimates : EstimateTable κ}
    (hload : loadEstimates directory path = .ok estimates) : Table.HasKeyTexts estimates := by
  obtain ⟨database, _, hopen, _, _⟩ := loadEstimates_eq_ok_iff.mp hload
  obtain ⟨modified, hfile⟩ := (stored_or_foreign hopen).resolve_right hstored
  obtain ⟨snapshot, metadata, hsound, _, hfile⟩ := exists_holds hfaithful hfile
  rw [loadEstimates_of_file? hfile] at hload
  cases hload
  exact hsound.estimateKeys

/-- The exact entries and their number are read back as they were written. -/
theorem exactCount_of_readMetadata (hfaithful : directory.IsFaithful) {exact : ExactTable}
    {facts : Metadata}
    (hforeign : directory.IsForeign path →
      Table.HasKeyTexts exact ∧ facts.exactCount = exact.size)
    (hread : readMetadata directory path = .ok facts)
    (hload : loadExact directory path = .ok exact) :
    Table.HasKeyTexts exact ∧ facts.exactCount = exact.size := by
  obtain ⟨database, _, hopen, _, _⟩ := loadExact_eq_ok_iff.mp hload
  rcases stored_or_foreign hopen with ⟨modified, hfile⟩ | houtside
  · obtain ⟨stored, metadata, hsound, hcount, hfile⟩ := exists_holds hfaithful hfile
    rw [loadExact_of_file? hfile hsound.exactKeys.ne_empty] at hload
    cases hload
    obtain ⟨created, _, _, rfl⟩ := (readMetadata_eq_ok_iff hfile).mp hread
    exact ⟨hsound.exactKeys, hcount⟩
  · exact hforeign houtside

end SnapshotStore

end PostalRegions
